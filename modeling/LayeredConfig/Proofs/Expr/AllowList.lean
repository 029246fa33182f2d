import LayeredConfig.Expr.Eval
import LayeredConfig.Proofs.Expr.Lexemes
import LayeredConfig.Proofs.Expr.Parser
import Mathlib.Logic.ExistsUnique

/-!
# Only allowed names

The grammar has a few words of its own, and otherwise the names of functions, each with a parenthesis that
opens its arguments (`Derives.named`). Every run of letters, digits and underscores that stands in a source
outside its literals is a word of the scanner (`wordRuns_outside`). So an expression that is accepted names
nothing else, at any place and any depth, and reaches into nothing by a point (`names_of_parse`).
-/

namespace LayeredConfig.Expr

/-! ## Words of the grammar -/

/-- The words that are not the name of a function. -/
def plainWords : List String :=
  ["x", "true", "True", "false", "False", "null", "None", "and", "or", "not", "in"]

/-- The name of a word. -/
def Token.word? : Token → Option String
  | word name => some name
  | _ => none

/-- Every word is plain, or the name of a function that is called. -/
inductive Named : List Token → Prop where
  | nil : Named []
  | plain {name : String} {ts : List Token} (h : name ∈ plainWords) :
      Named ts → Named (.word name :: ts)
  | call {ts : List Token} (f : Builtin) : Named ts → Named (.word f.name :: .symbol .openParen :: ts)
  | other {token : Token} {ts : List Token} (h : token.word? = none) : Named ts → Named (token :: ts)

theorem Named.append {ts us : List Token} (h : Named ts) (h' : Named us) : Named (ts ++ us) := by
  induction h with
  | nil => exact h'
  | plain hname _ ih => exact .plain hname ih
  | call f _ ih => exact .call f ih
  | other htoken _ ih => exact .other htoken ih

/-- A token that stands for a value has a plain word, if any. -/
theorem Stands.named {token : Token} {t : Node} (h : Stands token t) : Named [token] := by
  cases h with
  | integer | float | string => exact .other rfl .nil
  | trueWord h | falseWord h | nullWord h => rcases h with rfl | rfl <;> exact .plain (by decide) .nil
  | var => exact .plain (by decide) .nil

theorem Joins.named {p : Phrase} {token : Token} {build : Node → Node → Node}
    (h : Joins p token build) : Named [token] := by
  cases h with
  | or | and => exact .plain (by decide) .nil
  | _ => exact .other rfl .nil

theorem CompareOp.named (op : CompareOp) : Named op.tokens := by
  cases op with
  | isIn => exact .plain (by decide) .nil
  | notIn => exact .plain (by decide) (.plain (by decide) .nil)
  | _ => exact .other rfl .nil

/-- The grammar holds no other words. -/
theorem Derives.named {n : Nat} {p : Phrase} {ts : List Token} {t : Node} (h : Derives n p ts t) :
    Named ts := by
  have hsymbol (s : Symbol) : Named [.symbol s] := .other rfl .nil
  -- links and items have the same property as phrases
  induction h using @Derives.rec _ (fun _ ts _ _ => Named ts) (fun _ ts _ _ => Named ts) with
  | single _ _ ih => exact ih
  | join _ hjoin _ _ ih ih' => exact ih.append (hjoin.named.append ih')
  | not _ ih => exact .plain (by decide) ih
  | comparison _ _ ih ih' => exact ih.append ih'
  | negative _ ih | positive _ ih => exact .other rfl ih
  | power _ _ ih ih' => exact ih.append (.other rfl ih')
  | index _ _ ih ih' => exact (ih.append (.other rfl ih')).append (hsymbol _)
  | stands h => exact h.named
  | group _ ih | list _ ih => exact .other rfl (ih.append (hsymbol _))
  | call f _ _ ih => exact .call f (ih.append (hsymbol _))
  | done | nil => exact .nil
  | link op _ _ ih ih' => exact (op.named.append ih).append ih'
  | last _ ih => exact ih
  | cons _ _ ih ih' => exact ih.append (.other rfl ih')

/-- Tokens name nothing but what the language has, and take no part of a value by a point. -/
structure AllowListed (tokens : List Token) : Prop where
  words : ∀ name, .word name ∈ tokens → name ∈ plainWords ∨ ∃ f : Builtin, name = f.name
  calls : ∀ before (f : Builtin) after, tokens = before ++ .word f.name :: after →
    ∃ rest, after = .symbol .openParen :: rest
  symbols : ∀ s : Symbol, .symbol s ∈ tokens → s.text ≠ "."

/-- Every word among the tokens is plain or the name of a function. -/
theorem Named.words {ts : List Token} (h : Named ts) {name : String} (hname : .word name ∈ ts) :
    name ∈ plainWords ∨ ∃ f : Builtin, name = f.name := by
  induction h with
  | nil => cases hname
  | plain hplain _ ih =>
    rcases List.mem_cons.1 hname with heq | hrest
    · cases heq
      exact .inl hplain
    · exact ih hrest
  | call f _ ih =>
    rcases List.mem_cons.1 hname with heq | hrest
    · cases heq
      exact .inr ⟨f, rfl⟩
    · rcases List.mem_cons.1 hrest with heq | hrest
      · cases heq
      · exact ih hrest
  | other htoken _ ih =>
    rcases List.mem_cons.1 hname with heq | hrest
    · subst heq
      cases htoken
    · exact ih hrest

/-- No function is named by a plain word. -/
theorem name_notMem_plainWords (f : Builtin) : f.name ∉ plainWords := by
  cases f <;> decide

/-- The name of a function is followed by an opening parenthesis: no plain word could have put it there. -/
theorem Named.calls {ts : List Token} (h : Named ts) {before after : List Token} {f : Builtin}
    (hts : ts = before ++ .word f.name :: after) : ∃ rest, after = .symbol .openParen :: rest := by
  induction h generalizing before with
  | nil => simp at hts
  | plain hplain _ ih =>
    rcases List.cons_eq_append_iff.1 hts with ⟨rfl, heq⟩ | ⟨before', rfl, hrest⟩
    · -- no function has the name of a plain word
      cases heq
      exact absurd hplain (name_notMem_plainWords f)
    · exact ih hrest
  | @call us g _ ih =>
    rcases List.cons_eq_append_iff.1 hts with ⟨rfl, heq⟩ | ⟨before', rfl, hrest⟩
    · exact ⟨us, (List.cons.inj heq).2⟩
    · rcases List.cons_eq_append_iff.1 hrest with ⟨rfl, heq⟩ | ⟨before'', rfl, hrest⟩
      · cases heq
      · exact ih (List.cons.inj hrest).2
  | other htoken _ ih =>
    rcases List.cons_eq_append_iff.1 hts with ⟨rfl, heq⟩ | ⟨before', rfl, hrest⟩
    · cases heq
      cases htoken
    · exact ih hrest

/-- Tokens whose words are named are allow-listed; no symbol is a point. -/
theorem Named.allowListed {ts : List Token} (h : Named ts) : AllowListed ts where
  words _ := h.words
  calls _ _ _ := h.calls
  symbols s _ := by cases s <;> decide

/-! ## Words of the source -/

/-- The part of a source that a piece leaves for names: a literal counts as spaces. -/
def Piece.outside (p : Piece) : List Char :=
  if p.kind = .number ∨ p.kind = .quoted then p.text.map fun _ => ' ' else p.text

/-- A source with spaces in place of its literals. -/
def outside (pieces : List Piece) : List Char := pieces.flatMap Piece.outside

/-- The runs of letters, digits and underscores of a text, each as long as it can be. -/
def wordRuns (s : List Char) : List (List Char) :=
  (s.splitOnP fun c => !isWordPart c).filter fun run => run ≠ []

theorem wordRuns_nil : wordRuns [] = [] := by
  rfl

/-- What is no part of a word is left out of the runs. -/
theorem wordRuns_append_of_none {s : List Char} (h : ∀ c ∈ s, isWordPart c = false) (t : List Char) :
    wordRuns (s ++ t) = wordRuns t := by
  induction s with
  | nil => rfl
  | cons c s ih =>
    rw [← ih fun d hd => h d (List.mem_cons_of_mem c hd)]
    simp [wordRuns, List.splitOnP_cons_eq_if_modifyHead, h c List.mem_cons_self]

theorem wordRuns_append_of_all {w : List Char} (hw : ∀ c ∈ w, isWordPart c = true) (hsome : w ≠ [])
    {t : List Char} (ht : ∀ c ∈ t.head?, isWordPart c = false) :
    wordRuns (w ++ t) = w :: wordRuns t := by
  have hnone : ∀ c ∈ w, (!isWordPart c) = false := by simpa using hw
  cases t with
  | nil =>
    rw [List.append_nil, wordRuns, List.splitOnP_eq_singleton hnone,
      List.filter_cons_of_pos (by simpa using hsome)]
    rfl
  | cons c t =>
    have hc : (!isWordPart c) = true := by simpa using ht c rfl
    rw [wordRuns, List.splitOnP_append_cons_of_forall_mem hnone c hc,
      List.filter_cons_of_pos (by simpa using hsome)]
    simp [wordRuns, List.splitOnP_cons_eq_if_modifyHead, hc]

/-- Each piece of a divided source is spelled as its kind asks. -/
theorem Divided.spells {s : List Char} {pieces : List Piece} (h : Divided s pieces) :
    ∀ p ∈ pieces, Spells p.kind p.text := by
  induction h with
  | nil => simp
  | cons hspells _ _ ih => exact List.forall_mem_cons.2 ⟨hspells, ih⟩

/-- Only words show letters, digits and underscores. -/
theorem Spells.outside {kind : Kind} {text : List Char} (h : Spells kind text) (hkind : kind ≠ .word) :
    ∀ c ∈ Piece.outside ⟨kind, text⟩, isWordPart c = false := by
  have hspace : isWordPart ' ' = false := by decide
  cases h with
  | blank h => simpa [Piece.outside] using isWordPart_of_isBlank h
  | number | quoted => simp [Piece.outside, hspace]
  | word => exact absurd rfl hkind
  | symbol s =>
    have hnone : (s.text.toList.all fun c => !isWordPart c) = true := by cases s <;> decide
    simpa [Piece.outside] using hnone

/-- A word has letters, digits and underscores only, and at least one. -/
theorem Spells.word_all {text : List Char} (h : Spells .word text) :
    text ≠ [] ∧ ∀ c ∈ text, isWordPart c = true := by
  cases h with
  | word hstart hparts =>
    exact ⟨List.cons_ne_nil _ _, List.forall_mem_cons.2 ⟨isWordPart_of_isWordStart hstart, hparts⟩⟩

/-- A word goes on as long as it can. -/
theorem Longest.head_of_word {text rest : List Char} (hlongest : Longest text rest)
    (h : Spells .word text) : ∀ c ∈ rest.head?, isWordPart c = false := by
  intro c hc
  obtain ⟨rest', rfl⟩ := List.head?_eq_some_iff.1 hc
  cases h with
  | @word d s hstart hparts =>
    rw [← Bool.not_eq_true]
    intro hpart
    have hlonger : Spells .word (d :: (s ++ [c])) :=
      .word hstart (by simpa [or_imp, forall_and] using ⟨hparts, hpart⟩)
    have hle : (d :: (s ++ [c])).length ≤ (d :: s).length := hlongest _ _ hlonger ⟨rest', by simp⟩
    simp only [List.length_cons, List.length_append, List.length_nil] at hle
    omega

/-- Outside its literals a source begins with a space or as it begins itself. -/
theorem Divided.head_outside {s : List Char} {pieces : List Piece} (h : Divided s pieces) :
    ∀ c ∈ (outside pieces).head?, c = ' ' ∨ c ∈ s.head? := by
  cases h with
  | nil => simp [Expr.outside]
  | @cons kind text rest pieces hspells _ _ =>
    obtain ⟨d, t, rfl, -⟩ := hspells.startingWith
    intro c hc
    rw [Expr.outside, List.flatMap_cons, Piece.outside] at hc
    split at hc
    · exact .inl (by simpa [eq_comm] using hc)
    · exact .inr (by simpa using hc)

/-- **Names are words.** The runs of letters, digits and underscores outside the literals of a source are
its words, one for one. -/
theorem Divided.wordRuns_outside {s : List Char} {pieces : List Piece} (h : Divided s pieces) :
    wordRuns (outside pieces) = (pieces.filter fun p => p.kind = .word).map Piece.text := by
  induction h with
  | nil => exact wordRuns_nil
  | @cons kind text rest pieces hspells hlongest hrest ih =>
    rw [outside, List.flatMap_cons, ← outside]
    by_cases hkind : kind = .word
    · subst hkind
      obtain ⟨hsome, hall⟩ := hspells.word_all
      -- nothing behind the word could go on with it, so it is a run of its own
      have hhead : ∀ c ∈ (Expr.outside pieces).head?, isWordPart c = false := by
        intro c hc
        rcases hrest.head_outside c hc with rfl | hc
        · decide
        · exact hlongest.head_of_word hspells c hc
      rw [show Piece.outside ⟨.word, text⟩ = text from rfl, wordRuns_append_of_all hall hsome hhead, ih]
      rfl
    · rw [wordRuns_append_of_none (hspells.outside hkind), ih, List.filter_cons_of_neg (by simpa)]

/-- The words among the tokens are the texts of the word pieces. -/
theorem word?_of_makes {pieces : List Piece} {tokens : List Token}
    (h : List.Forall₂ Makes pieces tokens) :
    tokens.filterMap Token.word? =
      (pieces.filter fun p => p.kind = .word).map fun p => String.ofList p.text := by
  induction h with
  | nil => rfl
  | cons hmake _ ih => cases hmake <;> simp [List.filterMap_cons, Token.word?, ih]

/-- Outside the literals of a divided source there is no point. -/
theorem Divided.point_notMem_outside {s : List Char} {pieces : List Piece} (h : Divided s pieces) :
    '.' ∉ outside pieces := by
  rw [outside, List.mem_flatMap]
  rintro ⟨⟨kind, text⟩, hp, hmem⟩
  cases h.spells _ hp with
  | blank h =>
    obtain rfl : '.' = _ := by simpa [Piece.outside] using hmem
    exact absurd h (by decide)
  | number | quoted => simp [Piece.outside] at hmem
  | word hstart hparts =>
    have hpart := (Spells.word hstart hparts).word_all.2 '.' hmem
    exact absurd hpart (by decide)
  | symbol s => cases s <;> exact absurd hmem (by decide)

/-! ## Expressions -/

/-- **Nothing outside the list is named.** The words of an accepted expression are the plain ones and the
names of functions, the latter with a parenthesis behind them, and no symbol is a point. Its source falls
into pieces in one way. Each piece but the blanks is a token, and with spaces in place of the literals the
source has no point, and no names but the words among the tokens. -/
theorem names_of_parse {source : String} {expr : Expr} (h : Expr.parse source = .ok expr) :
    ∃ tokens, scan source.toList = .ok tokens ∧ AllowListed tokens ∧
      (∃! pieces, Divided source.toList pieces) ∧
      ∀ pieces, Divided source.toList pieces →
        List.Forall₂ Makes (pieces.filter fun p => p.kind ≠ .blank) tokens ∧
        (wordRuns (outside pieces)).map String.ofList = tokens.filterMap Token.word? ∧
        '.' ∉ outside pieces := by
  obtain ⟨tokens, hscan, hallowed⟩ : ∃ tokens, scan source.toList = .ok tokens ∧ AllowListed tokens := by
    unfold Expr.parse parseNode at h
    split at h
    · cases h
    · next root hroot =>
      split at hroot
      · cases hroot
      · next tokens hscan => exact ⟨tokens, hscan, (parseTokens_sound hroot).2.named.allowListed⟩
  obtain ⟨pieces, hdivided, hmakes⟩ := divided_of_scan hscan
  refine ⟨tokens, hscan, hallowed, ⟨pieces, hdivided, fun _ h => h.unique hdivided⟩,
    fun others hothers => ?_⟩
  obtain rfl := hothers.unique hdivided
  refine ⟨hmakes, ?_, hdivided.point_notMem_outside⟩
  have hwords := word?_of_makes hmakes
  rw [List.filter_filter] at hwords
  rw [hdivided.wordRuns_outside, hwords, List.map_map]
  congr 1
  refine List.filter_congr fun p _ => ?_
  cases p.kind <;> rfl

/-- What looks like a call of a method stands in quotes. -/
theorem names_of_parse_quoted :
    ∃ expr, Expr.parse "len ( \"open(x).y\" ) > len ( x )" = .ok expr ∧
      ∃ tokens, scan "len ( \"open(x).y\" ) > len ( x )".toList = .ok tokens ∧
        AllowListed tokens ∧
        ∃! pieces, Divided "len ( \"open(x).y\" ) > len ( x )".toList pieces := by
  have hlegible : ∀ token ∈ [Token.word "len", .symbol .openParen, .string "open(x).y",
      .symbol .closeParen, .symbol .greater, .word "len", .symbol .openParen, .word "x",
      .symbol .closeParen], token.Legible := by
    simp [legible_word, legible_symbol, legible_string, vocabulary, Builtin.all, Builtin.name]
  have hscan : scan "len ( \"open(x).y\" ) > len ( x )".toList = .ok _ := scan_unwords hlegible
  obtain ⟨expr, h⟩ : ∃ expr, Expr.parse "len ( \"open(x).y\" ) > len ( x )" = .ok expr := by
    rw [Expr.parse, parseNode, hscan]
    exact ⟨_, rfl⟩
  obtain ⟨tokens, htokens, hallowed, hdivided, -⟩ := names_of_parse h
  exact ⟨expr, h, tokens, htokens, hallowed, hdivided⟩

end LayeredConfig.Expr
