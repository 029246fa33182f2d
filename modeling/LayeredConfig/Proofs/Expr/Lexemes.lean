import LayeredConfig.Proofs.Expr.Spelling
import Mathlib.Data.List.Forall2
import Mathlib.Data.List.TakeWhile

/-!
# The pieces of a source text

A source text falls into blanks, number literals, string literals, words and symbols. `Spells` says how
each kind of piece is spelled and `Divided` takes the longest piece each time, neither of them with a
scanner. There is at most one such division (`Divided.unique`), and the scanner finds it: the tokens of a
text are those of its pieces, one for each piece that is not blank (`divided_of_scan`).
-/

namespace LayeredConfig.Expr

open LayeredConfig.Text (isDigit isBlank)

/-! ## Spelling -/

/-- A kind of piece. -/
inductive Kind where
  | blank
  | number
  | quoted
  | word
  | symbol
deriving DecidableEq, Repr

/-- Nothing, or a point with digits after it. -/
inductive Places : List Char → Prop where
  | none : Places []
  | point {digits : List Char} (h : ∀ c ∈ digits, isDigit c = true) : Places ('.' :: digits)

/-- Nothing, or an `e` with an optional sign and digits after it. -/
inductive Exponent : List Char → Prop where
  | none : Exponent []
  | scaled {mark : Char} {sign digits : List Char} (hmark : mark = 'e' ∨ mark = 'E')
      (hsign : sign = [] ∨ sign = ['+'] ∨ sign = ['-']) (hdigits : ∀ c ∈ digits, isDigit c = true)
      (hsome : digits ≠ []) : Exponent (mark :: (sign ++ digits))

/-- What follows an opening quote, up to and including the closing one. The character behind a backslash
never closes. -/
inductive Closes (quote : Char) : List Char → Prop where
  | close : Closes quote [quote]
  | escape {c : Char} {s : List Char} : Closes quote s → Closes quote ('\\' :: c :: s)
  | plain {c : Char} {s : List Char} (hquote : c ≠ quote) (hescape : c ≠ '\\') :
      Closes quote s → Closes quote (c :: s)

/-- The texts of each kind of piece. -/
inductive Spells : Kind → List Char → Prop where
  | blank {c : Char} (h : isBlank c = true) : Spells .blank [c]
  | number {whole places exponent : List Char} (hwhole : ∀ c ∈ whole, isDigit c = true)
      (hplaces : Places places) (hexponent : Exponent exponent)
      (hdigit : whole ≠ [] ∨ 1 < places.length) : Spells .number (whole ++ places ++ exponent)
  | quoted {quote : Char} {s : List Char} (hquote : quote = '"' ∨ quote = '\'')
      (h : Closes quote s) : Spells .quoted (quote :: s)
  | word {c : Char} {s : List Char} (hstart : isWordStart c = true)
      (h : ∀ d ∈ s, isWordPart d = true) : Spells .word (c :: s)
  | symbol (s : Symbol) : Spells .symbol s.text.toList

/-- No piece of any kind that begins like `text` with `rest` behind it is longer than `text`. -/
def Longest (text rest : List Char) : Prop :=
  ∀ kind longer, Spells kind longer → longer <+: text ++ rest → longer.length ≤ text.length

/-- A part of a source text. -/
structure Piece where
  kind : Kind
  text : List Char

/-- A text is made of pieces, each the longest one that begins where it does. -/
inductive Divided : List Char → List Piece → Prop where
  | nil : Divided [] []
  | cons {kind : Kind} {text rest : List Char} {pieces : List Piece} (h : Spells kind text)
      (hlongest : Longest text rest) :
      Divided rest pieces → Divided (text ++ rest) (⟨kind, text⟩ :: pieces)

/-- The token of a piece; what number or text a literal stands for is left open. -/
inductive Makes : Piece → Token → Prop where
  | integer {text : List Char} (i : Int64) : Makes ⟨.number, text⟩ (.integer i)
  | float {text : List Char} (x : Float) : Makes ⟨.number, text⟩ (.float x)
  | string {text : List Char} (s : String) : Makes ⟨.quoted, text⟩ (.string s)
  | word (text : List Char) : Makes ⟨.word, text⟩ (.word (String.ofList text))
  | symbol (s : Symbol) : Makes ⟨.symbol, s.text.toList⟩ (.symbol s)

/-! ## Classes of characters -/

/-- A number in the ranges of a table is one of those that the ranges count up. -/
theorem mem_ranges_of_inRanges {n : Nat} {ranges : List (Nat × Nat)}
    (h : Text.inRanges n ranges = true) :
    n ∈ ranges.flatMap fun range => List.range' range.1 (range.2 + 1 - range.1) := by
  induction ranges with
  | nil => cases h
  | cons range ranges ih =>
    simp only [Text.inRanges] at h
    split at h
    · cases h
    · next hfirst =>
      rw [List.flatMap_cons, List.mem_append]
      rcases Bool.or_eq_true_iff.1 h with hlast | hrest
      · refine .inl (List.mem_range'_1.2 ?_)
        have hle := of_decide_eq_true hlast
        omega
      · exact .inr (ih hrest)

/-- White space is no part of a word. -/
theorem isWordPart_of_isBlank {c : Char} (h : isBlank c = true) : isWordPart c = false := by
  have htables : ∀ n ∈ Text.Table.whitespace.flatMap
      fun range => List.range' range.1 (range.2 + 1 - range.1),
      Text.inRanges n Text.Table.alphabetic = false ∧
        Text.inRanges n Text.Table.numeric = false := by decide +kernel
  obtain ⟨halphabetic, hnumeric⟩ := htables _ (mem_ranges_of_inRanges h)
  have hunderscore : c ≠ '_' := by
    rintro rfl
    exact absurd h (by decide)
  simp [isWordPart, Text.isAlphanumeric, Text.isAlphabetic, halphabetic, hnumeric, hunderscore]

/-- What begins a word may go on in it. -/
theorem isWordPart_of_isWordStart {c : Char} (h : isWordStart c = true) : isWordPart c = true := by
  rcases Bool.or_eq_true_iff.1 h with h | h <;> simp [isWordPart, Text.isAlphanumeric, h]

/-- No blank begins a word. -/
theorem isBlank_of_isWordStart {c : Char} (h : isWordStart c = true) : isBlank c = false := by
  rw [← Bool.not_eq_true]
  intro hblank
  exact absurd (isWordPart_of_isWordStart h) (by simp [isWordPart_of_isBlank hblank])

/-- What holds of the ten characters from `0` to `9` holds of every digit. -/
theorem all_of_isDigit {p : Char → Bool}
    (h : ['0', '1', '2', '3', '4', '5', '6', '7', '8', '9'].all p = true) {c : Char}
    (hc : isDigit c = true) : p c = true := by
  have hrange : 48 ≤ c.toNat ∧ c.toNat ≤ 57 := by
    simpa [isDigit, Char.le_def, UInt32.le_iff_toNat_le] using hc
  have hchars : ∀ n ∈ List.range' 48 10,
      Char.ofNat n ∈ ['0', '1', '2', '3', '4', '5', '6', '7', '8', '9'] := by decide
  rw [← Char.ofNat_toNat c]
  exact List.all_eq_true.1 h _ (hchars _ (List.mem_range'_1.2 (by omega)))

theorem isDigit_of_isWordStart {c : Char} (h : isWordStart c = true) : isDigit c = false := by
  rw [← Bool.not_eq_true]
  intro hdigit
  have hstart : (!isWordStart c) = true :=
    all_of_isDigit (p := fun d => !isWordStart d) (by decide) hdigit
  exact absurd h (by simpa using hstart)

/-! ## The first character tells the kind -/

/-- The kind of the pieces that begin with a character. -/
def Kind.startingWith (c : Char) : Kind :=
  if isBlank c then blank
  else if isDigit c || c = '.' then number
  else if c = '"' || c = '\'' then quoted
  else if isWordStart c then word
  else symbol

/-- A digit begins a number. -/
theorem Kind.startingWith_digit {c : Char} (h : isDigit c = true) :
    Kind.startingWith c = .number := by
  simp [startingWith, isBlank_of_isDigit h, h]

theorem Kind.startingWith_word {c : Char} (h : isWordStart c = true) :
    Kind.startingWith c = .word := by
  have hpoint : c ≠ '.' := by rintro rfl; exact absurd h (by decide)
  have hdouble : c ≠ '"' := by rintro rfl; exact absurd h (by decide)
  have hsingle : c ≠ '\'' := by rintro rfl; exact absurd h (by decide)
  simp [startingWith, isBlank_of_isWordStart h, isDigit_of_isWordStart h, hpoint, hdouble, hsingle, h]

/-- A piece of a kind is not empty, and its first character tells the kind. -/
theorem Spells.startingWith {kind : Kind} {text : List Char} (h : Spells kind text) :
    ∃ c s, text = c :: s ∧ Kind.startingWith c = kind := by
  cases h with
  | blank h => exact ⟨_, _, rfl, by simp [Kind.startingWith, h]⟩
  | @number whole places exponent hwhole hplaces _ hdigit =>
    cases whole with
    | cons d whole => exact ⟨d, _, rfl, Kind.startingWith_digit (hwhole d List.mem_cons_self)⟩
    | nil =>
      cases hplaces with
      | none => simp at hdigit
      | point _ => exact ⟨'.', _, rfl, by decide⟩
  | quoted hquote _ => exact ⟨_, _, rfl, by rcases hquote with rfl | rfl <;> decide⟩
  | word hstart _ => exact ⟨_, _, rfl, Kind.startingWith_word hstart⟩
  | symbol s => cases s <;> exact ⟨_, _, rfl, by decide⟩

/-- Only pieces of the same kind can be longer. -/
theorem Spells.longest {kind : Kind} {text rest : List Char} (h : Spells kind text)
    (hkind : ∀ longer, Spells kind longer → longer <+: text ++ rest → longer.length ≤ text.length) :
    Longest text rest := by
  intro kind' longer hlonger hfront
  obtain ⟨c, s, rfl, rfl⟩ := h.startingWith
  obtain ⟨d, t, rfl, rfl⟩ := hlonger.startingWith
  obtain ⟨rfl, -⟩ := List.cons_prefix_cons.1 hfront
  exact hkind _ hlonger hfront

/-- **There is one division.** Pieces that are the longest each time are determined by the text. -/
theorem Divided.unique {s : List Char} {pieces others : List Piece} (h : Divided s pieces)
    (h' : Divided s others) : pieces = others := by
  induction h generalizing others with
  | nil =>
    generalize hs : ([] : List Char) = s at h'
    cases h' with
    | nil => rfl
    | cons hspells _ _ =>
      obtain ⟨c, t, rfl, -⟩ := hspells.startingWith
      cases hs
  | @cons kind text rest pieces hspells hlongest _ ih =>
    generalize hs : text ++ rest = s at h'
    cases h' with
    | nil =>
      obtain ⟨c, t, rfl, -⟩ := hspells.startingWith
      cases hs
    | @cons kind' text' rest' others hspells' hlongest' hothers =>
      -- neither of the two first pieces is longer than the other
      have hle : text'.length ≤ text.length := hlongest _ _ hspells' (hs ▸ List.prefix_append _ _)
      have hge : text.length ≤ text'.length := hlongest' _ _ hspells (hs ▸ List.prefix_append _ _)
      obtain ⟨rfl, rfl⟩ := List.append_inj hs (Nat.le_antisymm hge hle)
      obtain ⟨c, t, rfl, rfl⟩ := hspells.startingWith
      obtain ⟨_, _, heq, rfl⟩ := hspells'.startingWith
      cases heq
      rw [ih hothers]

/-! ## Numbers -/

/-- What follows the number literal at the front of a text. -/
def afterNumber (s : List Char) : List Char :=
  (dropExponent (dropPlaces (s.dropWhile isDigit)).2).2

theorem afterNumber_suffix (s : List Char) : afterNumber s <:+ s :=
  (dropExponent_suffix _).trans ((dropPlaces_suffix _).trans (List.dropWhile_suffix _))

/-- A digit is no sign, so digits stay in front. -/
theorem dropSign_digits {digits : List Char} (h : ∀ c ∈ digits, isDigit c = true)
    (hsome : digits ≠ []) (rest : List Char) : dropSign (digits ++ rest) = digits ++ rest := by
  cases digits with
  | nil => exact absurd rfl hsome
  | cons d digits =>
    have hdigit : isDigit d = true := h d List.mem_cons_self
    unfold dropSign
    split
    · next heq => cases heq; exact absurd hdigit (by decide)
    · next heq => cases heq; exact absurd hdigit (by decide)
    · rfl

/-- Digits, an exponent and what follows them: no more than what follows is left. -/
theorem dropExponent_exponent_suffix {exponent : List Char} (h : Exponent exponent)
    (rest : List Char) : (dropExponent ((exponent ++ rest).dropWhile isDigit)).2 <:+ rest := by
  cases h with
  | none => exact (dropExponent_suffix _).trans (List.dropWhile_suffix _)
  | @scaled mark sign digits hmark hsign hdigits hsome =>
    have hsigned : dropSign (sign ++ (digits ++ rest)) = digits ++ rest := by
      rcases hsign with rfl | rfl | rfl
      · exact dropSign_digits hdigits hsome rest
      · rfl
      · rfl
    have hleft : (dropSign (sign ++ (digits ++ rest))).dropWhile isDigit <:+ rest := by
      rw [hsigned, List.dropWhile_append_of_pos hdigits]
      exact List.dropWhile_suffix _
    rw [List.cons_append, List.append_assoc]
    rcases hmark with rfl | rfl <;> exact hleft

/-- A reader that goes on as long as it can goes past every number literal. -/
theorem afterNumber_append_suffix {text : List Char} (h : Spells .number text) (rest : List Char) :
    afterNumber (text ++ rest) <:+ rest := by
  cases h with
  | @number whole places exponent hwhole hplaces hexponent _ =>
    unfold afterNumber
    rw [List.append_assoc, List.append_assoc, List.dropWhile_append_of_pos hwhole]
    cases hplaces with
    | @point digits hdigits =>
      have hpoint : dropPlaces (('.' :: digits ++ (exponent ++ rest)).dropWhile isDigit) =
          (true, (exponent ++ rest).dropWhile isDigit) := by
        rw [List.cons_append, List.dropWhile_cons_of_neg (by decide), dropPlaces,
          List.dropWhile_append_of_pos hdigits]
      rw [hpoint]
      exact dropExponent_exponent_suffix hexponent rest
    | none =>
      cases hexponent with
      | none => exact afterNumber_suffix rest
      | scaled hmark hsign hdigits hsome =>
        -- the mark of an exponent stops the digits and is no point
        have hexponent := dropExponent_exponent_suffix (.scaled hmark hsign hdigits hsome) rest
        rcases hmark with rfl | rfl <;> exact hexponent

/-- The scanner reads no sign into a number: what begins one is a digit or a point. -/
theorem splitSign_of_startsNumber {c : Char} {s : List Char} (h : isDigit c = true ∨ c = '.') :
    Decimal.splitSign (c :: s) = (false, c :: s) := by
  rcases h with h | rfl
  · exact splitSign_of_isDigit h s
  · rfl

/-- A text that begins like a number and reads as an integer spells a number. -/
theorem spells_of_integerChars? {c : Char} {s : List Char} {i : Int64}
    (hc : isDigit c = true ∨ c = '.') (h : Decimal.integerChars? (c :: s) = some i) :
    Spells .number (c :: s) := by
  simp only [Decimal.integerChars?, splitSign_of_startsNumber hc] at h
  split at h
  · cases h
  · next hdigits =>
    have hall : ∀ d ∈ c :: s, isDigit d = true := by simpa using hdigits
    simpa using Spells.number hall .none .none (.inl (List.cons_ne_nil c s))

/-- What reads as an exponent is written as one. -/
theorem exponent_of_exponent? {mark : Char} {s : List Char} {e : Int}
    (hmark : mark = 'e' ∨ mark = 'E') (h : Decimal.exponent? s = some e) : Exponent (mark :: s) := by
  have hsign : ∃ sign, (sign = [] ∨ sign = ['+'] ∨ sign = ['-']) ∧
      s = sign ++ (Decimal.splitSign s).2 := by
    unfold Decimal.splitSign
    split
    · exact ⟨['-'], by simp⟩
    · exact ⟨['+'], by simp⟩
    · exact ⟨[], by simp⟩
  obtain ⟨sign, hsign, hs⟩ := hsign
  simp only [Decimal.exponent?] at h
  split at h
  · cases h
  · next hdigits =>
    simp only [Bool.or_eq_true, not_or, Bool.not_eq_true, List.isEmpty_eq_false_iff,
      Bool.not_eq_false', List.all_eq_true] at hdigits
    rw [hs]
    exact .scaled hmark hsign hdigits.2 hdigits.1

/-- Behind the digits of a decimal stands nothing or an exponent. -/
theorem exponent_of_rest {rest : List Char} {unscaled x : Float} {scaled : Int → Float}
    (h : (match rest with
      | [] => some unscaled
      | c :: after => if c = 'e' || c = 'E' then (Decimal.exponent? after).map scaled else none) =
        some x) : Exponent rest := by
  split at h
  · exact .none
  · split at h
    · next hmark =>
      obtain ⟨e, he, -⟩ := Option.map_eq_some_iff.1 h
      exact exponent_of_exponent? (by simpa using hmark) he
    · cases h

/-- A text without a sign that reads as a float spells a number. -/
theorem spells_of_unsigned? {negative : Bool} {s : List Char} {x : Float}
    (h : Decimal.unsigned? negative s = some x) : Spells .number s := by
  have hdigits (t : List Char) : ∀ c ∈ t.takeWhile isDigit, isDigit c = true :=
    fun _ => List.mem_takeWhile_imp
  have hs : s.takeWhile isDigit ++ s.dropWhile isDigit = s := List.takeWhile_append_dropWhile
  simp only [Decimal.unsigned?] at h
  split at h
  · next after hafter =>
    split at h
    · cases h
    · next hsome =>
      have hdigit : s.takeWhile isDigit ≠ [] ∨ 1 < ('.' :: after.takeWhile isDigit).length := by
        rw [Bool.and_eq_true, not_and_or, List.isEmpty_iff, List.isEmpty_iff] at hsome
        exact hsome.imp_right fun h => Nat.succ_lt_succ (List.length_pos_iff.2 h)
      have hsplit : s = s.takeWhile isDigit ++ '.' :: after.takeWhile isDigit ++
          after.dropWhile isDigit := by
        rw [List.append_assoc, List.cons_append, List.takeWhile_append_dropWhile, ← hafter, hs]
      rw [hsplit]
      exact .number (hdigits s) (.point (hdigits after)) (exponent_of_rest h) hdigit
  · split at h
    · cases h
    · next hsome =>
      have hdigit : s.takeWhile isDigit ≠ [] := by simpa using hsome
      have hspells := Spells.number (hdigits s) .none (exponent_of_rest h) (.inl hdigit)
      rwa [List.append_nil, hs] at hspells

/-- A text that begins like a number and reads as a float spells a number. -/
theorem spells_of_numberChars? {c : Char} {s : List Char} {x : Float}
    (hc : isDigit c = true ∨ c = '.') (h : Decimal.numberChars? (c :: s) = some x) :
    Spells .number (c :: s) := by
  have hlower : c.toLower ≠ 'n' ∧ c.toLower ≠ 'i' := by
    rcases hc with hdigit | rfl
    · simpa using all_of_isDigit (p := fun d => d.toLower != 'n' && d.toLower != 'i') (by decide)
        hdigit
    · decide
  simp only [Decimal.numberChars?, splitSign_of_startsNumber hc, List.map_cons, List.cons.injEq,
    hlower.1, hlower.2, false_and, Bool.or_self, decide_false, Bool.false_eq_true, if_false] at h
  exact spells_of_unsigned? h

/-- The number literal at the front ends where digits, places and exponent do, and its text reads as the
token. -/
theorem numberLexeme_eq_ok {s rest : List Char} {token : Token}
    (h : numberLexeme s = .ok (token, rest)) :
    rest = afterNumber s ∧
      ((Decimal.numberChars? (s.take (s.length - rest.length))).map Token.float = some token ∨
        (Decimal.integerChars? (s.take (s.length - rest.length))).map Token.integer =
          some token) := by
  simp only [numberLexeme] at h
  split at h
  · next token' htoken =>
    cases h
    refine ⟨rfl, ?_⟩
    split at htoken
    · exact .inl htoken
    · exact .inr htoken
  · cases h

/-- The text of a number token is the longest number literal. -/
theorem piece_of_numberLexeme {c : Char} {s rest : List Char} {token : Token}
    (hstart : startsNumber c s = true) (h : numberLexeme (c :: s) = .ok (token, rest)) :
    ∃ text, c :: s = text ++ rest ∧ Spells .number text ∧ Longest text rest ∧
      Makes ⟨.number, text⟩ token := by
  have hc : isDigit c = true ∨ c = '.' := by
    rcases Bool.or_eq_true_iff.1 hstart with hdigit | hpoint
    · exact .inl hdigit
    · exact .inr (by simpa using (Bool.and_eq_true_iff.1 hpoint).1)
  have hlength : rest.length ≤ s.length := length_of_numberLexeme hstart h
  obtain ⟨hafter, htoken⟩ := numberLexeme_eq_ok h
  -- the reader leaves a suffix, and what stands before it is the piece
  obtain ⟨text, htext⟩ : rest <:+ c :: s := hafter ▸ afterNumber_suffix _
  have htake : (c :: s).take ((c :: s).length - rest.length) = text := by simp [← htext]
  have hfront : ∃ t, text = c :: t := by
    rcases List.append_eq_cons_iff.1 htext with ⟨-, hwhole⟩ | ⟨t, rfl, -⟩
    · rw [hwhole, List.length_cons] at hlength
      omega
    · exact ⟨t, rfl⟩
  obtain ⟨t, rfl⟩ := hfront
  obtain ⟨hspells, hmakes⟩ : Spells .number (c :: t) ∧ Makes ⟨.number, c :: t⟩ token := by
    rw [htake] at htoken
    rcases htoken with htoken | htoken
    · obtain ⟨x, hx, rfl⟩ := Option.map_eq_some_iff.1 htoken
      exact ⟨spells_of_numberChars? hc hx, .float x⟩
    · obtain ⟨i, hi, rfl⟩ := Option.map_eq_some_iff.1 htoken
      exact ⟨spells_of_integerChars? hc hi, .integer i⟩
  refine ⟨c :: t, htext.symm, hspells, hspells.longest fun longer hlonger hfront => ?_, hmakes⟩
  obtain ⟨rest', hrest'⟩ := hfront
  have hle : rest.length ≤ rest'.length := by
    have hsuffix := afterNumber_append_suffix hlonger rest'
    rw [hrest', htext, ← hafter] at hsuffix
    exact hsuffix.length_le
  have hsum := congrArg List.length hrest'
  simp only [List.length_append] at hsum
  omega

/-! ## Strings, words and symbols -/

/-- A closing quote is found in one place only. -/
theorem Closes.eq_of_append_eq {quote : Char} (hquote : quote ≠ '\\') {s t rest rest' : List Char}
    (h : Closes quote s) (h' : Closes quote t) (heq : s ++ rest = t ++ rest') : s = t := by
  -- the first characters tell by which of the rules the two go on
  have hhead := congrArg List.head? heq
  induction h generalizing t with
  | close =>
    cases h' with
    | close => rfl
    | escape _ => exact absurd (Option.some.inj hhead) hquote
    | plain hne _ _ => exact absurd (Option.some.inj hhead).symm hne
  | escape _ ih =>
    cases h' with
    | close => exact absurd (Option.some.inj hhead).symm hquote
    | escape h' =>
      obtain ⟨rfl, hrest⟩ : _ ∧ _ := by simpa using heq
      rw [ih h' hrest (congrArg _ hrest)]
    | plain _ hescape _ => exact absurd (Option.some.inj hhead).symm hescape
  | plain hne hescape _ ih =>
    cases h' with
    | close => exact absurd (Option.some.inj hhead) hne
    | escape _ => exact absurd (Option.some.inj hhead) hescape
    | plain _ _ h' =>
      obtain ⟨rfl, hrest⟩ : _ ∧ _ := by simpa using heq
      rw [ih h' hrest (congrArg _ hrest)]

/-- A string literal that is read goes up to its closing quote, by induction over what follows the opening
one. -/
theorem closes_of_stringLexeme {quote : Char} {done s rest : List Char} {token : Token}
    (h : stringLexeme quote done s = .ok (token, rest)) :
    ∃ body text, s = body ++ rest ∧ Closes quote body ∧ token = .string text := by
  fun_induction stringLexeme quote done s with
  | case1 => cases h
  | case2 done rest' =>
    cases h
    exact ⟨[_], _, rfl, .close, rfl⟩
  | case3 => cases h
  | case4 done e rest' hne ih =>
    obtain ⟨body, text, rfl, hbody, rfl⟩ := ih h
    exact ⟨'\\' :: e :: body, text, rfl, .escape hbody, rfl⟩
  | case5 done c rest' hne hescape ih =>
    obtain ⟨body, text, rfl, hbody, rfl⟩ := ih h
    exact ⟨c :: body, text, rfl, .plain hne hescape hbody, rfl⟩

/-- A string literal is the longest piece that begins at its quote. -/
theorem piece_of_stringLexeme {quote : Char} {s rest : List Char} {token : Token}
    (hquote : quote = '"' ∨ quote = '\'') (h : stringLexeme quote [] s = .ok (token, rest)) :
    ∃ text, quote :: s = text ++ rest ∧ Spells .quoted text ∧ Longest text rest ∧
      Makes ⟨.quoted, text⟩ token := by
  obtain ⟨body, content, rfl, hbody, rfl⟩ := closes_of_stringLexeme h
  have hspells : Spells .quoted (quote :: body) := .quoted hquote hbody
  have hescape : quote ≠ '\\' := by rcases hquote with rfl | rfl <;> decide
  refine ⟨quote :: body, rfl, hspells, hspells.longest fun longer hlonger hfront => ?_,
    .string content⟩
  obtain ⟨rest', hrest⟩ := hfront
  cases hlonger with
  | quoted _ hclosed =>
    obtain ⟨rfl, heq⟩ : _ ∧ _ := by simpa using hrest
    rw [hclosed.eq_of_append_eq hescape hbody heq]

/-- A word is followed by no character that it could go on with. -/
theorem piece_of_word {c : Char} (s : List Char) (hstart : isWordStart c = true) :
    Spells .word (c :: s.takeWhile isWordPart) ∧
      Longest (c :: s.takeWhile isWordPart) (s.dropWhile isWordPart) := by
  have hspells : Spells .word (c :: s.takeWhile isWordPart) :=
    .word hstart fun _ => List.mem_takeWhile_imp
  refine ⟨hspells, hspells.longest fun longer hlonger hfront => ?_⟩
  rw [List.cons_append, List.takeWhile_append_dropWhile] at hfront
  cases hlonger with
  | @word d t _ hparts =>
    -- the characters of any other word are among those that are taken
    obtain ⟨rest, rfl⟩ := (List.cons_prefix_cons.1 hfront).2
    rw [List.takeWhile_append_of_pos hparts]
    simp

/-- A symbol of two characters is written with them. -/
theorem Symbol.text_of_ofTwo? {c d : Char} {s : Symbol} (h : Symbol.ofTwo? c d = some s) :
    s.text.toList = [c, d] := by
  unfold Symbol.ofTwo? at h
  split at h <;> cases h <;> rfl

theorem Symbol.text_of_ofOne? {c : Char} {s : Symbol} (h : Symbol.ofOne? c = some s) :
    s.text.toList = [c] := by
  unfold Symbol.ofOne? at h
  split at h <;> cases h <;> rfl

/-- A symbol of two characters is known as such, and none has more. -/
theorem Symbol.text_cases (s : Symbol) :
    (∃ c, s.text.toList = [c]) ∨ ∃ c d, s.text.toList = [c, d] ∧ Symbol.ofTwo? c d = some s := by
  cases s
  case power | floorDivide | equal | notEqual | atMost | atLeast => exact .inr ⟨_, _, rfl, rfl⟩
  all_goals exact .inl ⟨_, rfl⟩

/-- A symbol is the longest piece that begins at its first character: two characters are tried before one. -/
theorem piece_of_symbolLexeme {c : Char} {s rest : List Char} {token : Token}
    (h : symbolLexeme c s = .ok (token, rest)) :
    ∃ text, c :: s = text ++ rest ∧ Spells .symbol text ∧ Longest text rest ∧
      Makes ⟨.symbol, text⟩ token := by
  simp only [symbolLexeme] at h
  split at h
  · next symbol hsymbol =>
    cases h
    cases s with
    | nil => cases hsymbol
    | cons d s =>
      have htext : symbol.text.toList = [c, d] := Symbol.text_of_ofTwo? hsymbol
      refine ⟨symbol.text.toList, by simp [htext], .symbol symbol,
        (Spells.symbol symbol).longest fun longer hlonger _ => ?_, .symbol symbol⟩
      cases hlonger with
      | symbol other =>
        rcases other.text_cases with ⟨c', hother⟩ | ⟨c', d', hother, -⟩ <;> simp [hother, htext]
  · next hnone =>
    split at h
    · next symbol hsymbol =>
      cases h
      have htext : symbol.text.toList = [c] := Symbol.text_of_ofOne? hsymbol
      refine ⟨symbol.text.toList, by simp [htext], .symbol symbol,
        (Spells.symbol symbol).longest fun longer hlonger hfront => ?_, .symbol symbol⟩
      cases hlonger with
      | symbol other =>
        rcases other.text_cases with ⟨c', hother⟩ | ⟨c', d', hother, htwo⟩
        · simp [hother, htext]
        · -- its two characters would have been read before
          rw [hother, htext, List.singleton_append, List.cons_prefix_cons] at hfront
          obtain ⟨rfl, after, rfl⟩ := hfront
          cases hnone.symm.trans htwo
    · split at h <;> cases h

/-! ## Whole texts -/

/-- A token is made of the longest piece at its place. -/
theorem piece_of_lexeme {c : Char} {s rest : List Char} {token : Token}
    (h : lexeme c s = .ok (token, rest)) :
    ∃ kind text, c :: s = text ++ rest ∧ kind ≠ .blank ∧ Spells kind text ∧ Longest text rest ∧
      Makes ⟨kind, text⟩ token := by
  unfold lexeme at h
  split at h
  · next hstart =>
    obtain ⟨text, hpiece⟩ := piece_of_numberLexeme hstart h
    exact ⟨.number, text, hpiece.1, by decide, hpiece.2⟩
  · split at h
    · next hquote =>
      obtain ⟨text, hpiece⟩ := piece_of_stringLexeme (by simpa using hquote) h
      exact ⟨.quoted, text, hpiece.1, by decide, hpiece.2⟩
    · split at h
      · next hstart =>
        cases h
        obtain ⟨hspells, hlongest⟩ := piece_of_word s hstart
        exact ⟨.word, _, by simp, by decide, hspells, hlongest, .word _⟩
      · obtain ⟨text, hpiece⟩ := piece_of_symbolLexeme h
        exact ⟨.symbol, text, hpiece.1, by decide, hpiece.2⟩

/-- **The scanner divides.** A text that has tokens falls into pieces, each the longest at its place, and
the tokens are those of the pieces that are not blank. -/
theorem divided_of_scan {s : List Char} {tokens : List Token} (h : scan s = .ok tokens) :
    ∃ pieces, Divided s pieces ∧
      List.Forall₂ Makes (pieces.filter fun p => p.kind ≠ .blank) tokens := by
  fun_induction scan s generalizing tokens with
  | case1 =>
    cases h
    exact ⟨[], .nil, .nil⟩
  | case2 c rest hblank ih =>
    obtain ⟨pieces, hdivided, hmakes⟩ := ih h
    have hspells : Spells .blank [c] := .blank hblank
    have hlongest : Longest [c] rest := hspells.longest fun longer hlonger _ => by
      cases hlonger with
      | blank _ => exact Nat.le_refl _
    exact ⟨⟨.blank, [c]⟩ :: pieces, .cons hspells hlongest hdivided, by simpa using hmakes⟩
  | case3 => cases h
  | case4 => cases h
  | case5 c rest hblank token rest' hlexeme _ tokens' htokens ih =>
    cases h
    obtain ⟨pieces, hdivided, hmakes⟩ := ih htokens
    obtain ⟨kind, text, htext, hkind, hspells, hlongest, hmake⟩ := piece_of_lexeme hlexeme
    rw [htext]
    refine ⟨⟨kind, text⟩ :: pieces, .cons hspells hlongest hdivided, ?_⟩
    rw [List.filter_cons_of_pos (by simpa using hkind)]
    exact .cons hmake hmakes

end LayeredConfig.Expr
