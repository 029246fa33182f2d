import LayeredConfig.Expr.Lexer
import LayeredConfig.Expr.Node
import LayeredConfig.Proofs.Expr.Arithmetic

/-!
# The spelling of tokens

`Token.text` writes a token the way it stands in an expression: a string in double quotes, with a
backslash before each quote and each backslash, and everything else verbatim. `unwords` puts single
spaces between tokens. Main statement: `scan_unwords`, the tokens of a text that is written so are those
that it was written from.
-/

namespace LayeredConfig.Expr

open LayeredConfig.Text (isDigit isBlank)

/-- The characters that stand for a character inside double quotes. -/
def escape (c : Char) : List Char := if c = '"' ∨ c = '\\' then ['\\', c] else [c]

/-- A text in double quotes. -/
def enquote (s : List Char) : List Char := '"' :: s.flatMap escape ++ ['"']

/-- A token as it stands in an expression. -/
def Token.text : Token → String
  | integer i => Decimal.ofInteger i
  | float x => Decimal.detailed x
  | string s => String.ofList (enquote s.toList)
  | word w => w
  | symbol s => s.text

/-- The tokens with single spaces between them. -/
def unwords (tokens : List Token) : String := " ".intercalate (tokens.map Token.text)

/-! ## Where a token ends -/

/-- Nothing follows, or a space. -/
def Ended : List Char → Prop
  | [] => True
  | c :: _ => c = ' '

/-- Only a blank may follow where a token has ended. -/
theorem Ended.blank {rest : List Char} (h : Ended rest) : ∀ c ∈ rest.head?, isBlank c = true := by
  cases rest with
  | nil => simp
  | cons c rest =>
    obtain rfl : c = ' ' := h
    rw [List.head?_cons]
    rintro c ⟨⟩
    decide

/-- The text of a token is read as this token, wherever a space or nothing follows. -/
def Token.Legible (token : Token) : Prop :=
  ∃ c cs, token.text.toList = c :: cs ∧ isBlank c = false ∧
    ∀ rest, Ended rest → lexeme c (cs ++ rest) = .ok (token, rest)

/-- A class without the space is taken up to where a token ends. -/
theorem takeWhile_ended {p : Char → Bool} {cs rest : List Char} (hspace : p ' ' = false)
    (hall : ∀ c ∈ cs, p c = true) (h : Ended rest) : (cs ++ rest).takeWhile p = cs := by
  rw [List.takeWhile_append_of_pos hall]
  cases rest with
  | nil => simp
  | cons c rest =>
    obtain rfl : c = ' ' := h
    simp [hspace]

theorem dropWhile_ended {p : Char → Bool} {cs rest : List Char} (hspace : p ' ' = false)
    (hall : ∀ c ∈ cs, p c = true) (h : Ended rest) : (cs ++ rest).dropWhile p = rest := by
  rw [List.dropWhile_append_of_pos hall]
  cases rest with
  | nil => rfl
  | cons c rest =>
    obtain rfl : c = ' ' := h
    simp [hspace]

/-! ## Numbers -/

theorem isBlank_of_isDigit {c : Char} (h : isDigit c = true) : isBlank c = false := by
  have hrange : 48 ≤ c.toNat ∧ c.toNat ≤ 57 := by
    simpa [isDigit, Char.le_def, UInt32.le_iff_toNat_le] using h
  grind [isBlank, Text.Table.whitespace, Text.inRanges]

theorem isDigit_of_mem_digitsOf {n : Nat} {c : Char} (h : c ∈ Decimal.digitsOf n) :
    isDigit c = true :=
  Nat.isDigit_of_mem_toDigits (by decide) (by decide) h

/-- The digits of a natural number read as this number. -/
theorem ofDigits_digitsOf (n : Nat) : Decimal.ofDigits (Decimal.digitsOf n) = n :=
  Nat.ofDigitChars_ten_toDigits

/-- A text that begins with a digit has no sign. -/
theorem splitSign_of_isDigit {d : Char} (h : isDigit d = true) (ds : List Char) :
    Decimal.splitSign (d :: ds) = (false, d :: ds) := by
  unfold Decimal.splitSign
  split
  · next heq =>
    cases heq
    exact absurd h (by decide)
  · next heq =>
    cases heq
    exact absurd h (by decide)
  · rfl

theorem splitSign_digitsOf (n : Nat) :
    Decimal.splitSign (Decimal.digitsOf n) = (false, Decimal.digitsOf n) := by
  cases hdigits : Decimal.digitsOf n with
  | nil => exact absurd hdigits Nat.toDigits_ne_nil
  | cons d ds => exact splitSign_of_isDigit (isDigit_of_mem_digitsOf (hdigits ▸ List.mem_cons_self)) ds

/-- The digits of a number, whatever their sign, are read as the number if 64 bits hold it. -/
theorem integerChars?_of_splitSign {s : List Char} {negative : Bool} {n : Nat}
    (h : Decimal.splitSign s = (negative, Decimal.digitsOf n)) :
    Decimal.integerChars? s = Integer.ofInt? (if negative then -n else n) := by
  have hne : Decimal.digitsOf n ≠ [] := Nat.toDigits_ne_nil
  have hdigits : ((Decimal.digitsOf n).isEmpty || !(Decimal.digitsOf n).all isDigit) = false := by
    rw [List.isEmpty_eq_false_iff.2 hne, List.all_eq_true.2 fun c => isDigit_of_mem_digitsOf]
    rfl
  simp only [Decimal.integerChars?, h, hdigits, ofDigits_digitsOf, Bool.false_eq_true, if_false]

/-- The digits of an integer that is not negative are read as the integer. -/
theorem integerChars?_digitsOf {i : Int64} (h : 0 ≤ i.toInt) :
    Decimal.integerChars? (Decimal.digitsOf i.toInt.natAbs) = some i := by
  rw [integerChars?_of_splitSign (splitSign_digitsOf _), if_neg Bool.false_ne_true,
    Int.natAbs_of_nonneg h, Integer.ofInt?_toInt]

/-- White space ends a number literal. -/
theorem dropWhile_blank {digits rest : List Char} (hall : ∀ c ∈ digits, isDigit c = true)
    (h : ∀ c ∈ rest.head?, isBlank c = true) :
    (digits ++ rest).dropWhile isDigit = rest ∧ dropPlaces rest = (false, rest) ∧
      dropExponent rest = (false, rest) := by
  rw [List.dropWhile_append_of_pos hall]
  cases rest with
  | nil => exact ⟨rfl, rfl, rfl⟩
  | cons c rest =>
    have hblank : isBlank c = true := h c rfl
    have hdigit : isDigit c = false :=
      eq_false_of_ne_true fun hdigit => Bool.noConfusion ((isBlank_of_isDigit hdigit).symm.trans hblank)
    refine ⟨List.dropWhile_cons_of_neg (by simp [hdigit]), ?_, ?_⟩
    · unfold dropPlaces
      split
      · next heq =>
        cases heq
        exact absurd hblank (by decide)
      · rfl
    · unfold dropExponent
      split
      · next heq =>
        cases heq
        exact absurd hblank (by decide)
      · next heq =>
        cases heq
        exact absurd hblank (by decide)
      · rfl

/-- Digits before white space or the end are a whole number literal. -/
theorem numberLexeme_digits {digits rest : List Char} {i : Int64}
    (hall : ∀ c ∈ digits, isDigit c = true) (hread : Decimal.integerChars? digits = some i)
    (h : ∀ c ∈ rest.head?, isBlank c = true) :
    numberLexeme (digits ++ rest) = .ok (.integer i, rest) := by
  obtain ⟨hdigits, hplaces, hexponent⟩ := dropWhile_blank hall h
  have htake : (digits ++ rest).take ((digits ++ rest).length - rest.length) = digits := by
    simp
  simp only [numberLexeme, hdigits, hplaces, hexponent, htake, hread]
  rfl

/-- Digits that 64 bits do not hold are refused as they stand. -/
theorem numberLexeme_digits_refused {digits rest : List Char} (hall : ∀ c ∈ digits, isDigit c = true)
    (hread : Decimal.integerChars? digits = none) (h : ∀ c ∈ rest.head?, isBlank c = true) :
    numberLexeme (digits ++ rest) = .error (.invalidNumber (String.ofList digits)) := by
  obtain ⟨hdigits, hplaces, hexponent⟩ := dropWhile_blank hall h
  have htake : (digits ++ rest).take ((digits ++ rest).length - rest.length) = digits := by
    simp
  simp only [numberLexeme, hdigits, hplaces, hexponent, htake, hread]
  rfl

theorem legible_integer {i : Int64} (h : 0 ≤ i.toInt) : (Token.integer i).Legible := by
  have hall : ∀ c ∈ Decimal.digitsOf i.toInt.natAbs, isDigit c = true :=
    fun c => isDigit_of_mem_digitsOf
  have hread := integerChars?_digitsOf h
  have htext : (Token.integer i).text.toList = Decimal.digitsOf i.toInt.natAbs := by
    simp [Token.text, Decimal.ofInteger, Int.not_lt.2 h]
  cases hdigits : Decimal.digitsOf i.toInt.natAbs with
  | nil => exact absurd hdigits Nat.toDigits_ne_nil
  | cons d ds =>
    rw [hdigits] at hall hread htext
    have hdigit : isDigit d = true := hall d List.mem_cons_self
    refine ⟨d, ds, htext, isBlank_of_isDigit hdigit, fun rest hrest => ?_⟩
    have hstart : startsNumber d (ds ++ rest) = true := by simp [startsNumber, hdigit]
    rw [lexeme, if_pos hstart]
    exact numberLexeme_digits hall hread hrest.blank

/-! ## Strings -/

/-- A double quote closes the literal. -/
theorem stringLexeme_quote (done rest : List Char) :
    stringLexeme '"' done ('"' :: rest) = .ok (.string (String.ofList done.reverse), rest) := by
  rw [stringLexeme.eq_def]
  exact if_pos rfl

/-- An escaped character is read as the character. -/
theorem stringLexeme_escape (c : Char) (done rest : List Char) :
    stringLexeme '"' done (escape c ++ rest) = stringLexeme '"' (c :: done) rest := by
  unfold escape
  split
  · next hc =>
    have hescaped : escaped c = c := by rcases hc with rfl | rfl <;> rfl
    rw [stringLexeme.eq_def]
    simp [hescaped]
  · next hc =>
    rw [not_or] at hc
    rw [stringLexeme.eq_def]
    simp [hc.1, hc.2]

/-- A text in double quotes is read as the text. -/
theorem stringLexeme_enquote (s done rest : List Char) :
    stringLexeme '"' done (s.flatMap escape ++ '"' :: rest) =
      .ok (.string (String.ofList (done.reverse ++ s)), rest) := by
  induction s generalizing done with
  | nil => rw [List.flatMap_nil, List.nil_append, stringLexeme_quote, List.append_nil]
  | cons c s ih =>
    rw [List.flatMap_cons, List.append_assoc, stringLexeme_escape, ih]
    simp

/-- A string is legible: its escapes are undone one by one, up to the closing quote. -/
theorem legible_string (s : String) : (Token.string s).Legible := by
  refine ⟨'"', s.toList.flatMap escape ++ ['"'], ?_, by decide, fun rest _ => ?_⟩
  · simp [Token.text, enquote]
  · have hstart : startsNumber '"' (s.toList.flatMap escape ++ ['"'] ++ rest) = false := rfl
    have hquoted := stringLexeme_enquote s.toList [] rest
    rw [List.reverse_nil, List.nil_append, String.ofList_toList] at hquoted
    rw [lexeme, hstart, if_neg Bool.false_ne_true, if_pos (by decide), List.append_assoc]
    exact hquoted

/-! ## Words and symbols -/

/-- The words of the expression language. -/
def vocabulary : List String :=
  ["x", "true", "false", "null", "not", "and", "or", "in"] ++ Builtin.all.map Builtin.name

/-- Whether the characters are a word and could begin nothing else. -/
def spellsWord : List Char → Bool
  | [] => false
  | c :: cs =>
    !isBlank c && !isDigit c && c ∉ ['.', '"', '\''] && isWordStart c && cs.all isWordPart

/-- The words of the language begin and go on as words do. -/
theorem spellsWord_of_mem_vocabulary : ∀ w ∈ vocabulary, spellsWord w.toList = true := by decide

theorem legible_word {w : String} (h : w ∈ vocabulary) : (Token.word w).Legible := by
  have hword := spellsWord_of_mem_vocabulary w h
  cases htext : w.toList with
  | nil =>
    rw [htext] at hword
    cases hword
  | cons c cs =>
    simp only [htext, spellsWord, Bool.and_eq_true, Bool.not_eq_true', decide_eq_true_eq,
      List.mem_cons, List.not_mem_nil, or_false, not_or, List.all_eq_true] at hword
    obtain ⟨⟨⟨⟨hblank, hdigit⟩, hpoint, hquotes⟩, hstart⟩, hparts⟩ := hword
    refine ⟨c, cs, htext, hblank, fun rest hrest => ?_⟩
    have hnumber : startsNumber c (cs ++ rest) = false := by simp [startsNumber, hdigit, hpoint]
    rw [lexeme, hnumber, if_neg Bool.false_ne_true, if_neg (by simp [hquotes]), if_pos hstart,
      takeWhile_ended (by decide) hparts hrest, dropWhile_ended (by decide) hparts hrest, ← htext,
      String.ofList_toList]

/-- A symbol is legible: the space behind it keeps it from being read as part of a longer one. -/
theorem legible_symbol (s : Symbol) : (Token.symbol s).Legible := by
  cases s
  all_goals refine ⟨_, _, rfl, by decide, fun rest hrest => ?_⟩
  all_goals cases rest with
    | nil => rfl
    | cons c rest =>
      obtain rfl : c = ' ' := hrest
      rfl

/-! ## Whole texts -/

/-- The token that begins with the first character is read first. -/
theorem scan_of_lexeme {c : Char} {cs rest : List Char} {token : Token} (hblank : isBlank c = false)
    (hlexeme : lexeme c cs = .ok (token, rest)) : scan (c :: cs) = (scan rest).map (token :: ·) := by
  rw [scan, if_neg (by simp [hblank])]
  split
  · next e he => cases he.symm.trans hlexeme
  · next token' rest' htoken =>
    cases htoken.symm.trans hlexeme
    cases scan rest <;> rfl

/-- The first token that cannot be read fails the whole text. -/
theorem scan_of_lexeme_error {c : Char} {cs : List Char} {e : SyntaxError} (hblank : isBlank c = false)
    (hlexeme : lexeme c cs = .error e) : scan (c :: cs) = .error e := by
  rw [scan, if_neg (by simp [hblank])]
  split
  · next e' he =>
    cases he.symm.trans hlexeme
    rfl
  · next token rest htoken => cases htoken.symm.trans hlexeme

/-- A legible token is read first. -/
theorem scan_cons {token : Token} (h : token.Legible) {rest : List Char} (hrest : Ended rest)
    {tokens : List Token} (hscan : scan rest = .ok tokens) :
    scan (token.text.toList ++ rest) = .ok (token :: tokens) := by
  obtain ⟨c, cs, htext, hblank, hlexeme⟩ := h
  rw [htext, List.cons_append, scan_of_lexeme hblank (hlexeme rest hrest), hscan]
  rfl

/-- The tokens of a text that is written with single spaces are those that it was written from. -/
theorem scan_unwords {tokens : List Token} (h : ∀ token ∈ tokens, token.Legible) :
    scan (unwords tokens).toList = .ok tokens := by
  rw [unwords, String.toList_intercalate, List.map_map]
  induction tokens with
  | nil => rw [List.map_nil, List.intercalate_nil, scan]
  | cons token tokens ih =>
    obtain ⟨htoken, htokens⟩ := List.forall_mem_cons.1 h
    cases tokens with
    | nil =>
      have hended : Ended [] := trivial
      simpa using scan_cons htoken hended (by rw [scan])
    | cons next tokens =>
      rw [List.map_cons, List.map_cons, List.intercalate_cons_cons, List.append_assoc]
      have hrest := ih htokens
      -- the space is skipped
      have hspace : isBlank ' ' = true := by decide
      refine scan_cons htoken (show Ended (' ' :: _) from rfl) ?_
      rw [scan, if_pos hspace]
      exact hrest

end LayeredConfig.Expr
