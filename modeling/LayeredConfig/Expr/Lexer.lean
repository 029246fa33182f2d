import LayeredConfig.Expr.Token
import LayeredConfig.Decimal.Reader

/-!
# From text to tokens

`lexeme` reads the token that begins with a given character, always the longest one; `scan` reads a
whole text, whose tokens white space may separate. Main statement: `length_of_lexeme`, a token uses
up its first character and gives the rest back no longer, so that `scan` ends and finds at most as
many tokens as there are characters.
-/

namespace LayeredConfig.Expr

open LayeredConfig.Text (isDigit isBlank isAlphabetic isAlphanumeric)

/-- A character that may begin a word. -/
def isWordStart (c : Char) : Bool := isAlphabetic c || c = '_'

/-- A character that may stand inside a word. -/
def isWordPart (c : Char) : Bool := isAlphanumeric c || c = '_'

/-- What follows an optional point and the digits after it, and whether there was a point. -/
def dropPlaces : List Char → Bool × List Char
  | '.' :: rest => (true, rest.dropWhile isDigit)
  | s => (false, s)

/-- What follows an optional sign. -/
def dropSign : List Char → List Char
  | '+' :: rest => rest
  | '-' :: rest => rest
  | s => s

/-- What follows an optional exponent, and whether there was one. Its digits may be missing. -/
def dropExponent : List Char → Bool × List Char
  | 'e' :: rest => (true, (dropSign rest).dropWhile isDigit)
  | 'E' :: rest => (true, (dropSign rest).dropWhile isDigit)
  | s => (false, s)

/-- Reads the number literal at the front of `s`. One with a point or an exponent is a float. -/
def numberLexeme (s : List Char) : Except SyntaxError (Token × List Char) :=
  let (pointed, rest) := dropPlaces (s.dropWhile isDigit)
  let (scaled, rest) := dropExponent rest
  let text := s.take (s.length - rest.length)
  let token :=
    if pointed || scaled then (Decimal.numberChars? text).map Token.float
    else (Decimal.integerChars? text).map Token.integer
  match token with
  | some token => .ok (token, rest)
  | none => .error (.invalidNumber (String.ofList text))

/-- The character that an escape stands for; a character without a meaning of its own stands for
itself. -/
def escaped : Char → Char
  | 'n' => '\n'
  | 't' => '\t'
  | 'r' => '\r'
  | '0' => Char.ofNat 0
  | c => c

/-- Reads a string up to its closing quote; `done` holds the characters so far in reverse. -/
def stringLexeme (quote : Char) (done : List Char) :
    List Char → Except SyntaxError (Token × List Char)
  | [] => .error .unterminatedString
  | c :: rest =>
    if c = quote then .ok (.string (String.ofList done.reverse), rest)
    else if c = '\\' then match rest with
      | [] => .error .unterminatedString
      | e :: rest => stringLexeme quote (escaped e :: done) rest
    else stringLexeme quote (c :: done) rest

/-- Reads the symbol that begins with `c`, of two characters if there is one. -/
def symbolLexeme (c : Char) (rest : List Char) : Except SyntaxError (Token × List Char) :=
  match rest.head?.bind (Symbol.ofTwo? c) with
  | some symbol => .ok (.symbol symbol, rest.tail)
  | none => match Symbol.ofOne? c with
    | some symbol => .ok (.symbol symbol, rest)
    | none => if c = '.' then .error .attributeAccess else .error (.unexpectedCharacter c)

/-- Whether a number begins with `c`, which `rest` follows. -/
def startsNumber (c : Char) (rest : List Char) : Bool :=
  isDigit c || (c = '.' && rest.head?.any isDigit)

/-- Reads the token that begins with `c`, which is no white space. -/
def lexeme (c : Char) (rest : List Char) : Except SyntaxError (Token × List Char) :=
  if startsNumber c rest then numberLexeme (c :: rest)
  else if c = '"' || c = '\'' then stringLexeme c [] rest
  else if isWordStart c then
    .ok (.word (String.ofList (c :: rest.takeWhile isWordPart)), rest.dropWhile isWordPart)
  else symbolLexeme c rest

theorem dropPlaces_suffix (s : List Char) : (dropPlaces s).2 <:+ s := by
  fun_cases dropPlaces s with
  | case1 rest => exact (List.dropWhile_suffix _).trans (List.suffix_cons _ _)
  | case2 => exact List.suffix_rfl

theorem dropSign_suffix (s : List Char) : dropSign s <:+ s := by
  fun_cases dropSign s with
  | case1 rest => exact List.suffix_cons _ _
  | case2 rest => exact List.suffix_cons _ _
  | case3 => exact List.suffix_rfl

theorem dropExponent_suffix (s : List Char) : (dropExponent s).2 <:+ s := by
  have hdigits (rest : List Char) : (dropSign rest).dropWhile isDigit <:+ rest :=
    (List.dropWhile_suffix _).trans (dropSign_suffix rest)
  fun_cases dropExponent s with
  | case1 rest => exact (hdigits rest).trans (List.suffix_cons _ _)
  | case2 rest => exact (hdigits rest).trans (List.suffix_cons _ _)
  | case3 => exact List.suffix_rfl

/-- A number literal that begins with a digit or a point uses that character up. -/
theorem length_of_numberLexeme {c : Char} {s r : List Char} {t : Token}
    (hc : startsNumber c s) (h : numberLexeme (c :: s) = .ok (t, r)) : r.length ≤ s.length := by
  have hrest : r = (dropExponent (dropPlaces ((c :: s).dropWhile isDigit)).2).2 := by
    simp only [numberLexeme] at h
    split at h
    · cases h; rfl
    · cases h
  subst hrest
  refine Nat.le_trans (dropExponent_suffix _).length_le ?_
  by_cases hd : isDigit c
  · rw [List.dropWhile_cons_of_pos hd]
    exact ((dropPlaces_suffix _).trans (List.dropWhile_suffix _)).length_le
  · simp only [startsNumber, hd, Bool.false_or, Bool.and_eq_true, decide_eq_true_eq] at hc
    obtain ⟨rfl, -⟩ := hc
    rw [List.dropWhile_cons_of_neg hd]
    exact (List.dropWhile_suffix _).length_le

theorem length_of_stringLexeme {quote : Char} {done s r : List Char} {t : Token}
    (h : stringLexeme quote done s = .ok (t, r)) : r.length ≤ s.length := by
  fun_induction stringLexeme quote done s with
  | case1 => cases h
  | case2 => cases h; exact Nat.le_succ _
  | case3 => cases h
  | case4 done e rest hq ih => exact Nat.le_succ_of_le (Nat.le_succ_of_le (ih h))
  | case5 done c rest hq hc ih => exact Nat.le_succ_of_le (ih h)

theorem length_of_symbolLexeme {c : Char} {s r : List Char} {t : Token}
    (h : symbolLexeme c s = .ok (t, r)) : r.length ≤ s.length := by
  simp only [symbolLexeme] at h
  split at h
  · cases h; simp
  · split at h
    · cases h; exact Nat.le_refl _
    · split at h <;> cases h

/-- A token uses up its first character. -/
theorem length_of_lexeme {c : Char} {s r : List Char} {t : Token}
    (h : lexeme c s = .ok (t, r)) : r.length ≤ s.length := by
  simp only [lexeme] at h
  split at h
  · next hc => exact length_of_numberLexeme hc h
  · split at h
    · exact length_of_stringLexeme h
    · split at h
      · cases h; exact (List.dropWhile_suffix _).length_le
      · exact length_of_symbolLexeme h

/-- The tokens of a text. -/
def scan (s : List Char) : Except SyntaxError (List Token) :=
  match s with
  | [] => .ok []
  | c :: rest =>
    if isBlank c then scan rest
    else match h : lexeme c rest with
      | .error e => .error e
      | .ok (token, rest') =>
        have := length_of_lexeme h
        match scan rest' with
        | .error e => .error e
        | .ok tokens => .ok (token :: tokens)
termination_by s.length
decreasing_by
  · simp
  · simp; omega

end LayeredConfig.Expr
