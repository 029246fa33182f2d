import LayeredConfig.Toml.Document

/-!
# TOML strings, numbers and keys

The parts of a TOML text that hold no other values. Each reader takes its part off the front of the
text.
-/

namespace LayeredConfig.Toml

open LayeredConfig.Text (isDigit hexValue?)

/-- A blank inside a line. -/
def isBlank (c : Char) : Bool := c = ' ' || c = '\t'

/-- The text after blanks. -/
def skipBlanks (s : List Char) : List Char := s.dropWhile isBlank

/-- A character that texts and comments may hold: no control character other than the tab. -/
def isVisible (c : Char) : Bool := c = '\t' || (' ' ≤ c && c ≤ '~') || 0x80 ≤ c.toNat

/-- Takes a line break off the front of the text. -/
def takeNewline? : List Char → Option (List Char)
  | '\n' :: rest => some rest
  | '\r' :: '\n' :: rest => some rest
  | _ => none

/-- The text after a comment, if one stands in front. -/
def skipComment : List Char → List Char
  | '#' :: rest => rest.dropWhile isVisible
  | s => s

/-- The text after the rest of a line that holds nothing but blanks and a comment. -/
def endLine? (s : List Char) : Option (List Char) :=
  match skipComment (skipBlanks s) with
  | [] => some []
  | rest => takeNewline? rest

/-- The text after blanks, comments and line breaks. -/
def skipLines (s : List Char) : List Char :=
  go s.length s
where
  /-- Skips lines as long as `fuel` lasts. -/
  go : Nat → List Char → List Char
    | 0, s => s
    | fuel + 1, s =>
      let s := skipBlanks s
      match takeNewline? (skipComment s) with
      | some rest => go fuel rest
      | none => s

/-- The character of an escape of one letter. -/
def shortEscape? : Char → Option Char
  | 'b' => some (Char.ofNat 8)
  | 'f' => some (Char.ofNat 12)
  | 'n' => some '\n'
  | 'r' => some '\r'
  | 't' => some '\t'
  | '"' => some '"'
  | '\\' => some '\\'
  | _ => none

/-- The number of hexadecimal digits after an escape letter. -/
def escapeLength? : Char → Option Nat
  | 'u' => some 4
  | 'U' => some 8
  | _ => none

/-- The character written by hexadecimal digits. -/
def hexChar? (digits : List Char) : Option Char :=
  let code := digits.foldl (fun n c => match n, hexValue? c with
    | some n, some d => some (16 * n + d)
    | _, _ => none) (some 0)
  match code with
  | some n => if (0xd800 ≤ n && n ≤ 0xdfff) || 0x10ffff < n then none else some (Char.ofNat n)
  | none => none

/-- Reads an escape after its backslash. -/
def readEscape : List Char → Option (Char × List Char)
  | [] => none
  | c :: rest => match shortEscape? c with
    | some e => some (e, rest)
    | none => match escapeLength? c with
      | some n =>
        let digits := rest.take n
        if digits.length < n then none else (hexChar? digits).map fun e => (e, rest.drop n)
      | none => none

/-- A text and what follows it. -/
abbrev TextReader := List Char → Option (String × List Char)

/-- Reads a string of one line after its double quote. -/
def readBasic : (fuel : Nat) → (done : List Char) → TextReader
  | 0, _, _ => none
  | _ + 1, _, [] => none
  | fuel + 1, done, c :: rest =>
    if c = '"' then some (String.ofList done.reverse, rest)
    else if c = '\\' then match readEscape rest with
      | some (e, rest) => readBasic fuel (e :: done) rest
      | none => none
    else if isVisible c then readBasic fuel (c :: done) rest
    else none

/-- Reads a string of one line after its single quote. -/
def readLiteral (s : List Char) : Option (String × List Char) :=
  match s.dropWhile fun c => isVisible c && c ≠ '\'' with
  | '\'' :: rest => some (String.ofList (s.takeWhile fun c => isVisible c && c ≠ '\''), rest)
  | _ => none

/-- The text after an escaped line break: blanks, a line break, and whatever blanks and line breaks
follow. -/
def escapedBreak? (s : List Char) : Option (List Char) :=
  (takeNewline? (skipBlanks s)).map fun rest => go rest.length rest
where
  /-- Skips blanks and line breaks as long as `fuel` lasts. -/
  go : Nat → List Char → List Char
    | 0, s => s
    | fuel + 1, s =>
      let s := skipBlanks s
      match takeNewline? s with
      | some rest => go fuel rest
      | none => s

/-- Reads a string of several lines after its three quotes. Up to two quotes may stand before the
closing ones. Escapes count in double quotes only. -/
def readLong (quote : Char) : (fuel : Nat) → (done : List Char) → TextReader
  | 0, _, _ => none
  | _ + 1, _, [] => none
  | fuel + 1, done, c :: rest =>
    if c = quote then
      let count := ((c :: rest).takeWhile (· = quote)).length
      if count < 3 then readLong quote fuel (c :: done) rest
      else
        let inner := min (count - 3) 2
        some (String.ofList (List.replicate inner quote ++ done).reverse,
          (c :: rest).drop (inner + 3))
    else if quote = '"' && c = '\\' then match escapedBreak? rest with
      | some rest => readLong quote fuel done rest
      | none => match readEscape rest with
        | some (e, rest) => readLong quote fuel (e :: done) rest
        | none => none
    else match takeNewline? (c :: rest) with
      | some rest => readLong quote fuel ('\n' :: done) rest
      | none => if isVisible c then readLong quote fuel (c :: done) rest else none

/-- Reads a string of one line or several. A line break right after three quotes does not count. -/
def readString (s : List Char) : Option (String × List Char) :=
  match s with
  | c :: rest =>
    if rest.take 2 = [c, c] then
      let body := rest.drop 2
      readLong c (s.length + 1) [] ((takeNewline? body).getD body)
    else if c = '"' then readBasic (s.length + 1) [] rest
    else readLiteral rest
  | [] => none

/-- A character of a key without quotes. -/
def isKeyPart (c : Char) : Bool :=
  isDigit c || ('a' ≤ c && c ≤ 'z') || ('A' ≤ c && c ≤ 'Z') || c = '_' || c = '-'

/-- Reads one part of a key. -/
def readKeyPart (s : List Char) : Option (String × List Char) :=
  match s with
  | '"' :: rest => readBasic (rest.length + 1) [] rest
  | '\'' :: rest => readLiteral rest
  | s =>
    let name := s.takeWhile isKeyPart
    if name.isEmpty then none else some (String.ofList name, s.dropWhile isKeyPart)

/-- A key has fewer parts than this, and arrays and tables nest less deep. -/
def limit : Nat := 80

/-- Reads a key: parts with points between them and blanks around them. -/
def readKey (s : List Char) : Option (List String × List Char) :=
  match go (s.length + 1) s with
  | some (parts, rest) => if parts.length < limit then some (parts, rest) else none
  | none => none
where
  /-- Reads parts as long as points follow. -/
  go : Nat → List Char → Option (List String × List Char)
    | 0, _ => none
    | fuel + 1, s => match readKeyPart (skipBlanks s) with
      | none => none
      | some (part, rest) => match skipBlanks rest with
        | '.' :: after => match go fuel after with
          | some (parts, rest) => some (part :: parts, rest)
          | none => none
        | rest => some ([part], rest)

/-- Reads digits of a class, of which underscores may separate any two; the first is already seen.
Gives them without the underscores. -/
def readGroup (isPart : Char → Bool) : List Char → Option (List Char × List Char)
  | [] => some ([], [])
  | '_' :: rest => match rest with
    | c :: after =>
      if isPart c then (readGroup isPart after).map fun (cs, rest) => (c :: cs, rest) else none
    | [] => none
  | c :: rest =>
    if isPart c then (readGroup isPart rest).map fun (cs, rest) => (c :: cs, rest)
    else some ([], c :: rest)

/-- Reads one or more digits of a class. -/
def readDigitsOf (isPart : Char → Bool) : List Char → Option (List Char × List Char)
  | [] => none
  | c :: rest =>
    if isPart c then (readGroup isPart rest).map fun (cs, rest) => (c :: cs, rest) else none

/-- Splits a sign off: its character, if there is one, and what follows. -/
def takeSign : List Char → List Char × List Char
  | '+' :: rest => (['+'], rest)
  | '-' :: rest => (['-'], rest)
  | s => ([], s)

/-- Reads a decimal integer with an optional sign; only zero itself begins with a zero. -/
def readDecimal (s : List Char) : Option (List Char × List Char) :=
  let (sign, rest) := takeSign s
  match rest with
  | '0' :: rest => some (sign ++ ['0'], rest)
  | rest => (readDigitsOf isDigit rest).map fun (digits, rest) => (sign ++ digits, rest)

/-- Reads an exponent: its letter, an optional sign and digits. The outer option tells whether one
stands there, the inner one whether it is complete. -/
def readExponent? : List Char → Option (Option (List Char × List Char))
  | [] => none
  | c :: rest =>
    if c = 'e' || c = 'E' then
      let (sign, rest) := takeSign rest
      some ((readDigitsOf isDigit rest).map fun (digits, rest) => ('e' :: sign ++ digits, rest))
    else none

/-- Reads the fraction or exponent that makes a decimal integer a float. -/
def readFraction? (s : List Char) : Option (Option (List Char × List Char)) :=
  match s with
  | '.' :: rest => match readDigitsOf isDigit rest with
    | none => some none
    | some (places, rest) => match readExponent? rest with
      | none => some (some ('.' :: places, rest))
      | some none => some none
      | some (some (power, rest)) => some (some ('.' :: places ++ power, rest))
  | s => readExponent? s

/-- Reads `inf` or `nan` with an optional sign. -/
def readSpecial (s : List Char) : Option (Toml × List Char) :=
  let (sign, rest) := takeSign s
  if rest.take 3 = ['i', 'n', 'f'] then
    some (.float (if sign = ['-'] then -1.0 / 0.0 else 1.0 / 0.0), rest.drop 3)
  else if rest.take 3 = ['n', 'a', 'n'] then some (.float (0.0 / 0.0), rest.drop 3)
  else none

/-- Reads an integer after a letter that gives its base. -/
def readBased (base : Nat) (s : List Char) : Option (Toml × List Char) :=
  match readDigitsOf (fun c => (hexValue? c).any (· < base)) s with
  | none => none
  | some (digits, rest) =>
    let n := digits.foldl (fun n c => base * n + (hexValue? c).getD 0) 0
    (Integer.ofInt? n).map fun i => (.integer i, rest)

/-- Reads a number. A float that is too large is refused, unless it is negative. -/
def readNumber (s : List Char) : Option (Toml × List Char) :=
  match s with
  | '0' :: 'x' :: rest => readBased 16 rest
  | '0' :: 'o' :: rest => readBased 8 rest
  | '0' :: 'b' :: rest => readBased 2 rest
  | s => match readSpecial s with
    | some special => some special
    | none => match readDecimal s with
      | none => none
      | some (digits, rest) => match readFraction? rest with
        | none => (Decimal.integerChars? digits).map fun i => (.integer i, rest)
        | some none => none
        | some (some (fraction, rest)) => match Decimal.numberChars? (digits ++ fraction) with
          | some x => if x == 1.0 / 0.0 then none else some (.float x, rest)
          | none => none

/-- Reads a date, a time or a number. -/
def readNumeric (s : List Char) : Option (Toml × List Char) :=
  match Datetime.read s with
  | .found d rest => some (.datetime d, rest)
  | .malformed => none
  | .absent => readNumber s

end LayeredConfig.Toml
