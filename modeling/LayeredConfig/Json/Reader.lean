import LayeredConfig.Json.Document
import LayeredConfig.Decimal.Reader

/-!
# Reading JSON

`Json.read?` reads one document from a whole text. Objects may repeat a key, and the last member
counts; documents nest at most 127 levels deep. A number without point and exponent is an integer
where one of 64 bits can hold it. Other numbers are built from at most nineteen or twenty digits and
a power of ten, in floating point, so that the last bit may differ from the nearest number; one that
is too large is refused.
-/

namespace LayeredConfig.Json

open LayeredConfig.Text (isDigit digitValue hexValue?)

/-- The greatest number of levels. -/
def maxDepth : Nat := 127

/-- White space between tokens. -/
def isSpace (c : Char) : Bool := c = ' ' || c = '\n' || c = '\t' || c = '\r'

/-- The text after leading white space. -/
def skipSpace (s : List Char) : List Char := s.dropWhile isSpace

/-- The code unit written by four hexadecimal digits. -/
def codeUnit? (a b c d : Char) : Option Nat := do
  let a ← hexValue? a
  let b ← hexValue? b
  let c ← hexValue? c
  let d ← hexValue? d
  return ((a * 16 + b) * 16 + c) * 16 + d

/-- The character of an escape of one letter. -/
def shortEscape? : Char → Option Char
  | '"' => some '"'
  | '\\' => some '\\'
  | '/' => some '/'
  | 'b' => some (Char.ofNat 8)
  | 'f' => some (Char.ofNat 12)
  | 'n' => some '\n'
  | 'r' => some '\r'
  | 't' => some '\t'
  | _ => none

/-- Reads a string after its opening quote. `high` is a high surrogate that waits for its partner,
and `done` holds the characters so far in reverse. -/
def readString (high : Option Nat) (done : List Char) : List Char → Option (String × List Char)
  | [] => none
  | c :: rest =>
    if c = '\\' then match rest with
      | 'u' :: i :: j :: k :: l :: rest => match codeUnit? i j k l, high with
        | none, _ => none
        | some unit, some first =>
          if 0xdc00 ≤ unit && unit ≤ 0xdfff then
            let code := 0x10000 + (first - 0xd800) * 0x400 + (unit - 0xdc00)
            readString none (Char.ofNat code :: done) rest
          else none
        | some unit, none =>
          if 0xdc00 ≤ unit && unit ≤ 0xdfff then none
          else if 0xd800 ≤ unit && unit ≤ 0xdbff then readString (some unit) done rest
          else readString none (Char.ofNat unit :: done) rest
      | e :: rest => match shortEscape? e, high with
        | some c, none => readString none (c :: done) rest
        | _, _ => none
      | [] => none
    else if high.isSome || c.toNat < 0x20 then none
    else if c = '"' then some (String.ofList done.reverse, rest)
    else readString none (c :: done) rest

/-- The greatest significand that is kept. -/
def maxSignificand : Nat := UInt64.size - 1

/-- Adds digits to a significand as long as it fits, and gives it back with the digits left over. -/
def accumulate (significand : Nat) : List Char → Nat × List Char
  | [] => (significand, [])
  | c :: rest =>
    let next := 10 * significand + digitValue c
    if next ≤ maxSignificand then accumulate next rest else (significand, c :: rest)

/-- The binary64 number `10 ^ n`. -/
def powerOfTen (n : Nat) : Float := Decimal.toFloat false 1 n

/-- `x` times `10 ^ exponent` by one multiplication or by divisions, with 308 as the greatest power
of one step. An overflow is refused. -/
def scale? (x : Float) (exponent : Int) : Option Float :=
  if 308 < exponent then if x == 0.0 then some x else none
  else if 0 ≤ exponent then
    let scaled := x * powerOfTen exponent.toNat
    if Binary64.isFinite scaled then some scaled else none
  else if exponent < -308 then
    if x == 0.0 then some x else scale? (x / powerOfTen 308) (exponent + 308)
  else some (x / powerOfTen (-exponent).toNat)
termination_by exponent.natAbs
decreasing_by omega

/-- The number `± significand * 10 ^ exponent`. The exponent saturates at 32 bits. -/
def assemble? (negative : Bool) (significand : Nat) (exponent : Int) : Option Number :=
  let exponent := max (-0x80000000) (min exponent 0x7fffffff)
  -- A significand has at most twenty digits, so that far below every number is zero.
  let exponent := max exponent (-5000)
  (scale? (Binary64.ofInt significand) exponent).map fun x => .real (if negative then -x else x)

/-- Reads an optional exponent and builds the number. -/
def readExponent (negative : Bool) (significand : Nat) (exponent : Int) (s : List Char) :
    Option (Number × List Char) :=
  match s with
  | [] => (assemble? negative significand exponent).map (·, [])
  | c :: rest =>
    if c = 'e' || c = 'E' then
      let (minus, rest) := Decimal.splitSign rest
      let digits := rest.takeWhile isDigit
      let rest := rest.dropWhile isDigit
      if digits.isEmpty then none
      else
        let power : Int := Decimal.ofDigits digits
        if 0x80000000 ≤ power then
          if significand ≠ 0 && !minus then none
          else some (.real (if negative then -0.0 else 0.0), rest)
        else
          let exponent := if minus then exponent - power else exponent + power
          (assemble? negative significand exponent).map (·, rest)
    else (assemble? negative significand exponent).map (·, s)

/-- Reads a number after its sign. -/
def readMagnitude (negative : Bool) (s : List Char) : Option (Number × List Char) :=
  let digits := s.takeWhile isDigit
  let rest := s.dropWhile isDigit
  if digits.isEmpty || (digits.head? = some '0' && digits.length ≠ 1) then none
  else
    let (significand, dropped) := accumulate 0 digits
    let exponent : Int := dropped.length
    match rest with
    | '.' :: rest =>
      let places := rest.takeWhile isDigit
      let rest := rest.dropWhile isDigit
      if places.isEmpty then none
      else
        let (significand, left) := accumulate significand places
        readExponent negative significand (exponent - (places.length - left.length)) rest
    | _ =>
      let fractional := match rest with
        | c :: _ => c = 'e' || c = 'E'
        | [] => false
      if fractional || !dropped.isEmpty then readExponent negative significand exponent rest
      else if !negative then some (.unsigned (UInt64.ofNat significand), rest)
      else if significand = 0 || 0x8000000000000000 < significand then
        some (.real (-(Binary64.ofInt significand)), rest)
      else some (.negative (Int64.ofInt (-(significand : Int))), rest)

/-- Reads a number. -/
def readNumber : List Char → Option (Number × List Char)
  | '-' :: rest => readMagnitude true rest
  | s => readMagnitude false s

/-- The text after a word it begins with. -/
def dropWord? (word s : List Char) : Option (List Char) :=
  if word.isPrefixOf s then some (s.drop word.length) else none

mutual

/-- Reads one document, in which `depth` more levels may be opened. -/
def readValue (fuel depth : Nat) (s : List Char) : Option (Json × List Char) :=
  match fuel with
  | 0 => none
  | fuel + 1 => match skipSpace s with
    | [] => none
    | c :: rest =>
      if c = '[' then
        if depth = 0 then none
        else match skipSpace rest with
          | ']' :: rest => some (array [], rest)
          | rest => readItems fuel (depth - 1) [] rest
      else if c = Char.ofNat 0x7b then
        if depth = 0 then none
        else match skipSpace rest with
          | '\x7d' :: rest => some (object [], rest)
          | rest => readMembers fuel (depth - 1) [] rest
      else if c = '"' then (readString none [] rest).map fun (s, rest) => (string s, rest)
      else if c = 't' then (dropWord? ['r', 'u', 'e'] rest).map (bool true, ·)
      else if c = 'f' then (dropWord? ['a', 'l', 's', 'e'] rest).map (bool false, ·)
      else if c = 'n' then (dropWord? ['u', 'l', 'l'] rest).map (null, ·)
      else (readNumber (c :: rest)).map fun (n, rest) => (number n, rest)

/-- Reads the items of an array up to its bracket; `done` holds those so far in reverse. -/
def readItems (fuel depth : Nat) (done : List Json) (s : List Char) : Option (Json × List Char) :=
  match fuel with
  | 0 => none
  | fuel + 1 => match readValue fuel depth s with
    | none => none
    | some (item, rest) => match skipSpace rest with
      | ']' :: rest => some (array (item :: done).reverse, rest)
      | ',' :: rest => readItems fuel depth (item :: done) rest
      | _ => none

/-- Reads the members of an object up to its brace, beside those of `done`. -/
def readMembers (fuel depth : Nat) (done : Entries Json) (s : List Char) :
    Option (Json × List Char) :=
  match fuel with
  | 0 => none
  | fuel + 1 => match skipSpace s with
    | '"' :: rest => match readString none [] rest with
      | none => none
      | some (key, rest) => match skipSpace rest with
        | ':' :: rest => match readValue fuel depth rest with
          | none => none
          | some (value, rest) =>
            let done := Entries.insert key value done
            match skipSpace rest with
            | '\x7d' :: rest => some (object done, rest)
            | ',' :: rest => readMembers fuel depth done rest
            | _ => none
        | _ => none
    | _ => none

end

/-- Reads a text that holds one document and nothing else. Every step of the reader uses up a
character or ends, so twice the length of the text is enough. -/
def read? (text : String) : Option Json :=
  let s := text.toList
  match readValue (2 * s.length + 2) maxDepth s with
  | some (document, rest) => if (skipSpace rest).isEmpty then some document else none
  | none => none

end LayeredConfig.Json
