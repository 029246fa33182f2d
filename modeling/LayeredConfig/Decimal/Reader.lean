import LayeredConfig.Binary64
import LayeredConfig.Integer
import LayeredConfig.Text.Class

/-!
# Reading numbers

`integer?` and `number?` read a whole text; blanks are not allowed. A number is read exactly and
then rounded once, so the nearest binary64 number results.
-/

namespace LayeredConfig.Decimal

open LayeredConfig.Text (isDigit digitValue)

/-- The natural number written by decimal digits. -/
def ofDigits (digits : List Char) : Nat := digits.foldl (fun n c => 10 * n + digitValue c) 0

/-- Splits a sign off: whether it was a minus, and what follows. -/
def splitSign : List Char → Bool × List Char
  | '-' :: rest => (true, rest)
  | '+' :: rest => (false, rest)
  | s => (false, s)

/-- An optional sign and one or more digits, within 64 bits. -/
def integerChars? (s : List Char) : Option Int64 :=
  let (negative, digits) := splitSign s
  if digits.isEmpty || !digits.all isDigit then none
  else Integer.ofInt? (if negative then -(ofDigits digits : Int) else ofDigits digits)

/-- An optional sign and one or more digits, within 64 bits. -/
def integer? (s : String) : Option Int64 := integerChars? s.toList

/-- The number nearest to `± digits * 10 ^ exponent`. A magnitude far outside the range of binary64
is settled by the exponent alone. -/
def toFloat (negative : Bool) (digits : Nat) (exponent : Int) : Float :=
  let size : Int := digits.log2 * 30103 / 100000 + exponent
  if digits = 0 || size < -400 then Binary64.ofRatio negative 0 1
  else if 400 < size then Binary64.ofRatio negative (Nat.pow 2 1100) 1
  else if 0 ≤ exponent then Binary64.ofRatio negative (digits * Nat.pow 10 exponent.toNat) 1
  else Binary64.ofRatio negative digits (Nat.pow 10 (-exponent).toNat)

/-- An exponent after its letter: an optional sign and one or more digits to the end. -/
def exponent? (s : List Char) : Option Int :=
  let (negative, digits) := splitSign s
  if digits.isEmpty || !digits.all isDigit then none
  else some (if negative then -(ofDigits digits : Int) else ofDigits digits)

/-- An unsigned decimal: digits with an optional point among or around them, then an optional
exponent. -/
def unsigned? (negative : Bool) (s : List Char) : Option Float :=
  let whole := s.takeWhile isDigit
  let rest := s.dropWhile isDigit
  let (places, rest) := match rest with
    | '.' :: after => (after.takeWhile isDigit, after.dropWhile isDigit)
    | _ => ([], rest)
  if whole.isEmpty && places.isEmpty then none
  else
    let digits := ofDigits (whole ++ places)
    let shift : Int := -places.length
    match rest with
    | [] => some (toFloat negative digits shift)
    | c :: after =>
      if c = 'e' || c = 'E' then
        (exponent? after).map fun e => toFloat negative digits (e + shift)
      else none

/-- A decimal with an optional sign, or one of the words `nan`, `inf` and `infinity` in any case. -/
def numberChars? (s : List Char) : Option Float :=
  let (negative, body) := splitSign s
  let word := body.map Char.toLower
  if word = ['n', 'a', 'n'] then some (0.0 / 0.0)
  else if word = ['i', 'n', 'f'] || word = ['i', 'n', 'f', 'i', 'n', 'i', 't', 'y'] then
    some (if negative then -1.0 / 0.0 else 1.0 / 0.0)
  else unsigned? negative body

/-- A decimal with an optional sign, or one of the words `nan`, `inf` and `infinity` in any case. -/
def number? (s : String) : Option Float := numberChars? s.toList

end LayeredConfig.Decimal
