import LayeredConfig.Decimal.Reader
import LayeredConfig.Yaml.Document

/-!
# Plain scalars

What a plain scalar stands for: null, a truth value, a number, or else its own text. Integers may be
hexadecimal, octal or binary; one that starts with a needless zero is text. An integer between 64
and 128 bits has no reading at all.
-/

namespace LayeredConfig.Yaml

open LayeredConfig.Text (isDigit hexValue?)

/-- The words for null. -/
def isNull (s : String) : Bool := ["null", "Null", "NULL", "~"].contains s

/-- The words for the truth values. -/
def bool? (s : String) : Option Bool :=
  if ["true", "True", "TRUE"].contains s then some true
  else if ["false", "False", "FALSE"].contains s then some false
  else none

/-- The natural number written by digits of a base of at most sixteen; there must be one. -/
def natural? (base : Nat) (digits : List Char) : Option Nat :=
  if digits.isEmpty then none
  else digits.foldl (fun n c => match n, hexValue? c with
    | some n, some d => if d < base then some (base * n + d) else none
    | _, _ => none) (some 0)

/-- An integer with an optional sign. -/
def signed? (base : Nat) (s : List Char) : Option Int :=
  let (negative, digits) := Decimal.splitSign s
  (natural? base digits).map fun n => if negative then -(n : Int) else n

/-- The text after a plus sign, if it begins with one. -/
def dropPlus : List Char → List Char
  | '+' :: rest => rest
  | s => s

/-- Whether a text begins with a sign. -/
def hasSign (s : List Char) : Bool := s.head?.any fun c => c = '+' || c = '-'

/-- A zero followed by further digits, after an optional sign. -/
def isZeroPadded (s : List Char) : Bool :=
  let digits := (Decimal.splitSign s).2
  1 < digits.length && digits.head? = some '0' && digits.all isDigit

/-- The base of the letter after a zero. -/
def baseOf? : Char → Option Nat
  | 'x' => some 16
  | 'o' => some 8
  | 'b' => some 2
  | _ => none

/-- An integer without minus sign. -/
def unsigned? (s : List Char) : Option Nat :=
  let body := dropPlus s
  let decimal :=
    if hasSign body || isZeroPadded s then none else natural? 10 body
  match body with
  | '0' :: letter :: digits => match baseOf? letter with
    | some base => if hasSign digits then none else natural? base digits
    | none => decimal
  | _ => decimal

/-- An integer with a minus sign. -/
def negative? (s : List Char) : Option Int :=
  let decimal := if isZeroPadded s then none else signed? 10 s
  match s with
  | '-' :: '0' :: letter :: digits => match baseOf? letter with
    | some base => (natural? base digits).map fun n => -(n : Int)
    | none => decimal
  | _ => decimal

/-- A finite decimal number, or one of the words for the infinities and for no number. -/
def float? (s : String) : Option Float :=
  let body := dropPlus s.toList
  if s.toList ≠ body && hasSign body then none
  else
    let word := String.ofList body
    if [".inf", ".Inf", ".INF"].contains word then some (1.0 / 0.0)
    else if ["-.inf", "-.Inf", "-.INF"].contains s then some (-1.0 / 0.0)
    else if [".nan", ".NaN", ".NAN"].contains s then some (0.0 / 0.0)
    else match Decimal.number? word with
      | some x => if Binary64.isFinite x then some x else none
      | none => none

/-- How a text reads as an integer. -/
inductive IntegerReading where
  | number (value : Yaml.Number)
  | tooLarge
  | none

/-- Reads a text as an integer of 64 bits, or notes that only 128 bits could hold it. -/
def integerReading (s : String) : IntegerReading :=
  let s := s.toList
  match unsigned? s with
  | some n =>
    if n < UInt64.size then .number (.unsigned (UInt64.ofNat n))
    else if n < Nat.pow 2 128 then .tooLarge
    else .none
  | Option.none => match negative? s with
    | some n =>
      if Integer.least ≤ n then
        .number (if n < 0 then .negative (Int64.ofInt n) else .unsigned (UInt64.ofNat n.toNat))
      else if -(Nat.pow 2 127 : Int) ≤ n then .tooLarge
      else .none
    | Option.none => .none

/-- What a plain scalar stands for. -/
def ofPlain? (s : String) : Option Yaml :=
  if s.isEmpty || isNull s then some .null
  else match bool? s with
    | some b => some (.bool b)
    | none => match integerReading s with
      | .number n => some (.number n)
      | .tooLarge => none
      | .none =>
        if isZeroPadded s.toList then some (.string s)
        else match float? s with
          | some x => some (.number (.real x))
          | none => some (.string s)

end LayeredConfig.Yaml
