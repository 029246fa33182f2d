import LayeredConfig.Binary64
import LayeredConfig.Integer
import LayeredConfig.Expr.EvalError

/-!
# Arithmetic

Integers, floats and booleans (as 0 and 1) are numbers. Two integers give the exact integer result,
or an overflow when 64 bits cannot hold it; division by `/` and negative powers leave the integers.
As soon as one operand is a float, both are. Strings, sequences and byte strings can be joined by
`+`, and a string repeated by `*`.

The corrections of `//` and `%` add and subtract without looking whether 64 bits hold the result;
`unchecked` makes a fault of it where they do not.
-/

namespace LayeredConfig.Expr

/-- The value of an operation. -/
abbrev Outcome (α : Type) := Except EvalError α

/-- A numeric operand. -/
inductive Number where
  | integer (value : Int64)
  | float (value : Float)

/-- The number that a value is. -/
def Number.ofValue? : Value → Option Number
  | .integer i => some (integer i)
  | .float x => some (float x)
  | .bool b => some (integer (if b then 1 else 0))
  | _ => none

/-- A number as a float, rounded to the nearest one. -/
def Number.toFloat : Number → Float
  | integer i => Binary64.ofInt i.toInt
  | float x => x

/-- An exact integer result, if 64 bits can hold it. -/
def checked (n : Int) : Outcome Value :=
  match Integer.ofInt? n with
  | some i => .ok (.integer i)
  | none => .error .overflow

/-- A result that is taken to be in the range without a look. -/
def unchecked (cause : Fault) (n : Int) : Outcome Int64 :=
  match Integer.ofInt? n with
  | some i => .ok i
  | none => .error (.fault cause)

/-- A remainder that is taken to exist without a look. -/
def remainder (a b : Int64) : Outcome Int64 :=
  match Integer.remainder? a b with
  | some r => .ok r
  | none => .error (.fault .remainder)

/-- The quotient `//`, rounded down: the truncated one, or one less if the division leaves something
and the operands have different signs. -/
def floorDivide (a b : Int64) : Outcome Int64 :=
  if b.toInt = 0 then .error .divisionByZero
  else match Integer.quotient? a b with
    | none => .error .overflow
    | some q => match remainder a b with
      | .error e => .error e
      | .ok r =>
        if r.toInt ≠ 0 ∧ ¬ (a.toInt < 0 ↔ b.toInt < 0) then
          unchecked .difference (q.toInt - 1)
        else .ok q

/-- The remainder `%`, with the sign of the divisor: the truncated one, or that and the divisor if it
is not zero and has the other sign. There is an overflow where the truncated quotient has one. -/
def floorModulo (a b : Int64) : Outcome Int64 :=
  if b.toInt = 0 then .error .divisionByZero
  else match Integer.remainder? a b with
    | none => .error .overflow
    | some r =>
      if r.toInt ≠ 0 ∧ ¬ (r.toInt < 0 ↔ b.toInt < 0) then
        unchecked .sum (r.toInt + b.toInt)
      else .ok r

/-- An integer power. Beyond an exponent of 32 bits every power counts as an overflow. With a base
of magnitude at most one only the parity of the exponent matters, and any other base leaves the
range before the 64th power. -/
def integerPower (base : Int) (exponent : Nat) : Outcome Value :=
  if UInt32.size ≤ exponent then .error .overflow
  else if exponent < 64 then checked (base.pow exponent)
  else if base.natAbs ≤ 1 then checked (base.pow (64 + exponent % 2))
  else .error .overflow

/-- An operation on two integers. -/
def integerOperation (op : BinaryOp) (a b : Int64) : Outcome Value :=
  let m := a.toInt
  let n := b.toInt
  match op with
  | .add => checked (m + n)
  | .sub => checked (m - n)
  | .mul => checked (m * n)
  | .div =>
    if n = 0 then .error .divisionByZero
    else .ok (.float (Binary64.ofInt m / Binary64.ofInt n))
  | .floorDiv => (floorDivide a b).map .integer
  | .mod => (floorModulo a b).map .integer
  | .pow =>
    if n < 0 then .ok (.float (Float.pow (Binary64.ofInt m) (Binary64.ofInt n)))
    else integerPower m n.toNat

/-- An operation on two floats. -/
def floatOperation (op : BinaryOp) (a b : Float) : Outcome Value :=
  match op with
  | .add => .ok (.float (a + b))
  | .sub => .ok (.float (a - b))
  | .mul => .ok (.float (a * b))
  | .div => if b == 0.0 then .error .divisionByZero else .ok (.float (a / b))
  | .floorDiv =>
    if b == 0.0 then .error .divisionByZero else .ok (.float (Binary64.floor (a / b)))
  | .mod =>
    if b == 0.0 then .error .divisionByZero
    else .ok (.float (a - b * Binary64.floor (a / b)))
  | .pow => .ok (.float (Float.pow a b))

/-- An operation on two numbers. -/
def numberOperation (op : BinaryOp) : Number → Number → Outcome Value
  | .integer a, .integer b => integerOperation op a b
  | a, b => floatOperation op a.toFloat b.toFloat

/-- The greatest number of bytes of a repeated string. -/
def maxRepeatedBytes : Nat := 0x100000

/-- A string repeated; a negative count repeats it no times. -/
def repeated (s : String) (count : Int64) : Outcome Value :=
  let count := count.toInt.toNat
  if maxRepeatedBytes < s.utf8ByteSize * count then .error .repetitionTooLarge
  else if s.isEmpty then .ok (.string "")
  else .ok (.string (String.join (List.replicate count s)))

/-- A binary operation. -/
def binary (op : BinaryOp) (left right : Value) : Outcome Value :=
  match op, left, right with
  | .add, .string a, .string b => .ok (.string (a ++ b))
  | .add, .array a, .array b => .ok (.array (a ++ b))
  | .add, .bytes a, .bytes b => .ok (.bytes (a ++ b))
  | .mul, .string s, .integer n => repeated s n
  | .mul, .integer n, .string s => repeated s n
  | op, left, right => match Number.ofValue? left, Number.ofValue? right with
    | some a, some b => numberOperation op a b
    | _, _ => .error (.unsupportedOperands op left.kind right.kind)

/-- The negative of a number. -/
def negate : Value → Outcome Value
  | .integer i => checked (-i.toInt)
  | .float x => .ok (.float (-x))
  | v => .error (.cannotNegate v.kind)

end LayeredConfig.Expr
