/-!
# Binary64 numbers as exact fractions

`Reading.ofFloat` takes a binary64 number apart into a sign, an integer mantissa and a power of two;
`ofRatio` finds the number nearest to a fraction. Everything that changes between numbers and
integers or texts goes through these two, in exact arithmetic on natural numbers.
-/

namespace LayeredConfig.Binary64

/-- What a binary64 number stands for: no number, an infinity, or `± mantissa * 2 ^ exponent`. -/
inductive Reading where
  | notANumber
  | infinite (negative : Bool)
  | finite (negative : Bool) (mantissa : Nat) (exponent : Int)
deriving DecidableEq, Repr

/-- The weight of the sign bit, `2 ^ 63`. -/
def signBit : Nat := 0x8000000000000000

/-- The weight of the lowest exponent bit, `2 ^ 52`. It is also the leading bit of a mantissa that is
not too small to have one. -/
def leadingBit : Nat := 0x10000000000000

/-- Reads the sign bit, the eleven exponent bits and the 52 fraction bits. -/
def Reading.ofFloat (x : Float) : Reading :=
  let bits := x.toBits.toNat
  let negative := decide (bits / signBit = 1)
  let field : Nat := bits / leadingBit % 2048
  let fraction : Nat := bits % leadingBit
  if field = 2047 then
    if fraction = 0 then .infinite negative else .notANumber
  else if field = 0 then .finite negative fraction (-1074)
  else .finite negative (leadingBit + fraction) ((field : Int) - 1075)

/-- The number `± mantissa * 2 ^ exponent` for a mantissa of at most 53 bits, or `2 ^ 53` itself,
and an exponent of at least -1074; a mantissa below `2 ^ 52` has the exponent -1074. Beyond the
greatest finite number it is infinite. -/
def pack (negative : Bool) (mantissa : Nat) (exponent : Int) : Float :=
  let magnitude :=
    if mantissa < leadingBit then mantissa
    else (exponent + 1075).toNat * leadingBit + (mantissa - leadingBit)
  let magnitude := min magnitude (2047 * leadingBit)
  Float.ofBits (UInt64.ofNat ((if negative then signBit else 0) + magnitude))

/-- `num / den` times `2 ^ (-e)` as a fraction. -/
def scaled (num den : Nat) (e : Int) : Nat × Nat :=
  if 0 ≤ e then (num, den * Nat.pow 2 e.toNat) else (num * Nat.pow 2 (-e).toNat, den)

/-- The integer nearest to a fraction, the even one of two that are equally near. -/
def nearestEven (num den : Nat) : Nat :=
  let quotient := num / den
  let twice := 2 * (num % den)
  if twice < den then quotient
  else if den < twice then quotient + 1
  else if quotient % 2 = 0 then quotient else quotient + 1

/-- The number nearest to `± num / den`, with an even mantissa where two are equally near. -/
def ofRatio (negative : Bool) (num den : Nat) : Float :=
  if num = 0 then pack negative 0 (-1074)
  else
    let guess : Int := max ((num.log2 : Int) - den.log2 - 52) (-1074)
    let (n, d) := scaled num den guess
    let exponent := if n / d < leadingBit then max (guess - 1) (-1074) else guess
    let (n, d) := scaled num den exponent
    pack negative (nearestEven n d) exponent

/-- The number nearest to an integer. -/
def ofInt (n : Int) : Float := ofRatio (n < 0) n.natAbs 1

/-- Whether the number is neither infinite nor no number. -/
def isFinite (x : Float) : Bool :=
  match Reading.ofFloat x with
  | .finite .. => true
  | _ => false

/-- Whether the magnitude of a finite number is below an integer. -/
def magnitudeBelow (limit : Nat) (x : Float) : Bool :=
  match Reading.ofFloat x with
  | .finite _ mantissa exponent =>
    if 0 ≤ exponent then mantissa * Nat.pow 2 exponent.toNat < limit
    else mantissa < limit * Nat.pow 2 (-exponent).toNat
  | _ => false

/-- The integer part of a finite number, toward zero. -/
def truncate? (x : Float) : Option Int :=
  match Reading.ofFloat x with
  | .finite negative mantissa exponent =>
    let magnitude :=
      if 0 ≤ exponent then mantissa * Nat.pow 2 exponent.toNat
      else mantissa / Nat.pow 2 (-exponent).toNat
    some (if negative then -(magnitude : Int) else magnitude)
  | _ => none

/-- A number whose magnitude is the integer that `rule negative num den` picks for the magnitude
`num / den`; a number that is an integer already, infinite or no number is kept. -/
def roundBy (rule : Bool → Nat → Nat → Nat) (x : Float) : Float :=
  match Reading.ofFloat x with
  | .finite negative mantissa exponent =>
    if 0 ≤ exponent then x
    else ofRatio negative (rule negative mantissa (Nat.pow 2 (-exponent).toNat)) 1
  | _ => x

/-- The greatest integer not above the number. A zero keeps its sign. -/
def floor (x : Float) : Float :=
  roundBy (fun negative num den => if negative then (num + den - 1) / den else num / den) x

/-- The nearest integer, of two equally near the one farther from zero. The sign is kept. -/
def round (x : Float) : Float :=
  roundBy (fun _ num den => (2 * num + den) / (2 * den)) x

/-- The order of two numbers; there is none when either is no number. -/
def compare? (x y : Float) : Option Ordering :=
  if x < y then some .lt
  else if x == y then some .eq
  else if y < x then some .gt
  else none

/-- `x` to the power `n` by repeated squaring. -/
def powNat (x : Float) (n : Nat) : Float :=
  go x 1.0 n
where
  /-- `acc` times `x` to the power `n`, the factors taken from the lowest binary digit of `n` up. -/
  go (x acc : Float) (n : Nat) : Float :=
    if n ≤ 1 then
      if n = 1 then acc * x else acc
    else go (x * x) (if n % 2 = 1 then acc * x else acc) (n / 2)
  termination_by n

/-- `x` to the power `n`; a negative power is the reciprocal of the positive one. -/
def powInt (x : Float) (n : Int) : Float :=
  if n < 0 then 1.0 / powNat x n.natAbs else powNat x n.natAbs

end LayeredConfig.Binary64
