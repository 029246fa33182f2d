import LayeredConfig.Binary64

/-!
# Shortest decimals

The decimal with the fewest digits among those that read back as a given binary64 number, and of
those with equally few the one nearest to it. A number reads back from every decimal of an interval
around it, ends included when its mantissa is even. On the grid of decimals with `n` digits only the
two neighbours of the number need to be tried: `shortest` takes the first `n` that has one inside.
-/

namespace LayeredConfig

/-- The decimal `digits * 10 ^ exponent`. -/
structure Decimal where
  digits : Nat
  exponent : Int
deriving DecidableEq, Repr

namespace Decimal

/-- The decimals that read back as one number: from `low / den` to `high / den`, around
`value / den`. -/
structure Interval where
  low : Nat
  value : Nat
  high : Nat
  den : Nat
  closed : Bool
deriving Repr

/-- The interval of `mantissa * 2 ^ exponent`. Its ends lie half way to the neighbours; below a power
of two the neighbour is twice as near. -/
def Interval.ofBinary (mantissa : Nat) (exponent : Int) : Interval :=
  let below := if mantissa = Binary64.leadingBit && exponent != -1074 then 1 else 2
  let scale := if 2 ≤ exponent then Nat.pow 2 (exponent - 2).toNat else 1
  let den := if 2 ≤ exponent then 1 else Nat.pow 2 (2 - exponent).toNat
  ⟨(4 * mantissa - below) * scale, 4 * mantissa * scale, (4 * mantissa + 2) * scale, den,
    mantissa % 2 = 0⟩

/-- The interval measured in units of `10 ^ unit`. -/
def Interval.inUnits (i : Interval) (unit : Int) : Interval :=
  if 0 ≤ unit then { i with den := i.den * Nat.pow 10 unit.toNat }
  else
    let factor := Nat.pow 10 (-unit).toNat
    { i with low := i.low * factor, value := i.value * factor, high := i.high * factor }

/-- Whether the integer `n` lies in the interval. -/
def Interval.holds (i : Interval) (n : Nat) : Bool :=
  if i.closed then i.low ≤ n * i.den && n * i.den ≤ i.high
  else i.low < n * i.den && n * i.den < i.high

/-- The integer of the interval next to its value: the nearer of the two neighbours, the upper one
of two that are equally near. -/
def Interval.integer? (i : Interval) : Option Nat :=
  let lower := i.value / i.den
  let rest := i.value % i.den
  match i.holds lower, i.holds (lower + 1) with
  | true, true => some (if 2 * rest < i.den then lower else lower + 1)
  | true, false => some lower
  | false, true => some (lower + 1)
  | false, false => none

/-- The least `p` with `num / den < 10 ^ p`, sought upwards from `p` with at most `fuel` steps. -/
def magnitudeFrom (num den : Nat) (p : Int) : Nat → Int
  | 0 => p
  | fuel + 1 =>
    let below := if 0 ≤ p then num < den * Nat.pow 10 p.toNat else num * Nat.pow 10 (-p).toNat < den
    if below then p else magnitudeFrom num den (p + 1) fuel

/-- The position of the decimal point in `num / den`: the least `p` with `num / den < 10 ^ p`. The
first guess is a lower bound taken from the binary logarithm, at most three below. -/
def magnitude (num den : Nat) : Int :=
  let binary : Int := (num.log2 : Int) - den.log2 - 1
  magnitudeFrom num den (binary * 30103 / 100000 - 1) 8

/-- The first grid, from `digits` digits upwards, with a decimal in the interval. -/
def shortestFrom (i : Interval) (point : Int) (digits : Nat) : Nat → Decimal
  | 0 => ⟨i.value / i.den, 0⟩
  | fuel + 1 =>
    let unit := point - digits
    match (i.inUnits unit).integer? with
    | some n => ⟨n, unit⟩
    | none => shortestFrom i point (digits + 1) fuel

/-- Moves zeros at the end of the digits into the exponent. -/
def strip (d : Decimal) : Decimal :=
  go d.digits d.exponent
where
  /-- `digits * 10 ^ exponent` without zeros at the end of its digits. -/
  go (digits : Nat) (exponent : Int) : Decimal :=
    if digits = 0 then ⟨0, 0⟩
    else if digits % 10 = 0 then go (digits / 10) (exponent + 1)
    else ⟨digits, exponent⟩
  termination_by digits

/-- The shortest decimal that reads back as `mantissa * 2 ^ exponent`. Seventeen digits are always
enough. -/
def shortest (mantissa : Nat) (exponent : Int) : Decimal :=
  if mantissa = 0 then ⟨0, 0⟩
  else
    let i := Interval.ofBinary mantissa exponent
    strip (shortestFrom i (magnitude i.value i.den) 1 18)

end Decimal

end LayeredConfig
