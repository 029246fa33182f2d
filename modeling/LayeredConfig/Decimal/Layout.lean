import LayeredConfig.Decimal.Shortest

/-!
# Number text

`plain` writes a number by its shortest decimal in positional form, however long that is.
`detailed` keeps a point in every number and moves to a power of ten outside `1e-4` to `1e16`.
-/

namespace LayeredConfig.Decimal

/-- The digits of a natural number. -/
def digitsOf (n : Nat) : List Char := Nat.toDigits 10 n

/-- A decimal in positional form, with at least `places` places after the point. -/
def positional (d : Decimal) (places : Nat) : List Char :=
  let digits := digitsOf d.digits
  if 0 ≤ d.exponent then
    digits ++ List.replicate d.exponent.toNat '0' ++
      (if places = 0 then [] else '.' :: List.replicate places '0')
  else
    let after := (-d.exponent).toNat
    let padded := List.replicate (after + 1 - digits.length) '0' ++ digits
    padded.take (padded.length - after) ++ '.' :: padded.drop (padded.length - after)

/-- A decimal as one digit, the others after a point, and a power of ten. -/
def scientific (d : Decimal) : List Char :=
  let digits := digitsOf d.digits
  let power := d.exponent + digits.length - 1
  let mantissa := match digits with
    | [] => []
    | [c] => [c]
    | c :: rest => c :: '.' :: rest
  mantissa ++ 'e' :: (if power < 0 then ['-'] else []) ++ digitsOf power.natAbs

/-- The text of a number whose finite magnitudes `write` writes. -/
def layout (write : Decimal → List Char) (x : Float) : String :=
  match Binary64.Reading.ofFloat x with
  | .notANumber => "NaN"
  | .infinite negative => if negative then "-inf" else "inf"
  | .finite negative mantissa exponent =>
    let text := write (shortest mantissa exponent)
    String.ofList (if negative then '-' :: text else text)

/-- The shortest decimal in positional form; an integer has no point, and zero keeps its sign. -/
def plain (x : Float) : String := layout (positional · 0) x

/-- The shortest decimal with a point, or with a power of ten when the magnitude is at least `1e16`
or, zero apart, below `1e-4`. -/
def detailed (x : Float) : String :=
  layout (fun d =>
    let point := d.exponent + (digitsOf d.digits).length
    if d.digits ≠ 0 && (16 < point || point < -3) then scientific d else positional d 1) x

/-- The text of an integer. -/
def ofInteger (n : Int64) : String :=
  let n := n.toInt
  String.ofList (if n < 0 then '-' :: digitsOf n.natAbs else digitsOf n.natAbs)

end LayeredConfig.Decimal
