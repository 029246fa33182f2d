import Mathlib.Data.Rat.Floor
import LayeredConfig.Proofs.Binary64.Rounding

/-!
# Floats as fractions

`toRat?` is the fraction that a finite float stands for. `truncate?` rounds it toward zero (`truncate?_eq`).
`Binary64.roundBy` goes by a rule for magnitudes; where the rule rounds fractions in some way, the float is
rounded in that way (`Rounds.truncate?_roundBy`). A float from `2 ^ 53` on has no part behind the point, so
no rounding leads to such an integer from anywhere else (`Rounds.eq_iff`).
-/

namespace LayeredConfig.Binary64

/-! ## Rounding a fraction -/

/-- The integer part. -/
def towardZero (q : ℚ) : ℤ := if 0 ≤ q then ⌊q⌋ else ⌈q⌉

/-- The nearest integer, of two equally near the one farther from zero. -/
def halfAway (q : ℚ) : ℤ := if 0 ≤ q then ⌊q + 1 / 2⌋ else ⌈q - 1 / 2⌉

/-- Taking the integer part is symmetric about zero. -/
theorem towardZero_neg (q : ℚ) : towardZero (-q) = -towardZero q := by
  rcases lt_trichotomy q 0 with h | rfl | h
  · rw [towardZero, towardZero, if_pos (by linarith), if_neg (by linarith), Int.floor_neg]
  · simp [towardZero]
  · rw [towardZero, towardZero, if_neg (by linarith), if_pos h.le, Int.ceil_neg]

theorem halfAway_neg (q : ℚ) : halfAway (-q) = -halfAway q := by
  rcases lt_trichotomy q 0 with h | rfl | h
  · rw [halfAway, halfAway, if_pos (by linarith), if_neg (by linarith), ← Int.floor_neg]
    congr 1
    ring
  · norm_num [halfAway]
  · rw [halfAway, halfAway, if_neg (by linarith), if_pos h.le, ← Int.ceil_neg]
    congr 1
    ring

theorem towardZero_intCast (n : ℤ) : towardZero n = n := by
  rw [towardZero]
  split
  · exact Int.floor_intCast n
  · exact Int.ceil_intCast n

theorem halfAway_intCast (n : ℤ) : halfAway n = n := by
  rw [halfAway]
  split
  · exact Int.floor_eq_iff.2 ⟨by linarith, by linarith⟩
  · exact Int.ceil_eq_iff.2 ⟨by linarith, by linarith⟩

/-- The integer part of a quotient of natural numbers is their division. -/
theorem towardZero_div (m d : ℕ) : towardZero (m / d) = (m / d : ℕ) := by
  rw [towardZero, if_pos (by positivity), Rat.floor_natCast_div_natCast, Int.natCast_div]

/-- The nearest integer to a quotient of natural numbers, halves upward, is division after adding half of
the divisor. -/
theorem halfAway_div (m : ℕ) {d : ℕ} (hd : 0 < d) :
    halfAway (m / d) = ((2 * m + d) / (2 * d) : ℕ) := by
  have hhalf : (m / d + 1 / 2 : ℚ) = ((2 * m + d : ℕ) : ℚ) / ((2 * d : ℕ) : ℚ) := by
    push_cast
    field_simp
  rw [halfAway, if_pos (by positivity), hhalf, Rat.floor_natCast_div_natCast, Int.natCast_div]

/-! ## The fraction of a float -/

/-- A fraction of this magnitude. -/
def signedRat (negative : Bool) (magnitude : ℚ) : ℚ := if negative then -magnitude else magnitude

/-- The fraction that a float stands for, if it is finite, by what the operations on floats unpack. -/
def toRat? (x : Float) : Option ℚ :=
  match x.toModel.unpack with
  | .finite .positive mantissa exponent _ => some (mantissa * 2 ^ exponent)
  | .finite .negative mantissa exponent _ => some (-(mantissa * 2 ^ exponent))
  | .zero _ => some 0
  | _ => none

/-- The integer part of a signed magnitude is that of the magnitude, with the sign. -/
theorem towardZero_signedRat (negative : Bool) (q : ℚ) :
    towardZero (signedRat negative q) = signed negative (towardZero q) := by
  cases negative
  · rfl
  · exact towardZero_neg q

theorem halfAway_signedRat (negative : Bool) (q : ℚ) :
    halfAway (signedRat negative q) = signed negative (halfAway q) := by
  cases negative
  · rfl
  · exact halfAway_neg q

/-- A mantissa and an exponent are an integer, or a fraction whose denominator is a power of two. -/
theorem magnitude_cases (m : ℕ) (e : ℤ) :
    (0 ≤ e ∧ (m * 2 ^ e : ℚ) = ((m * 2 ^ e.toNat : ℕ) : ℤ)) ∨
      (e < 0 ∧ (m * 2 ^ e : ℚ) = (m : ℚ) / ((2 ^ (-e).toNat : ℕ) : ℚ)) := by
  rcases Int.lt_or_le e 0 with h | h
  · refine .inr ⟨h, ?_⟩
    have hexponent : e = -((-e).toNat : ℤ) := by omega
    conv_lhs => rw [hexponent]
    rw [zpow_neg, zpow_natCast]
    push_cast
    rfl
  · refine .inl ⟨h, ?_⟩
    have hexponent : e = (e.toNat : ℤ) := by omega
    conv_lhs => rw [hexponent]
    rw [zpow_natCast]
    push_cast
    rfl

theorem signedRat_intCast (negative : Bool) (n : ℤ) :
    signedRat negative n = (signed negative n : ℤ) := by
  cases negative
  · rfl
  · exact (Int.cast_neg n).symm

section

variable {x : Float} {negative : Bool} {m : ℕ} {e : ℤ}

/-- What is read of a finite float says which fraction it stands for. -/
theorem toRat?_of_reading (h : Reading.ofFloat x = .finite negative m e) :
    toRat? x = some (signedRat negative (m * 2 ^ e)) := by
  rw [toRat?, unpack_eq, h, Reading.unpacked]
  rcases Nat.eq_zero_or_pos m with rfl | hpos
  · rw [dif_neg (Nat.lt_irrefl 0)]
    cases negative <;> simp [signedRat]
  · rw [dif_pos hpos]
    cases negative <;> rfl

/-- How a float stands to the integers: it is not finite, it is one, or it is a mantissa with a part of
it behind the point. -/
inductive Shape (x : Float) : Prop where
  | notFinite (value : toRat? x = none) (part : truncate? x = none)
      (rounded : ∀ rule, roundBy rule x = x)
  | whole (n : ℤ) (value : toRat? x = some (n : ℚ)) (part : truncate? x = some n)
      (rounded : ∀ rule, roundBy rule x = x)
  | broken (negative : Bool) (m k : ℕ) (lt : m < 2 * leadingBit) (pos : 0 < k)
      (value : toRat? x = some (signedRat negative (m / (2 ^ k : ℕ))))
      (part : truncate? x = some (signed negative (m / 2 ^ k : ℕ)))
      (rounded : ∀ rule, roundBy rule x = ofRatio negative (rule negative m (2 ^ k)) 1)

/-- Every float has a shape: an exponent that is not negative makes it an integer. -/
theorem shape (x : Float) : Shape x := by
  cases hread : Reading.ofFloat x with
  | notANumber =>
    refine .notFinite ?_ (by rw [truncate?, hread]) fun rule => by rw [roundBy, hread]
    rw [toRat?, unpack_eq, hread, Reading.unpacked]
  | infinite s =>
    refine .notFinite ?_ (by rw [truncate?, hread]) fun rule => by rw [roundBy, hread]
    rw [toRat?, unpack_eq, hread, Reading.unpacked]
  | finite s m e =>
    have hfits := fits_of_reading hread
    rcases magnitude_cases m e with ⟨he, hvalue⟩ | ⟨he, hvalue⟩
    · refine .whole (signed s (m * 2 ^ e.toNat : ℕ)) ?_ ?_ fun rule => ?_
      · rw [toRat?_of_reading hread, hvalue, signedRat_intCast]
      · rw [truncate?_of_reading hread, wholePart, if_pos he]
      · rw [roundBy, hread]
        exact if_pos he
    · refine .broken s m (-e).toNat hfits.lt (by omega) ?_ ?_ fun rule => ?_
      · rw [toRat?_of_reading hread, hvalue]
      · rw [truncate?_of_reading hread, wholePart, if_neg (by omega)]
      · rw [roundBy, hread]
        exact if_neg (by omega)

end

/-! ## Integer parts -/

/-- The integer part of a float is that of its fraction. -/
theorem truncate?_eq (x : Float) : truncate? x = (toRat? x).map towardZero := by
  cases shape x with
  | notFinite value part => rw [part, value, Option.map_none]
  | whole n value part => rw [part, value, Option.map_some, towardZero_intCast]
  | broken s m k _ _ value part =>
    rw [part, value, Option.map_some, towardZero_signedRat, towardZero_div]

/-- `rule` makes of the magnitude of a float what `whole` makes of its fraction. -/
structure Rounds (whole : ℚ → ℤ) (rule : Bool → ℕ → ℕ → ℕ) : Prop where
  intCast : ∀ n : ℤ, whole n = n
  signed : ∀ negative q, whole (signedRat negative q) = signed negative (whole q)
  div : ∀ negative (m k : ℕ), whole (m / (2 ^ k : ℕ)) = rule negative m (2 ^ k)
  lt : ∀ negative (m k : ℕ), m < 2 * leadingBit → 0 < k → rule negative m (2 ^ k) < 2 * leadingBit

/-- Dividing a magnitude takes the integer part of a fraction. -/
theorem rounds_towardZero : Rounds towardZero fun _ num den => num / den where
  intCast := towardZero_intCast
  signed := towardZero_signedRat
  div _ m _ := towardZero_div m _
  lt _ m _ hm _ := (Nat.div_le_self m _).trans_lt hm

theorem rounds_halfAway : Rounds halfAway fun _ num den => (2 * num + den) / (2 * den) where
  intCast := halfAway_intCast
  signed := halfAway_signedRat
  div _ m k := halfAway_div m (Nat.two_pow_pos k)
  lt _ m k hm hk := by
    obtain ⟨j, rfl⟩ : ∃ j, k = j + 1 := ⟨k - 1, by omega⟩
    have hj := Nat.two_pow_pos j
    rw [Nat.div_lt_iff_lt_mul (by positivity), pow_succ]
    simp only [leadingBit] at *
    nlinarith

section

variable {whole : ℚ → ℤ} {rule : Bool → ℕ → ℕ → ℕ}

/-- Rounded, a float is the integer that its fraction is rounded to. -/
theorem Rounds.truncate?_roundBy (h : Rounds whole rule) (x : Float) :
    truncate? (roundBy rule x) = (toRat? x).map whole := by
  cases shape x with
  | notFinite value part rounded => rw [rounded, part, value, Option.map_none]
  | whole n value part rounded => rw [rounded, part, value, Option.map_some, h.intCast]
  | broken s m k lt pos value part rounded =>
    rw [rounded, value, Option.map_some, h.signed, h.div s m k,
      truncate?_ofRatio_of_lt s (h.lt s m k lt pos)]

/-- No float is rounded to an integer from `2 ^ 53` on but that integer itself. -/
theorem Rounds.eq_iff (h : Rounds whole rule) {x : Float} {q : ℚ} {n : ℤ} (hq : toRat? x = some q)
    (hlarge : 2 * leadingBit ≤ n.natAbs) : whole q = n ↔ q = n := by
  refine ⟨fun heq => ?_, fun heq => by rw [heq, h.intCast]⟩
  cases shape x with
  | notFinite value => cases hq.symm.trans value
  | whole i value =>
    obtain rfl : q = i := Option.some_inj.1 (hq.symm.trans value)
    rw [h.intCast] at heq
    rw [heq]
  | broken s m k lt pos value =>
    obtain rfl : q = _ := Option.some_inj.1 (hq.symm.trans value)
    have hlt := h.lt s m k lt pos
    rw [h.signed, h.div s m k] at heq
    cases s
    · simp only [signed_false] at heq
      omega
    · simp only [signed_true] at heq
      omega

end

end LayeredConfig.Binary64
