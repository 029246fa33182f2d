/-!
# Signed 64-bit integers

Integers of the library have 64 bits, and no operation wraps: a result is computed over all the
integers and taken only if it lies in the range. Division rounds toward zero; it has no result by zero,
and neither has the remainder where the quotient leaves the range.
-/

namespace LayeredConfig.Integer

/-- The least 64-bit integer. -/
def least : Int := -0x8000000000000000

/-- The greatest 64-bit integer. -/
def greatest : Int := 0x7fffffffffffffff

/-- The 64-bit integer of this value, if there is one. -/
def ofInt? (n : Int) : Option Int64 :=
  if least ≤ n ∧ n ≤ greatest then some (Int64.ofInt n) else none

/-- The quotient, rounded toward zero. -/
def quotient? (a b : Int64) : Option Int64 :=
  if b.toInt = 0 then none else ofInt? (a.toInt.tdiv b.toInt)

/-- The remainder that belongs to the quotient; it has the sign of the dividend. -/
def remainder? (a b : Int64) : Option Int64 :=
  match quotient? a b with
  | none => none
  | some _ => ofInt? (a.toInt.tmod b.toInt)

theorem ofInt?_eq_none_iff {n : Int} : ofInt? n = none ↔ n < least ∨ greatest < n := by
  simp only [ofInt?]
  split <;> simp_all only [reduceCtorEq, false_iff, true_iff] <;> omega

/-- The integer taken has the value asked for. -/
theorem toInt_of_ofInt? {n : Int} {i : Int64} (h : ofInt? n = some i) : i.toInt = n := by
  simp only [ofInt?] at h
  split at h
  · next hr =>
    cases h
    simp only [least, greatest] at hr
    rw [Int64.toInt_ofInt]
    exact Int.bmod_eq_of_le (by simp only [Int64.size]; omega) (by simp only [Int64.size]; omega)
  · cases h

end LayeredConfig.Integer
