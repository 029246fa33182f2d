import LayeredConfig.Expr.Arithmetic

/-!
# Division with a rounded-down quotient

`floorDivide` and `floorModulo` compute a truncated quotient or remainder and correct it without a look
at the range. The corrections never leave it: both operations give the exact results
(`floorDivide_eq`, `floorModulo_eq`), so neither meets a fault.
-/

namespace LayeredConfig

/-! ## The range of 64 bits -/

namespace Integer

/-- An integer in the range of 64 bits is kept. -/
theorem ofInt?_of_mem {n : Int} (hleast : least ≤ n) (hgreatest : n ≤ greatest) :
    ofInt? n = some (Int64.ofInt n) := if_pos ⟨hleast, hgreatest⟩

theorem least_le (i : Int64) : least ≤ i.toInt := i.le_toInt

theorem le_greatest (i : Int64) : i.toInt ≤ greatest := Int.le_of_lt_add_one i.toInt_lt

theorem ofInt?_toInt (i : Int64) : ofInt? i.toInt = some i := by
  rw [ofInt?_of_mem (least_le i) (le_greatest i), Int64.ofInt_toInt]

/-- Integers on both sides of zero have a sum between them. -/
theorem add_mem_of_signs {a b : Int64} (h : ¬ (a.toInt < 0 ↔ b.toInt < 0)) :
    least ≤ a.toInt + b.toInt ∧ a.toInt + b.toInt ≤ greatest := by
  have haleast := least_le a
  have hagreatest := le_greatest a
  have hbleast := least_le b
  have hbgreatest := le_greatest b
  simp only [least, greatest] at *
  omega

/-- A truncated remainder is in the range, whether or not the quotient is. -/
theorem ofInt?_tmod (a b : Int64) (hb : b.toInt ≠ 0) :
    ofInt? (a.toInt.tmod b.toInt) = some (Int64.ofInt (a.toInt.tmod b.toInt)) := by
  have hlt : (a.toInt.tmod b.toInt).natAbs < b.toInt.natAbs := by
    rw [Int.natAbs_tmod]
    exact Nat.mod_lt _ (Int.natAbs_pos.2 hb)
  have hleast := least_le b
  have hgreatest := le_greatest b
  simp only [least, greatest] at hleast hgreatest
  exact ofInt?_of_mem (by simp only [least]; omega) (by simp only [greatest]; omega)

end Integer

namespace Expr

/-! ## Rounding down by way of rounding toward zero -/

/-- The floor of a quotient is one less than its truncation where the division leaves a remainder and the
signs differ. -/
theorem fdiv_eq_truncated (m : Int) {n : Int} (hn : n ≠ 0) :
    m.fdiv n = if m.tmod n ≠ 0 ∧ ¬ (m < 0 ↔ n < 0) then m.tdiv n - 1 else m.tdiv n := by
  rw [Int.fdiv_eq_tdiv]
  simp only [Int.dvd_iff_tmod_eq_zero]
  rcases Int.lt_or_gt_of_ne hn with hneg | hpos
  · have hsign : n.sign = -1 := Int.sign_eq_neg_one_of_neg hneg
    grind
  · have hsign : n.sign = 1 := Int.sign_eq_one_of_pos hpos
    grind

/-- The truncated remainder of a negative dividend is not positive. -/
theorem tmod_nonpos {m : Int} (n : Int) (hm : m < 0) : m.tmod n ≤ 0 := by
  have h := Int.tmod_nonneg n (Int.neg_nonneg_of_nonpos (Int.le_of_lt hm))
  rw [Int.neg_tmod] at h
  omega

/-- The remainder of a floor division is that of a truncating one, moved by the divisor where its sign is
the wrong one. -/
theorem fmod_eq_truncated (m n : Int) :
    m.fmod n = if m.tmod n ≠ 0 ∧ ¬ (m.tmod n < 0 ↔ n < 0) then m.tmod n + n else m.tmod n := by
  rw [Int.fmod_eq_tmod]
  simp only [Int.dvd_iff_tmod_eq_zero]
  rcases Int.lt_or_le m 0 with hm | hm
  · have hsign := tmod_nonpos n hm
    grind
  · have hsign := Int.tmod_nonneg n hm
    grind

/-- Operands of different signs have no positive quotient. -/
theorem tdiv_nonpos_of_signs {m n : Int} (h : ¬ (m < 0 ↔ n < 0)) : m.tdiv n ≤ 0 := by
  rcases Int.lt_or_le m 0 with hm | hm
  · have hquotient := Int.tdiv_nonneg (Int.neg_nonneg_of_nonpos (Int.le_of_lt hm))
      (show 0 ≤ n by omega)
    rw [Int.neg_tdiv] at hquotient
    omega
  · exact Int.tdiv_nonpos_of_nonneg_of_nonpos hm (by omega)

/-- No quotient lies below the range. -/
theorem least_le_fdiv (a b : Int64) : Integer.least ≤ a.toInt.fdiv b.toInt := by
  have hle := Int.natAbs_fdiv_le_natAbs a.toInt b.toInt
  have hleast := Integer.least_le a
  have hgreatest := Integer.le_greatest a
  simp only [Integer.least, Integer.greatest] at hleast hgreatest ⊢
  omega

/-! ## The operations -/

theorem unchecked_of_mem {cause : Fault} {n : Int} (hleast : Integer.least ≤ n)
    (hgreatest : n ≤ Integer.greatest) : unchecked cause n = .ok (Int64.ofInt n) := by
  simp [unchecked, Integer.ofInt?_of_mem hleast hgreatest]

/-- The quotient is the exact one, rounded down, or an overflow when that leaves the range. -/
theorem floorDivide_eq (a b : Int64) :
    (floorDivide a b).map Value.integer =
      if b.toInt = 0 then .error .divisionByZero else checked (a.toInt.fdiv b.toInt) := by
  unfold floorDivide
  split
  · rfl
  · next hb =>
    have hfloor := fdiv_eq_truncated a.toInt hb
    have hleast := least_le_fdiv a b
    cases hq : Integer.ofInt? (a.toInt.tdiv b.toInt) with
    | none =>
      -- a quotient beyond the range is positive, so that it is not corrected
      have hnone : Integer.ofInt? (a.toInt.fdiv b.toInt) = none := by
        rw [Integer.ofInt?_eq_none_iff] at hq ⊢
        have hpositive := @tdiv_nonpos_of_signs a.toInt b.toInt
        simp only [Integer.least, Integer.greatest] at hq hleast ⊢
        grind
      simp [Integer.quotient?, hb, hq, checked, hnone, Except.map]
    | some q =>
      have hvalue := Integer.toInt_of_ofInt? hq
      have hremainder : remainder a b = .ok (Int64.ofInt (a.toInt.tmod b.toInt)) := by
        simp [remainder, Integer.remainder?, Integer.quotient?, hb, hq, Integer.ofInt?_tmod]
      have hrest := Integer.toInt_of_ofInt? (Integer.ofInt?_tmod a b hb)
      simp only [Integer.quotient?, hb, if_false, hq, hremainder, hrest]
      split
      · next hcorrect =>
        rw [if_pos hcorrect, ← hvalue] at hfloor
        have hgreatest : q.toInt - 1 ≤ Integer.greatest := by
          have := Integer.le_greatest q
          omega
        rw [hfloor] at hleast ⊢
        simp [unchecked_of_mem hleast hgreatest, checked, Integer.ofInt?_of_mem hleast hgreatest,
          Except.map]
      · next hcorrect =>
        rw [if_neg hcorrect] at hfloor
        simp [hfloor, checked, hq, Except.map]

/-- The remainder is the exact one, with the sign of the divisor, or an overflow where the truncated
quotient leaves the range. -/
theorem floorModulo_eq (a b : Int64) :
    (floorModulo a b).map Value.integer =
      if b.toInt = 0 then .error .divisionByZero
      else match Integer.ofInt? (a.toInt.tdiv b.toInt) with
        | some _ => checked (a.toInt.fmod b.toInt)
        | none => .error .overflow := by
  unfold floorModulo
  split
  · rfl
  · next hb =>
    have hfloor := fmod_eq_truncated a.toInt b.toInt
    have hremainder := Integer.ofInt?_tmod a b hb
    have hrest := Integer.toInt_of_ofInt? hremainder
    cases hq : Integer.ofInt? (a.toInt.tdiv b.toInt) with
    | none => simp [Integer.remainder?, Integer.quotient?, hb, hq, Except.map]
    | some q =>
      simp only [Integer.remainder?, Integer.quotient?, hb, if_false, hq, hremainder, hrest]
      split
      · next hcorrect =>
        rw [if_pos hcorrect] at hfloor
        -- the corrected remainder lies between the remainder and the divisor
        have hmem := @Integer.add_mem_of_signs (Int64.ofInt (a.toInt.tmod b.toInt)) b
        rw [hrest] at hmem
        obtain ⟨hleast, hgreatest⟩ := hmem hcorrect.2
        simp [hfloor, unchecked_of_mem hleast hgreatest, checked,
          Integer.ofInt?_of_mem hleast hgreatest, Except.map]
      · next hcorrect =>
        rw [if_neg hcorrect] at hfloor
        simp [hfloor, checked, hremainder, Except.map]

end Expr

end LayeredConfig
