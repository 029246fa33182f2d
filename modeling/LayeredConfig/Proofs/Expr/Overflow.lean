import LayeredConfig.Proofs.Expr.Exactness

/-!
# Overflows of integers

An operation on two integers reports an overflow where 64 bits do not hold its result, and there are two
overflows that are none (`BinaryOp.Overstates`). The least integer leaves nothing when it is divided by
`-1`, but the quotient of that division is beyond the range. And `-1`, `0` and `1` have small powers with
every exponent, but an exponent of more than 32 bits is not looked at. Everywhere else an overflow is
reported exactly where there is one (`accurate_iff_not_overstates`).
-/

namespace LayeredConfig.Expr

/-- An overflow is reported only for a result that 64 bits do not hold, and any other result is given. -/
structure Accurate (op : BinaryOp) (x : Value) (left right : Node) (m n : ℤ) : Prop where
  overflow : Reports ((Node.binary op left right).eval x) "integer overflow" →
    op.exact m n < Integer.least ∨ Integer.greatest < op.exact m n
  result : ∀ r : Int64, r.toInt = op.exact m n →
    (Node.binary op left right).eval x = .ok (.integer r)

section

variable {op : BinaryOp} {x : Value} {left right : Node} {m n k : ℤ}

theorem checked_toInt (r : Int64) : checked r.toInt = .ok (.integer r) := by
  rw [checked, Integer.ofInt?_toInt]

/-- Only an integer beyond 64 bits is reported as too great. -/
theorem reports_checked_iff : Reports (checked k) "integer overflow" ↔
    k < Integer.least ∨ Integer.greatest < k := by
  rw [← checked_eq_overflow_iff]
  constructor
  · rintro ⟨e, he, -⟩
    unfold checked at he ⊢
    split at he
    · cases he
    · rfl
  · exact fun h => ⟨_, h, rfl⟩

/-- The result for which an overflow is given is small. -/
theorem natAbs_exact_of_overstates (h : op.Overstates m n) : (op.exact m n).natAbs ≤ 1 := by
  rcases h with ⟨rfl, rfl, rfl⟩ | ⟨rfl, hm, -⟩
  · rw [BinaryOp.exact, ← fmod_eq_sub_floor]
    decide
  · rw [BinaryOp.exact, Int.natAbs_pow]
    exact pow_le_one₀ (Nat.zero_le _) hm

/-- An operation on integers that has an integer result gives this result, checked, unless it overstates. -/
theorem eval_binary_eq (hleft : EvaluatesTo x left m) (hright : EvaluatesTo x right n)
    (hop : op.Integral n) (hn : op.Divides → n ≠ 0) : (Node.binary op left right).eval x =
      if op.Overstates m n then .error .overflow else checked (op.exact m n) := by
  obtain ⟨a, b, rfl, rfl, heval⟩ := exists_integerOperation op hleft hright
  rw [heval, integerOperation_eq hop hn]

/-- An overflow is reported where the operation overstates or its result is beyond 64 bits. -/
theorem reports_overflow_iff (hleft : EvaluatesTo x left m) (hright : EvaluatesTo x right n)
    (hop : op.Integral n) (hn : op.Divides → n ≠ 0) :
    Reports ((Node.binary op left right).eval x) "integer overflow" ↔
      op.Overstates m n ∨ op.exact m n < Integer.least ∨ Integer.greatest < op.exact m n := by
  rw [eval_binary_eq hleft hright hop hn]
  split
  · next h => exact iff_of_true ⟨_, rfl, rfl⟩ (.inl h)
  · next h => exact reports_checked_iff.trans (or_iff_right h).symm

/-- **Overflows.** An operation on integers or truth values reports an overflow where 64 bits do not hold
the result and in the two cases in which they do, and gives every other result. -/
theorem accurate_iff_not_overstates (hleft : EvaluatesTo x left m) (hright : EvaluatesTo x right n)
    (hop : op.Integral n) (hn : op.Divides → n ≠ 0) :
    (Accurate op x left right m n ↔ ¬ op.Overstates m n) ∧
      (Reports ((Node.binary op left right).eval x) "integer overflow" ↔
        op.Overstates m n ∨ op.exact m n < Integer.least ∨ Integer.greatest < op.exact m n) := by
  have hreports := reports_overflow_iff hleft hright hop hn
  refine ⟨⟨fun haccurate hoverstates => ?_, fun hnot => ⟨fun h => ?_, fun r hr => ?_⟩⟩, hreports⟩
  · have hrange := haccurate.overflow (hreports.2 (.inl hoverstates))
    have hsmall := natAbs_exact_of_overstates hoverstates
    simp only [Integer.least, Integer.greatest] at hrange
    omega
  · exact (hreports.1 h).resolve_left hnot
  · rw [eval_binary_eq hleft hright hop hn, if_neg hnot, ← hr, checked_toInt]

/-- A truth value has its powers, but not beyond an exponent of 32 bits. -/
theorem accurate_truth_power :
    (EvaluatesTo (.bool true) .var 1 ∧
      EvaluatesTo (.bool true) (.literal (.integer 0x100000000)) 0x100000000 ∧
      BinaryOp.pow.Integral 0x100000000 ∧ (BinaryOp.pow.Divides → (0x100000000 : ℤ) ≠ 0)) ∧
    ((Accurate .pow (.bool true) .var (.literal (.integer 0x100000000)) 1 0x100000000 ↔
        ¬ BinaryOp.pow.Overstates 1 0x100000000) ∧
      (Reports ((Node.binary .pow .var (.literal (.integer 0x100000000))).eval (.bool true))
          "integer overflow" ↔
        BinaryOp.pow.Overstates 1 0x100000000 ∨ BinaryOp.pow.exact 1 0x100000000 < Integer.least ∨
          Integer.greatest < BinaryOp.pow.exact 1 0x100000000)) := by
  have hleft : EvaluatesTo (.bool true) .var (if true then 1 else 0) := .bool rfl
  have hright : EvaluatesTo (.bool true) (.literal (.integer 0x100000000))
      (0x100000000 : Int64).toInt := .integer rfl
  have hop : BinaryOp.pow.Integral 0x100000000 := ⟨nofun, fun _ => by decide⟩
  have hn : BinaryOp.pow.Divides → (0x100000000 : ℤ) ≠ 0 := fun _ => by decide
  exact ⟨⟨hleft, hright, hop, hn⟩, accurate_iff_not_overstates hleft hright hop hn⟩

/-- The least integer divided by `-1` leaves nothing, and an overflow is reported. -/
theorem overflow_of_no_remainder :
    ∃ x left right, EvaluatesTo x left Integer.least ∧ EvaluatesTo x right (-1) ∧
      BinaryOp.mod.Integral (-1) ∧ BinaryOp.mod.exact Integer.least (-1) = 0 ∧
      Reports ((Node.binary .mod left right).eval x) "integer overflow" ∧
      ¬ Accurate .mod x left right Integer.least (-1) := by
  have hleft : EvaluatesTo (.integer Int64.minValue) .var Int64.minValue.toInt := .integer rfl
  have hright : EvaluatesTo (.integer Int64.minValue) (.literal (.integer (-1))) (-1 : Int64).toInt :=
    .integer rfl
  have hexact : BinaryOp.mod.exact Integer.least (-1) = 0 := by
    rw [BinaryOp.exact, ← fmod_eq_sub_floor]
    decide
  have hreports : Reports ((Node.binary .mod .var (.literal (.integer (-1)))).eval
      (.integer Int64.minValue)) "integer overflow" := ⟨.overflow, rfl, rfl⟩
  have hop : BinaryOp.mod.Integral (-1) := ⟨BinaryOp.noConfusion, BinaryOp.noConfusion⟩
  refine ⟨_, _, _, hleft, hright, hop, hexact, hreports, fun haccurate => ?_⟩
  have hrange := haccurate.overflow hreports
  rw [hexact] at hrange
  exact absurd hrange (by decide)

end

end LayeredConfig.Expr
