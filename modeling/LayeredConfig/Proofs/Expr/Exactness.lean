import LayeredConfig.Expr.Eval
import LayeredConfig.Proofs.Expr.Arithmetic
import Mathlib.Algebra.Ring.Parity
import Mathlib.Data.Rat.Floor

/-!
# Integer results are exact

An operation on two integers ends with the exact result, or with an error where 64 bits do not hold it or
the divisor is zero, or it leaves the integers (`Ends`). So whatever integer an expression evaluates to is
the one that the operation has over all the integers (`integer_results_exact`): quotients are rounded down,
remainders go with them, and nothing wraps around.
-/

namespace LayeredConfig.Expr

/-! ## Exact results -/

namespace BinaryOp

/-- The operation divides by its second operand. -/
def Divides (op : BinaryOp) : Prop := op = div ∨ op = floorDiv ∨ op = mod

instance (op : BinaryOp) : Decidable op.Divides := inferInstanceAs (Decidable (_ ∨ _))

/-- Of integers the operation makes an integer: `/` does not, nor do negative powers. -/
def Integral (op : BinaryOp) (n : ℤ) : Prop := op ≠ div ∧ (op = pow → 0 ≤ n)

/-- The result of an operation on integers, over all of them. -/
def exact : BinaryOp → ℤ → ℤ → ℤ
  | add, m, n => m + n
  | sub, m, n => m - n
  | mul, m, n => m * n
  | floorDiv, m, n => ⌊(m / n : ℚ)⌋
  | mod, m, n => m - n * ⌊(m / n : ℚ)⌋
  | pow, m, n => m ^ n.toNat
  | div, _, _ => 0

/-- The operation gives an overflow whatever its result: for the remainder of a division whose quotient
64 bits do not hold, and for the powers of `-1`, `0` and `1` whose exponent is beyond 32 bits. -/
def Overstates (op : BinaryOp) (m n : ℤ) : Prop :=
  op = mod ∧ m = Integer.least ∧ n = -1 ∨ op = pow ∧ m.natAbs ≤ 1 ∧ (UInt32.size : ℤ) ≤ n

instance (op : BinaryOp) (m n : ℤ) : Decidable (op.Overstates m n) :=
  inferInstanceAs (Decidable (_ ∨ _))

end BinaryOp

/-- The ways in which an operation on two integers ends. -/
inductive Ends (op : BinaryOp) (m n : ℤ) : Outcome Value → Prop where
  | exact {r : Int64} (hop : op.Integral n) (hn : op.Divides → n ≠ 0) (h : r.toInt = op.exact m n) :
      Ends op m n (.ok (.integer r))
  | overflow (hop : op.Integral n) (hn : op.Divides → n ≠ 0) : Ends op m n (.error .overflow)
  | divisionByZero (hop : op.Divides) (hn : n = 0) : Ends op m n (.error .divisionByZero)
  | float {y : Float} (hop : ¬ op.Integral n) (hn : op.Divides → n ≠ 0) : Ends op m n (.ok (.float y))

/-! ## Quotients and remainders -/

/-- Divided by a negative number, a fraction is the opposite one divided by the opposite number. -/
theorem fdiv_eq_floor (m n : ℤ) : m.fdiv n = ⌊(m / n : ℚ)⌋ := by
  obtain ⟨k, rfl | rfl⟩ := n.eq_nat_or_neg
  · rw [Int.cast_natCast, Rat.floor_intCast_div_natCast]
    exact Int.fdiv_eq_ediv_of_nonneg m (Int.natCast_nonneg k)
  · have hflip : (m / (-(k : ℤ) : ℤ) : ℚ) = ((-m : ℤ) : ℚ) / (k : ℚ) := by
      push_cast
      rw [div_neg, neg_div]
    rw [hflip, Rat.floor_intCast_div_natCast, ← Int.neg_fdiv_neg, neg_neg]
    exact Int.fdiv_eq_ediv_of_nonneg (-m) (Int.natCast_nonneg k)

/-- The remainder is what the floor of the quotient leaves. -/
theorem fmod_eq_sub_floor (m n : ℤ) : m.fmod n = m - n * ⌊(m / n : ℚ)⌋ := by
  rw [Int.fmod_def, fdiv_eq_floor]

/-- A quotient that 64 bits do not hold is that of the least integer by `-1`. -/
theorem ofInt?_tdiv_eq_none_iff {a b : Int64} (hb : b.toInt ≠ 0) :
    Integer.ofInt? (a.toInt.tdiv b.toInt) = none ↔ a.toInt = Integer.least ∧ b.toInt = -1 := by
  rw [Integer.ofInt?_eq_none_iff]
  constructor
  · intro hout
    have hleast := Integer.least_le a
    have hgreatest := Integer.le_greatest a
    have hle : (a.toInt.tdiv b.toInt).natAbs ≤ a.toInt.natAbs / b.toInt.natAbs :=
      (Int.natAbs_tdiv _ _).le
    -- any other divisor halves the magnitude at least
    have hone : b.toInt.natAbs = 1 := by
      by_contra hne
      have hhalf : a.toInt.natAbs / b.toInt.natAbs ≤ a.toInt.natAbs / 2 :=
        Nat.div_le_div_left (by omega) (by decide)
      simp only [Integer.least, Integer.greatest] at *
      omega
    rcases Int.natAbs_eq_iff.1 hone with hpos | hneg
    · rw [hpos, Nat.cast_one, Int.tdiv_one] at hout
      omega
    · rw [hneg, Nat.cast_one, Int.tdiv_neg, Int.tdiv_one] at hout
      simp only [Integer.least, Integer.greatest] at *
      omega
  · rintro ⟨ha, hb⟩
    rw [ha, hb]
    decide

/-! ## The operations -/

section

variable {op : BinaryOp} {m n k : ℤ}

/-- An integer overflows where 64 bits do not hold it. -/
theorem checked_eq_overflow_iff :
    checked k = .error .overflow ↔ k < Integer.least ∨ Integer.greatest < k := by
  rw [← Integer.ofInt?_eq_none_iff, checked]
  cases Integer.ofInt? k <;> simp

/-- The powers of `-1`, `0` and `1` from the first positive one on are two that take turns. -/
theorem pow_eq_pow_of_natAbs_le_one {exponent : ℕ} (hm : m.natAbs ≤ 1) (hpos : 0 < exponent) :
    m ^ (64 + exponent % 2) = m ^ exponent := by
  obtain rfl | rfl | rfl : m = -1 ∨ m = 0 ∨ m = 1 := by omega
  · rw [neg_one_pow_eq_pow_mod_two, neg_one_pow_eq_pow_mod_two exponent]
    congr 1
    omega
  · rw [zero_pow (by omega), zero_pow (by omega)]
  · rw [one_pow, one_pow]

/-- All other powers are beyond 64 bits from the 64th one on. -/
theorem checked_pow_eq_overflow {exponent : ℕ} (hm : ¬ m.natAbs ≤ 1) (hexponent : 64 ≤ exponent) :
    checked (m ^ exponent) = .error .overflow := by
  have hpow : 2 ^ 64 ≤ (m ^ exponent).natAbs := by
    rw [Int.natAbs_pow]
    exact (Nat.pow_le_pow_right (by decide) hexponent).trans (Nat.pow_le_pow_left (by omega) exponent)
  rw [checked_eq_overflow_iff]
  simp only [Integer.least, Integer.greatest]
  omega

/-- A power is the exact one, checked, but for those of `-1`, `0` and `1` whose exponent is beyond 32 bits.
-/
theorem integerPower_eq (hn : 0 ≤ n) : integerPower m n.toNat =
    if BinaryOp.pow.Overstates m n then .error .overflow else checked (m ^ n.toNat) := by
  have hoverstates : BinaryOp.pow.Overstates m n ↔ m.natAbs ≤ 1 ∧ UInt32.size ≤ n.toNat := by
    simp only [BinaryOp.Overstates, reduceCtorEq, false_and, false_or, true_and]
    omega
  simp only [hoverstates]
  unfold integerPower
  by_cases hsize : UInt32.size ≤ n.toNat
  · rw [if_pos hsize]
    split
    · rfl
    · next hnot =>
      have hexponent : 64 ≤ n.toNat := le_trans (show 64 ≤ UInt32.size by decide) hsize
      exact (checked_pow_eq_overflow (fun hone => hnot ⟨hone, hsize⟩) hexponent).symm
  · have hnot : ¬ (m.natAbs ≤ 1 ∧ UInt32.size ≤ n.toNat) := fun h => hsize h.2
    rw [if_neg hsize, if_neg hnot]
    split
    · rfl
    · next hexponent =>
      split
      · next hone => exact congrArg checked (pow_eq_pow_of_natAbs_le_one hone (by omega))
      · next hone => exact (checked_pow_eq_overflow hone (Nat.not_lt.1 hexponent)).symm

/-- An operation on two integers that has an integer result gives it where 64 bits hold it, and else an
overflow, but for the overflows that are none. -/
theorem integerOperation_eq {a b : Int64} (hop : op.Integral b.toInt)
    (hn : op.Divides → b.toInt ≠ 0) : integerOperation op a b =
      if op.Overstates a.toInt b.toInt then .error .overflow
      else checked (op.exact a.toInt b.toInt) := by
  cases op with
  | add | sub | mul => exact (if_neg (by simp [BinaryOp.Overstates])).symm
  | div => exact absurd rfl hop.1
  | floorDiv =>
    rw [if_neg (by simp [BinaryOp.Overstates]), integerOperation, floorDivide_eq, if_neg (hn (by decide)),
      fdiv_eq_floor]
    rfl
  | mod =>
    have hb : b.toInt ≠ 0 := hn (by decide)
    have hoverstates : BinaryOp.mod.Overstates a.toInt b.toInt ↔
        Integer.ofInt? (a.toInt.tdiv b.toInt) = none := by
      simp [BinaryOp.Overstates, ofInt?_tdiv_eq_none_iff hb]
    simp only [hoverstates, integerOperation, floorModulo_eq, if_neg hb, fmod_eq_sub_floor]
    cases Integer.ofInt? (a.toInt.tdiv b.toInt) <;> rfl
  | pow =>
    have hb : 0 ≤ b.toInt := hop.2 rfl
    simp only [integerOperation, if_neg (Int.not_lt.2 hb), integerPower_eq hb]
    rfl

/-- An exact result is given, or an overflow. -/
theorem ends_checked (hop : op.Integral n) (hn : op.Divides → n ≠ 0) :
    Ends op m n (checked (op.exact m n)) := by
  unfold checked
  split
  · next r hr => exact .exact hop hn (Integer.toInt_of_ofInt? hr)
  · exact .overflow hop hn

theorem ends_integerOperation (op : BinaryOp) (a b : Int64) :
    Ends op a.toInt b.toInt (integerOperation op a b) := by
  by_cases hzero : op.Divides ∧ b.toInt = 0
  · obtain ⟨hop, hb⟩ := hzero
    have hdivision : integerOperation op a b = .error .divisionByZero := by
      rcases hop with rfl | rfl | rfl
      · exact if_pos hb
      · rw [integerOperation, floorDivide_eq, if_pos hb]
      · rw [integerOperation, floorModulo_eq, if_pos hb]
    rw [hdivision]
    exact .divisionByZero hop hb
  have hn : op.Divides → b.toInt ≠ 0 := not_and.1 hzero
  by_cases hop : op.Integral b.toInt
  · rw [integerOperation_eq hop hn]
    split
    · exact .overflow hop hn
    · exact ends_checked hop hn
  · -- only `/` and negative powers leave the integers
    by_cases hdiv : op = .div
    · subst hdiv
      rw [integerOperation, if_neg (hn (by decide))]
      exact .float hop hn
    · obtain ⟨rfl, hb⟩ : op = .pow ∧ ¬ 0 ≤ b.toInt := by
        simpa [BinaryOp.Integral, hdiv] using hop
      rw [integerOperation, if_pos (Int.not_le.1 hb)]
      exact .float hop hn

end

/-! ## Evaluating operations -/

/-- The tree evaluates to an integer, or to a truth value in the place of zero or one. -/
inductive EvaluatesTo (x : Value) (node : Node) : ℤ → Prop where
  | integer {i : Int64} (h : node.eval x = .ok (.integer i)) : EvaluatesTo x node i.toInt
  | bool {b : Bool} (h : node.eval x = .ok (.bool b)) : EvaluatesTo x node (if b then 1 else 0)

/-- The outcome is the error with this message. -/
def Reports (outcome : Outcome Value) (message : String) : Prop :=
  ∃ e, outcome = .error e ∧ e.message = message

/-- The operations on two operands give nothing but exact integers, and so do the negative and the
magnitude of the first one. -/
structure ExactResults (x : Value) (left right : Node) (m n : ℤ) : Prop where
  exact : ∀ op r, (Node.binary op left right).eval x = .ok (.integer r) →
    op.Integral n ∧ r.toInt = op.exact m n
  remainder_sign : ∀ r, (Node.binary .mod left right).eval x = .ok (.integer r) →
    r.toInt = 0 ∨ r.toInt.sign = n.sign
  quotient_remainder : ∀ q r, (Node.binary .floorDiv left right).eval x = .ok (.integer q) →
    (Node.binary .mod left right).eval x = .ok (.integer r) → q.toInt * n + r.toInt = m
  negative : ∀ r, (Node.neg left).eval x = .ok (.integer r) → r.toInt = -m
  magnitude : ∀ r, (Node.call .abs [left]).eval x = .ok (.integer r) → r.toInt = |m|
  beyond_range : ∀ op, op.Integral n → (op.Divides → n ≠ 0) →
    op.exact m n < Integer.least ∨ Integer.greatest < op.exact m n →
    Reports ((Node.binary op left right).eval x) "integer overflow"
  division_by_zero : ∀ op, Reports ((Node.binary op left right).eval x) "division by zero" ↔
    op.Divides ∧ n = 0

section

variable {x : Value} {left right : Node} {m n : ℤ}

/-- An operand that is an integer counts as one, and so does a truth value. -/
theorem EvaluatesTo.exists_number (h : EvaluatesTo x left m) : ∃ (v : Value) (a : Int64),
    left.eval x = .ok v ∧ Number.ofValue? v = some (.integer a) ∧ a.toInt = m := by
  cases h with
  | @integer a h => exact ⟨_, a, h, rfl, rfl⟩
  | @bool b h => exact ⟨_, _, h, rfl, by cases b <;> rfl⟩

theorem binary_of_numbers (op : BinaryOp) {v w : Value} {a b : Number}
    (hv : Number.ofValue? v = some a) (hw : Number.ofValue? w = some b) :
    binary op v w = numberOperation op a b := by
  unfold binary
  split
  case h_6 => rw [hv, hw]
  case h_5 => cases hw
  all_goals cases hv

/-- Operands that evaluate to integers come to an operation on 64 bits. -/
theorem exists_integerOperation (op : BinaryOp) (hleft : EvaluatesTo x left m)
    (hright : EvaluatesTo x right n) : ∃ a b : Int64, a.toInt = m ∧ b.toInt = n ∧
      (Node.binary op left right).eval x = integerOperation op a b := by
  obtain ⟨v, a, hv, hnumber, ha⟩ := hleft.exists_number
  obtain ⟨w, b, hw, hnumber', hb⟩ := hright.exists_number
  refine ⟨a, b, ha, hb, ?_⟩
  rw [Node.eval, hv, hw]
  exact binary_of_numbers op hnumber hnumber'

/-- An operation whose operands evaluate to integers ends in one of its ways. -/
theorem ends_binary (op : BinaryOp) (hleft : EvaluatesTo x left m) (hright : EvaluatesTo x right n) :
    Ends op m n ((Node.binary op left right).eval x) := by
  obtain ⟨a, b, rfl, rfl, heval⟩ := exists_integerOperation op hleft hright
  rw [heval]
  exact ends_integerOperation op a b

/-- A result that is an integer is the exact one. -/
theorem Ends.exact_of_ok {op : BinaryOp} {r : Int64} (h : Ends op m n (.ok (.integer r))) :
    op.Integral n ∧ (op.Divides → n ≠ 0) ∧ r.toInt = op.exact m n := by
  cases h with
  | exact hop hn h => exact ⟨hop, hn, h⟩

/-- An operation whose exact result is beyond 64 bits reports it. -/
theorem Ends.reports_overflow {op : BinaryOp} {outcome : Outcome Value} (h : Ends op m n outcome)
    (hop : op.Integral n) (hn : op.Divides → n ≠ 0)
    (hrange : op.exact m n < Integer.least ∨ Integer.greatest < op.exact m n) :
    Reports outcome "integer overflow" := by
  cases h with
  | @exact r _ _ h =>
    rw [← h] at hrange
    have hleast := Integer.least_le r
    have hgreatest := Integer.le_greatest r
    omega
  | overflow => exact ⟨_, rfl, rfl⟩
  | divisionByZero hdivides hzero => exact absurd hzero (hn hdivides)
  | float hfloat => exact absurd hop hfloat

/-- Division by zero is reported where a zero divides. -/
theorem Ends.reports_division_by_zero_iff {op : BinaryOp} {outcome : Outcome Value}
    (h : Ends op m n outcome) : Reports outcome "division by zero" ↔ op.Divides ∧ n = 0 := by
  cases h with
  | exact _ hn | float _ hn =>
    refine iff_of_false ?_ fun hzero => hn hzero.1 hzero.2
    rintro ⟨e, he, -⟩
    cases he
  | overflow _ hn =>
    refine iff_of_false ?_ fun hzero => hn hzero.1 hzero.2
    rintro ⟨e, he, hmessage⟩
    cases he
    exact absurd hmessage (by decide)
  | divisionByZero hop hn => exact iff_of_true ⟨_, rfl, rfl⟩ ⟨hop, hn⟩

/-- A checked integer that is given is the one that was checked. -/
theorem toInt_of_checked {k : ℤ} {r : Int64} (h : checked k = .ok (.integer r)) : r.toInt = k := by
  unfold checked at h
  split at h
  · next i hi =>
    cases h
    exact Integer.toInt_of_ofInt? hi
  · cases h

/-- A remainder that goes with a rounded-down quotient lies between zero and the divisor. -/
theorem sign_fmod (m : ℤ) (hn : n ≠ 0) : m.fmod n = 0 ∨ (m.fmod n).sign = n.sign := by
  rcases lt_or_gt_of_ne hn with hneg | hpos
  · -- with both signs turned around the divisor is positive
    have hle := Int.fmod_nonneg_of_pos (-m) (Int.neg_pos_of_neg hneg)
    rw [Int.neg_fmod_neg] at hle
    rcases eq_or_lt_of_le (Int.nonpos_of_neg_nonneg hle) with hzero | hlt
    · exact .inl hzero
    · exact .inr (by rw [Int.sign_eq_neg_one_of_neg hlt, Int.sign_eq_neg_one_of_neg hneg])
  · rcases eq_or_lt_of_le (Int.fmod_nonneg_of_pos m hpos) with hzero | hlt
    · exact .inl hzero.symm
    · exact .inr (by rw [Int.sign_eq_one_of_pos hlt, Int.sign_eq_one_of_pos hpos])

/-- **Exact integers.** With operands that are integers or truth values, every integer result is the exact
one, a result beyond 64 bits is reported as an overflow, and a division by zero wherever there is one. -/
theorem integer_results_exact (hleft : EvaluatesTo x left m) (hright : EvaluatesTo x right n) :
    ExactResults x left right m n where
  exact op r h := by
    obtain ⟨hop, -, hr⟩ := (h ▸ ends_binary op hleft hright).exact_of_ok
    exact ⟨hop, hr⟩
  remainder_sign r h := by
    obtain ⟨-, hn, hr⟩ := (h ▸ ends_binary .mod hleft hright).exact_of_ok
    rw [hr, BinaryOp.exact, ← fmod_eq_sub_floor]
    exact sign_fmod m (hn (by decide))
  quotient_remainder q r hq hr := by
    obtain ⟨-, -, hq⟩ := (hq ▸ ends_binary .floorDiv hleft hright).exact_of_ok
    obtain ⟨-, -, hr⟩ := (hr ▸ ends_binary .mod hleft hright).exact_of_ok
    rw [hq, hr, BinaryOp.exact, BinaryOp.exact]
    ring
  negative r h := by
    cases hleft with
    | integer hl =>
      rw [Node.eval, hl] at h
      exact toInt_of_checked h
    | bool hl =>
      rw [Node.eval, hl] at h
      cases h
  magnitude r h := by
    cases hleft with
    | integer hl =>
      rw [Node.eval, evalAll, hl] at h
      rw [Int.abs_eq_natAbs]
      exact toInt_of_checked h
    | bool hl =>
      rw [Node.eval, evalAll, hl] at h
      cases h
  beyond_range op hop hn hrange := (ends_binary op hleft hright).reports_overflow hop hn hrange
  division_by_zero op := (ends_binary op hleft hright).reports_division_by_zero_iff

/-- The least integer divided by three leaves something, and its quotient is corrected downwards. -/
theorem integer_results_least :
    (EvaluatesTo (.integer Int64.minValue) .var Integer.least ∧
      EvaluatesTo (.integer Int64.minValue) (.literal (.integer 3)) 3) ∧
    ((Node.binary .floorDiv .var (.literal (.integer 3))).eval (.integer Int64.minValue) =
        .ok (.integer (-3074457345618258603)) ∧
      (Node.binary .mod .var (.literal (.integer 3))).eval (.integer Int64.minValue) =
        .ok (.integer 1)) ∧
    ExactResults (.integer Int64.minValue) .var (.literal (.integer 3)) Integer.least 3 := by
  have hleft : EvaluatesTo (.integer Int64.minValue) .var Int64.minValue.toInt := .integer rfl
  have hright : EvaluatesTo (.integer Int64.minValue) (.literal (.integer 3)) (3 : Int64).toInt :=
    .integer rfl
  exact ⟨⟨hleft, hright⟩, ⟨rfl, rfl⟩, integer_results_exact hleft hright⟩

end

end LayeredConfig.Expr
