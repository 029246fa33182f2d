import LayeredConfig.Expr.Eval
import LayeredConfig.Proofs.Binary64.Rounding

/-!
# The order of numbers

Two integers are compared exactly and any other two numbers as floats, so that an integer has two places in
the order: its own, and that of the float nearest to it. The one never contradicts the other
(`Number.order_of_rank_lt`), but integers apart may have the same nearest float. Every two numbers are in
order, and `<` is transitive; `==` and `<=` are not where a float stands between two such integers.
-/

namespace LayeredConfig.Expr

/-! ## Numbers by rank -/

namespace Number

/-- The number of the nearest float, in order. -/
def rank (n : Number) : Int := Binary64.rank n.toFloat

/-- The order of two numbers, none of which is the float that is no number. -/
def order : Number → Number → Ordering
  | integer i, integer j => compare i.toInt j.toInt
  | m, n => compare m.rank n.rank

variable {m n k : Number}

/-- Two numbers are both integers, or they are compared by rank. -/
theorem order_cases (m n : Number) :
    (∃ i j, m = integer i ∧ n = integer j) ∨ m.order n = compare m.rank n.rank := by
  cases m with
  | integer i =>
    cases n with
    | integer j => exact .inl ⟨i, j, rfl, rfl⟩
    | float y => exact .inr rfl
  | float x => exact .inr rfl

theorem swap_order (m n : Number) : (m.order n).swap = n.order m := by
  cases m <;> cases n <;> exact Std.OrientedOrd.eq_swap.symm

/-- Numbers whose nearest floats are in order are themselves in order. -/
theorem order_of_rank_lt (h : m.rank < n.rank) : m.order n = .lt := by
  rcases order_cases m n with ⟨i, j, rfl, rfl⟩ | horder
  · refine compare_lt_iff_lt.2 (Int.not_le.1 fun hle => ?_)
    exact (Binary64.rank_ofInt_mono hle).not_gt h
  · rw [horder, compare_lt_iff_lt]
    exact h

/-- Numbers in order have nearest floats that are not out of order. -/
theorem rank_le_of_order (h : m.order n ≠ .gt) : m.rank ≤ n.rank := by
  refine Int.not_lt.1 fun hlt => h ?_
  rw [← swap_order, order_of_rank_lt hlt]
  rfl

theorem rank_eq_of_order (h : m.order n = .eq) : m.rank = n.rank := by
  refine le_antisymm (rank_le_of_order (by rw [h]; nofun)) (rank_le_of_order ?_)
  rw [← swap_order, h]
  nofun

/-- Only integers can be in an order that their nearest floats do not show. -/
theorem integers_of_order_lt (h : m.order n = .lt) (hrank : n.rank ≤ m.rank) :
    ∃ i j, m = integer i ∧ n = integer j := by
  refine (order_cases m n).resolve_right fun horder => ?_
  rw [horder, compare_lt_iff_lt] at h
  exact hrank.not_gt h

/-- Less than less is less. -/
theorem order_lt_trans (hmn : m.order n = .lt) (hnk : n.order k = .lt) : m.order k = .lt := by
  have hm := rank_le_of_order (m := m) (n := n) (by rw [hmn]; nofun)
  have hn := rank_le_of_order (m := n) (n := k) (by rw [hnk]; nofun)
  rcases Int.lt_or_le m.rank k.rank with h | h
  · exact order_of_rank_lt h
  · -- no rank tells the three apart, so they are integers
    obtain ⟨i, j, rfl, rfl⟩ := integers_of_order_lt hmn (by omega)
    obtain ⟨_, l, -, rfl⟩ := integers_of_order_lt hnk (by omega)
    exact compare_lt_iff_lt.2 ((compare_lt_iff_lt.1 hmn).trans (compare_lt_iff_lt.1 hnk))

/-- The second number is a float that is equal to both of the others, which are different integers. -/
structure Blurs (n m k : Number) : Prop where
  float : ∃ x, n = float x
  integers : ∃ i j, m = integer i ∧ k = integer j ∧ i ≠ j
  left : m.order n = .eq
  right : n.order k = .eq

/-- The integers that a float blurs are not equal. -/
theorem order_ne_eq_of_blurs (h : Blurs n m k) : m.order k ≠ .eq := by
  obtain ⟨i, j, rfl, rfl, hne⟩ := h.integers
  exact fun heq => hne (Int64.toInt_inj.1 (compare_eq_iff_eq.1 heq))

/-- Equality goes on over a middle number that blurs nothing. -/
theorem order_eq_trans (hmn : m.order n = .eq) (hnk : n.order k = .eq) (hclear : ¬ Blurs n m k) :
    m.order k = .eq := by
  have hrank := (rank_eq_of_order hmn).trans (rank_eq_of_order hnk)
  rcases order_cases m k with ⟨i, j, rfl, rfl⟩ | horder
  · cases n with
    | integer l =>
      exact compare_eq_iff_eq.2 ((compare_eq_iff_eq.1 hmn).trans (compare_eq_iff_eq.1 hnk))
    | float x =>
      by_contra hne
      refine hclear ⟨⟨x, rfl⟩, ⟨i, j, rfl, rfl, ?_⟩, hmn, hnk⟩
      rintro rfl
      exact hne (compare_eq_iff_eq.2 rfl)
  · rwa [horder, compare_eq_iff_eq]

/-- In order one by one, the first and the last are in order unless they are integers blurred into one. -/
theorem order_le_trans (hmn : m.order n ≠ .gt) (hnk : n.order k ≠ .gt)
    (hclear : Blurs n m k → k.order m ≠ .lt) : m.order k ≠ .gt := by
  intro hgt
  have hlt : k.order m = .lt := by rw [← swap_order, hgt, Ordering.swap]
  have hm := rank_le_of_order hmn
  have hn := rank_le_of_order hnk
  have hk := rank_le_of_order (m := k) (n := m) (by rw [hlt]; nofun)
  -- the ranks go round in a circle, so they are equal, and only integers can still be in order
  obtain ⟨j, i, rfl, rfl⟩ := integers_of_order_lt hlt (by omega)
  have hji : j.toInt < i.toInt := compare_lt_iff_lt.1 hlt
  cases n with
  | integer l =>
    have hil : i.toInt ≤ l.toInt := compare_le_iff_le.1 hmn
    have hlj : l.toInt ≤ j.toInt := compare_le_iff_le.1 hnk
    omega
  | float x =>
    refine hclear ⟨⟨x, rfl⟩, ⟨i, j, rfl, rfl, ?_⟩, ?_, ?_⟩ hlt
    · rintro rfl
      omega
    · exact compare_eq_iff_eq.2 (by omega)
    · exact compare_eq_iff_eq.2 (by omega)

/-- The order that the evaluator finds is the one by rank, unless one of the numbers is none. -/
theorem numberOrder?_eq (hm : m.toFloat.isNaN = false) (hn : n.toFloat.isNaN = false) :
    numberOrder? m n = some (m.order n) := by
  cases m with
  | integer i =>
    cases n with
    | integer j =>
      rw [numberOrder?, order]
      rcases lt_trichotomy i.toInt j.toInt with h | h | h
      · rw [if_pos h, compare_lt_iff_lt.2 h]
      · rw [if_neg h.not_lt, if_pos h, compare_eq_iff_eq.2 h]
      · rw [if_neg h.not_gt, if_neg h.ne', compare_gt_iff_gt.2 h]
    | float y => exact Binary64.compare?_eq hm hn
  | float x => exact Binary64.compare?_eq hm hn

end Number

/-! ## Values that are numbers -/

/-- An integer, a truth value, or a float that is a number. -/
inductive Numeric : Value → Prop where
  | integer (i : Int64) : Numeric (.integer i)
  | bool (b : Bool) : Numeric (.bool b)
  | float {x : Float} (h : x.isNaN = false) : Numeric (.float x)

/-- The value stands for the number, which is not the float that is none. -/
structure StandsFor (v : Value) (n : Number) : Prop where
  number : Number.ofValue? v = some n
  ordered : n.toFloat.isNaN = false

/-- Every numeric value stands for a number. -/
theorem Numeric.standsFor {v : Value} (h : Numeric v) : ∃ n, StandsFor v n := by
  cases h with
  | integer i => exact ⟨.integer i, rfl, Binary64.isNaN_ofInt i.toInt⟩
  | bool b => exact ⟨_, rfl, Binary64.isNaN_ofInt (if b then (1 : Int64) else 0).toInt⟩
  | float hx => exact ⟨.float _, rfl, hx⟩

section

variable {a b c : Value} {m n k : Number}

/-- Values that stand for numbers are ordered as these are. -/
theorem order_of_standsFor (ha : StandsFor a m) (hb : StandsFor b n) : order a b = .ok (m.order n) := by
  have horder : order? a b = some (m.order n) := by
    unfold order?
    split
    · cases ha.number
    · rw [ha.number, hb.number]
      exact Number.numberOrder?_eq ha.ordered hb.ordered
  rw [order, horder]

/-- Values that stand for numbers are equal as these are. -/
theorem equal_of_standsFor (ha : StandsFor a m) (hb : StandsFor b n) : equal a b = (m.order n == .eq) := by
  have hbeq := Binary64.beq_iff ha.ordered hb.ordered
  rw [equal, ha.number, hb.number, Bool.eq_iff_iff, beq_iff_eq]
  cases m with
  | integer i =>
    cases n with
    | integer j =>
      refine beq_iff_eq.trans (Int64.toInt_inj.symm.trans compare_eq_iff_eq.symm)
    | float y => exact hbeq.trans compare_eq_iff_eq.symm
  | float x => exact hbeq.trans compare_eq_iff_eq.symm

/-- The answer to a comparison of two values, wherever they come from. -/
def Answers (op : CompareOp) (a b : Value) (answer : Bool) : Prop :=
  ∀ (x : Value) (left right : Node), left.eval x = .ok a → right.eval x = .ok b →
    (Node.compare left [(op, right)]).eval x = .ok (.bool answer)

/-- A comparison answers as its operator decides on the two values, whichever trees they come from. -/
theorem answers_iff {op : CompareOp} {answer : Bool} :
    Answers op a b answer ↔ holds op a b = .ok answer := by
  constructor
  · intro h
    have hliteral := h .null (.literal a) (.literal b) rfl rfl
    simp only [Node.eval, evalLinks] at hliteral
    cases hholds : holds op a b with
    | error e =>
      rw [hholds] at hliteral
      cases hliteral
    | ok yes =>
      rw [hholds] at hliteral
      cases yes <;> cases hliteral <;> rfl
  · intro h x left right hleft hright
    simp only [Node.eval, evalLinks, hleft, hright, h]
    cases answer <;> rfl

/-! ## The order of values -/

/-- An operator that tests the order of two values answers with the test on their numbers. -/
theorem answers_order_iff {op : CompareOp} {test : Ordering → Bool} {answer : Bool}
    (hop : holds op a b = (order a b).map test) (ha : StandsFor a m) (hb : StandsFor b n) :
    Answers op a b answer ↔ test (m.order n) = answer := by
  rw [answers_iff, hop, order_of_standsFor ha hb, Except.map, Except.ok.injEq]

theorem answers_lt_iff (ha : StandsFor a m) (hb : StandsFor b n) :
    Answers .lt a b true ↔ m.order n = .lt :=
  (answers_order_iff rfl ha hb).trans beq_iff_eq

theorem answers_le_iff (ha : StandsFor a m) (hb : StandsFor b n) :
    Answers .le a b true ↔ m.order n ≠ .gt :=
  (answers_order_iff rfl ha hb).trans bne_iff_ne

theorem answers_eq (ha : StandsFor a m) (hb : StandsFor b n) : Answers .eq a b (m.order n == .eq) := by
  rw [answers_iff, holds, equal_of_standsFor ha hb]

theorem answers_eq_iff (ha : StandsFor a m) (hb : StandsFor b n) :
    Answers .eq a b true ↔ m.order n = .eq := by
  rw [answers_iff, holds, equal_of_standsFor ha hb, Except.ok.injEq, beq_iff_eq]

/-- The second value is a float that is equal to both of the others, which are different integers or
truth values. -/
structure Blurs (b a c : Value) : Prop where
  float : ∃ x, b = .float x
  integers : ∃ i j, Number.ofValue? a = some (.integer i) ∧ Number.ofValue? c = some (.integer j) ∧
    i ≠ j
  left : Answers .eq a b true
  right : Answers .eq b c true

theorem eq_float_of_standsFor {x : Float} (hb : StandsFor b (.float x)) : b = .float x := by
  have h := hb.number
  cases b <;> cases h
  rfl

/-- A value blurs two others where its number blurs theirs. -/
theorem blurs_iff (ha : StandsFor a m) (hb : StandsFor b n) (hc : StandsFor c k) :
    Blurs b a c ↔ Number.Blurs n m k := by
  constructor
  · rintro ⟨⟨x, rfl⟩, ⟨i, j, hi, hj, hne⟩, hab, hbc⟩
    cases hb.number
    cases ha.number.symm.trans hi
    cases hc.number.symm.trans hj
    exact ⟨⟨x, rfl⟩, ⟨i, j, rfl, rfl, hne⟩, (answers_eq_iff ha hb).1 hab, (answers_eq_iff hb hc).1 hbc⟩
  · rintro ⟨⟨x, rfl⟩, ⟨i, j, rfl, rfl, hne⟩, hab, hbc⟩
    exact ⟨⟨x, eq_float_of_standsFor hb⟩, ⟨i, j, ha.number, hc.number, hne⟩,
      (answers_eq_iff ha hb).2 hab, (answers_eq_iff hb hc).2 hbc⟩

/-- How three values are ordered. -/
structure Ordered (a b c : Value) : Prop where
  total : ∃ o : Ordering, Answers .lt a b (o == .lt) ∧ Answers .eq a b (o == .eq) ∧
    Answers .gt a b (o == .gt) ∧ Answers .le a b (o != .gt)
  lt_trans : Answers .lt a b true → Answers .lt b c true → Answers .lt a c true
  eq_trans : Answers .eq a b true → Answers .eq b c true → (Answers .eq a c true ↔ ¬ Blurs b a c)
  le_trans : Answers .le a b true → Answers .le b c true →
    (Answers .le a c true ↔ ¬ (Blurs b a c ∧ Answers .lt c a true))

/-- Two numbers are in exactly one of the orders, and `<` is transitive. So are `==` and `<=`, but for a
float in the middle that is the nearest one to different integers. -/
theorem ordered_of_numeric (ha : Numeric a) (hb : Numeric b) (hc : Numeric c) : Ordered a b c := by
  obtain ⟨m, ha⟩ := ha.standsFor
  obtain ⟨n, hb⟩ := hb.standsFor
  obtain ⟨k, hc⟩ := hc.standsFor
  refine ⟨⟨m.order n, ?_, answers_eq ha hb, ?_, ?_⟩, fun hab hbc => ?_, fun hab hbc => ?_,
    fun hab hbc => ?_⟩
  · exact (answers_order_iff rfl ha hb).2 rfl
  · exact (answers_order_iff rfl ha hb).2 rfl
  · exact (answers_order_iff rfl ha hb).2 rfl
  · rw [answers_lt_iff ha hb] at hab
    rw [answers_lt_iff hb hc] at hbc
    exact (answers_lt_iff ha hc).2 (Number.order_lt_trans hab hbc)
  · rw [answers_eq_iff ha hc, blurs_iff ha hb hc]
    rw [answers_eq_iff ha hb] at hab
    rw [answers_eq_iff hb hc] at hbc
    exact ⟨fun heq hblurs => Number.order_ne_eq_of_blurs hblurs heq, Number.order_eq_trans hab hbc⟩
  · rw [answers_le_iff ha hc, blurs_iff ha hb hc, answers_lt_iff hc ha, not_and]
    rw [answers_le_iff ha hb] at hab
    rw [answers_le_iff hb hc] at hbc
    refine ⟨fun hle _ hlt => hle ?_, Number.order_le_trans hab hbc⟩
    rw [← Number.swap_order, hlt, Ordering.swap]

/-- `2 ^ 53`, the float of that value and `2 ^ 53 + 1` are ordered in this way, with the exception. -/
theorem ordered_twoPow53 :
    (Numeric (.integer 0x20000000000000) ∧ Numeric (.float (Float.ofBits 0x4340000000000000)) ∧
      Numeric (.integer 0x20000000000001)) ∧
    Ordered (.integer 0x20000000000000) (.float (Float.ofBits 0x4340000000000000))
      (.integer 0x20000000000001) :=
  ⟨⟨.integer _, .float (by decide), .integer _⟩,
    ordered_of_numeric (.integer _) (.float (by decide)) (.integer _)⟩

/-- The float `2 ^ 53` is equal to the integers `2 ^ 53` and `2 ^ 53 + 1`. -/
theorem equal_not_transitive :
    ∃ a b c, Numeric a ∧ Numeric b ∧ Numeric c ∧ Answers .eq a b true ∧ Answers .eq b c true ∧
      ¬ Answers .eq a c true ∧ Answers .le c b true ∧ Answers .le b a true ∧ ¬ Answers .le c a true := by
  have ha : StandsFor (.integer 0x20000000000000) (.integer 0x20000000000000) :=
    ⟨rfl, Binary64.isNaN_ofInt _⟩
  have hx : (Float.ofBits 0x4340000000000000).isNaN = false := by decide
  have hb : StandsFor (.float (Float.ofBits 0x4340000000000000)) (.float (Float.ofBits 0x4340000000000000)) :=
    ⟨rfl, hx⟩
  have hc : StandsFor (.integer 0x20000000000001) (.integer 0x20000000000001) :=
    ⟨rfl, Binary64.isNaN_ofInt _⟩
  refine ⟨_, _, _, .integer 0x20000000000000, .float hx, .integer 0x20000000000001, ?_⟩
  rw [answers_eq_iff ha hb, answers_eq_iff hb hc, answers_eq_iff ha hc, answers_le_iff hc hb,
    answers_le_iff hb ha, answers_le_iff hc ha]
  decide

end

end LayeredConfig.Expr
