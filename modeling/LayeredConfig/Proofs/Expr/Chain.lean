import LayeredConfig.Expr.Eval

/-!
# Chains of comparisons

A chain evaluates an operand once and hands its value on to the next link. The comparisons of neighbours
evaluate the operands between them twice. Joined with `and` they come to the same: both stop at the first
link that does not hold, and at the first operand or comparison that fails.
-/

namespace LayeredConfig.Expr

/-- The comparisons of each operand with the next. -/
def comparisons (left : Node) : List (CompareOp × Node) → List Node
  | [] => []
  | (op, right) :: links => .compare left [(op, right)] :: comparisons right links

/-- The trees with `and` between them, combined from left to right. -/
def conjunction (first : Node) (rest : List Node) : Node := rest.foldl .and first

variable (x : Value)

/-- `and` is associative, in its values and in its errors. -/
theorem eval_and_assoc (a b c : Node) :
    (Node.and a (.and b c)).eval x = (Node.and (.and a b) c).eval x := by
  simp only [Node.eval]
  cases a.eval x with
  | error e => rfl
  | ok v => cases hv : v.isTruthy <;> simp [hv]

/-- The outcome of `and` depends on those of its operands only. -/
theorem eval_and_congr {a a' b b' : Node} (ha : a.eval x = a'.eval x) (hb : b.eval x = b'.eval x) :
    (Node.and a b).eval x = (Node.and a' b').eval x := by
  simp only [Node.eval, ha, hb]

/-- The outcome of a conjunction depends on that of its first operand only, the rest being the same. -/
theorem eval_conjunction_congr {a a' : Node} (h : a.eval x = a'.eval x) (rest : List Node) :
    (conjunction a rest).eval x = (conjunction a' rest).eval x := by
  induction rest generalizing a a' with
  | nil => exact h
  | cons b rest ih => exact ih (eval_and_congr x h rfl)

/-- What is joined from the left may be taken out in front. -/
theorem eval_conjunction_cons (a b : Node) (rest : List Node) :
    (conjunction a (b :: rest)).eval x = (Node.and a (conjunction b rest)).eval x := by
  induction rest generalizing b with
  | nil => rfl
  | cons c rest ih =>
    calc (conjunction a (b :: c :: rest)).eval x
      _ = (conjunction a (.and b c :: rest)).eval x :=
          eval_conjunction_congr x (eval_and_assoc x a b c).symm rest
      _ = (Node.and a (conjunction b (c :: rest))).eval x := ih (.and b c)

/-- The rest of a chain is a chain of its own, and evaluated if the first link holds. -/
theorem eval_compare_cons (left right : Node) (op : CompareOp) (links : List (CompareOp × Node)) :
    (Node.compare left ((op, right) :: links)).eval x =
      (Node.and (.compare left [(op, right)]) (.compare right links)).eval x := by
  simp only [Node.eval, evalLinks]
  cases left.eval x with
  | error e => rfl
  | ok a =>
    cases right.eval x with
    | error e => rfl
    | ok b =>
      dsimp only
      cases holds op a b with
      | error e => rfl
      | ok yes => cases yes <;> rfl

/-- **Chains are conjunctions.** A chain of comparisons has the value, or the error, of its links joined with
`and`. -/
theorem eval_chain (first second : Node) (op : CompareOp) (links : List (CompareOp × Node)) :
    (Node.compare first ((op, second) :: links)).eval x =
      (conjunction (.compare first [(op, second)]) (comparisons second links)).eval x := by
  induction links generalizing first op second with
  | nil => rfl
  | cons link links ih =>
    obtain ⟨op', third⟩ := link
    calc (Node.compare first ((op, second) :: (op', third) :: links)).eval x
      _ = (Node.and (.compare first [(op, second)]) (.compare second ((op', third) :: links))).eval x :=
          eval_compare_cons x first second op _
      _ = (Node.and (.compare first [(op, second)])
            (conjunction (.compare second [(op', third)]) (comparisons third links))).eval x :=
          eval_and_congr x rfl (ih second third op')
      _ = _ := (eval_conjunction_cons x _ _ _).symm

end LayeredConfig.Expr
