import LayeredConfig.Expr.Eval
import LayeredConfig.Proofs.Expr.Arithmetic
import LayeredConfig.Proofs.Expr.Parser

/-!
# Evaluation meets no fault

The parser lets only calls through whose number of arguments their function accepts
(`Derives.callsAccepted`). Every operation of the evaluator is then applied where it is defined: each has
a lemma that it gives no fault, and `Node.eval_faultFree` carries them through the tree.
-/

namespace LayeredConfig.Expr

/-! ## Trees of the parser -/

mutual

/-- Every call in the tree has a number of arguments that its function accepts. -/
def Node.CallsAccepted : Node → Prop
  | .literal _ | .var => True
  | .list items => AllCallsAccepted items
  | .neg operand => operand.CallsAccepted
  | .not operand => operand.CallsAccepted
  | .binary _ left right => left.CallsAccepted ∧ right.CallsAccepted
  | .compare first rest => first.CallsAccepted ∧ LinkCallsAccepted rest
  | .and left right => left.CallsAccepted ∧ right.CallsAccepted
  | .or left right => left.CallsAccepted ∧ right.CallsAccepted
  | .index target index => target.CallsAccepted ∧ index.CallsAccepted
  | .call function arguments =>
    function.accepts arguments.length = true ∧ AllCallsAccepted arguments

/-- Every call in the trees has a number of arguments that its function accepts. -/
def AllCallsAccepted : List Node → Prop
  | [] => True
  | node :: nodes => node.CallsAccepted ∧ AllCallsAccepted nodes

/-- Every call in the links has a number of arguments that its function accepts. -/
def LinkCallsAccepted : List (CompareOp × Node) → Prop
  | [] => True
  | (_, node) :: links => node.CallsAccepted ∧ LinkCallsAccepted links

end

/-- An operator between two trees adds no call. -/
theorem Joins.callsAccepted {p : Phrase} {token : Token} {build : Node → Node → Node}
    (h : Joins p token build) {a b : Node} (ha : a.CallsAccepted) (hb : b.CallsAccepted) :
    (build a b).CallsAccepted := by
  cases h <;> exact ⟨ha, hb⟩

/-- In a tree of the grammar all calls are accepted. -/
theorem Derives.callsAccepted {n : Nat} {p : Phrase} {ts : List Token} {t : Node}
    (h : Derives n p ts t) : t.CallsAccepted := by
  induction h using @Derives.rec _ (fun _ _ links _ => LinkCallsAccepted links)
    (fun _ _ items _ => AllCallsAccepted items) with
  | single _ _ ih | not _ ih | negative _ ih | positive _ ih | group _ ih | list _ ih => exact ih
  | join _ hjoin _ _ iha ihb => exact hjoin.callsAccepted iha ihb
  | comparison _ _ ih ihlinks | power _ _ ih ihlinks | index _ _ ih ihlinks => exact ⟨ih, ihlinks⟩
  | stands h => cases h <;> trivial
  | call f haccepts _ ih => exact ⟨haccepts, ih⟩
  | done | nil => trivial
  | link _ _ _ ih ihlinks => exact ⟨ih, ihlinks⟩
  | last _ ih => exact ⟨ih, trivial⟩
  | cons _ _ ih ihitems => exact ⟨ih, ihitems⟩

/-! ## Operations -/

variable {α β : Type}

/-- Whether an error is a fault. -/
def EvalError.isFault : EvalError → Bool
  | fault _ => true
  | _ => false

/-- The outcome is no fault. -/
def FaultFree : Outcome α → Prop
  | .ok _ => True
  | .error e => e.isFault = false

/-- Such an outcome is not the fault of any partial operation. -/
theorem FaultFree.ne_fault {o : Outcome α} (h : FaultFree o) (cause : Fault) :
    o ≠ .error (.fault cause) := by
  rintro rfl
  cases h

theorem FaultFree.map {o : Outcome α} (h : FaultFree o) (f : α → β) : FaultFree (o.map f) := by
  cases o with
  | ok a => trivial
  | error e => exact h

/-- An error that is passed on is no fault if it was none. -/
theorem FaultFree.error {o : Outcome α} (h : FaultFree o) {e : EvalError} (he : o = .error e) :
    FaultFree (.error e : Outcome β) := by
  subst he
  exact h

theorem faultFree_checked (n : Int) : FaultFree (checked n) := by
  unfold checked
  split <;> trivial

theorem faultFree_integerPower (base : Int) (exponent : Nat) :
    FaultFree (integerPower base exponent) := by
  unfold integerPower
  split
  · trivial
  · split
    · exact faultFree_checked _
    · split
      · exact faultFree_checked _
      · trivial

/-- The quotient is less by one only where that is still in the range. -/
theorem faultFree_floorDivide (a b : Int64) : FaultFree ((floorDivide a b).map Value.integer) := by
  rw [floorDivide_eq]
  split
  · trivial
  · exact faultFree_checked _

/-- The divisor is added only to a remainder of the other sign. -/
theorem faultFree_floorModulo (a b : Int64) : FaultFree ((floorModulo a b).map Value.integer) := by
  rw [floorModulo_eq]
  split
  · trivial
  · split
    · exact faultFree_checked _
    · trivial

/-- An operation on integers is no fault: wherever it divides, the divisor has been found not to be zero. -/
theorem faultFree_integerOperation (op : BinaryOp) (a b : Int64) :
    FaultFree (integerOperation op a b) := by
  cases op with
  | add | sub | mul => exact faultFree_checked _
  | div => simp only [integerOperation]; split <;> trivial
  | floorDiv => exact faultFree_floorDivide a b
  | mod => exact faultFree_floorModulo a b
  | pow =>
    simp only [integerOperation]
    split
    · trivial
    · exact faultFree_integerPower _ _

theorem faultFree_floatOperation (op : BinaryOp) (a b : Float) :
    FaultFree (floatOperation op a b) := by
  cases op <;> simp only [floatOperation]
  all_goals first | trivial | (split <;> trivial)

theorem faultFree_numberOperation (op : BinaryOp) (a b : Number) :
    FaultFree (numberOperation op a b) := by
  unfold numberOperation
  split
  · exact faultFree_integerOperation op _ _
  · exact faultFree_floatOperation op _ _

/-- Repeating a string is no fault: its length is checked before any copy is made. -/
theorem faultFree_repeated (s : String) (count : Int64) : FaultFree (repeated s count) := by
  unfold repeated
  simp only
  split
  · trivial
  · split <;> trivial

theorem faultFree_binary (op : BinaryOp) (left right : Value) :
    FaultFree (binary op left right) := by
  unfold binary
  split
  case h_4 | h_5 => exact faultFree_repeated _ _
  case h_6 =>
    split
    · exact faultFree_numberOperation _ _ _
    · trivial
  all_goals trivial

theorem faultFree_negate (v : Value) : FaultFree (negate v) := by
  unfold negate
  split
  · exact faultFree_checked _
  all_goals trivial

theorem faultFree_order (left right : Value) : FaultFree (order left right) := by
  unfold order
  split <;> trivial

theorem faultFree_contains (container item : Value) : FaultFree (contains container item) := by
  unfold contains
  split <;> trivial

theorem faultFree_holds (op : CompareOp) (left right : Value) : FaultFree (holds op left right) := by
  cases op with
  | eq | ne => trivial
  | lt | le | gt | ge => exact (faultFree_order left right).map _
  | isIn => exact faultFree_contains right left
  | notIn => exact (faultFree_contains right left).map _

/-! ## Places -/

/-- The place of a position is computed without a fault: a negative index and a length lie on both
sides of zero, so their sum is in the range. -/
theorem position_eq (index : Int64) (length : Nat) :
    position index length =
      if Integer.greatest < length then .error .overflow
      else if 0 ≤ index.toInt ∧ index.toInt < length then .ok index.toInt.toNat
      else if index.toInt < 0 ∧ 0 ≤ index.toInt + length then .ok (index.toInt + length).toNat
      else .error (.indexOutOfRange index) := by
  cases hlength : Integer.ofInt? length with
  | none =>
    have hlarge : Integer.greatest < length := by
      rw [Integer.ofInt?_eq_none_iff] at hlength
      simp only [Integer.least] at hlength
      omega
    simp [position, hlength, hlarge]
  | some n =>
    have hn := Integer.toInt_of_ofInt? hlength
    have hle := Integer.le_greatest n
    rw [hn] at hle
    simp only [position, hlength, hn, Int.not_lt.2 hle, if_false]
    rcases Int.lt_or_le index.toInt 0 with hneg | hpos
    · -- a negative index and a length differ in sign, so 64 bits hold their sum
      have hmem := @Integer.add_mem_of_signs index n (by omega)
      rw [hn] at hmem
      have hsum : unchecked .sum (index.toInt + length) =
          .ok (Int64.ofInt (index.toInt + length)) :=
        unchecked_of_mem hmem.1 hmem.2
      have hvalue : (Int64.ofInt (index.toInt + length)).toInt = index.toInt + length :=
        Integer.toInt_of_ofInt? (Integer.ofInt?_of_mem hmem.1 hmem.2)
      simp only [hneg, if_true, hsum, hvalue]
      grind
    · simp only [Int.not_lt.2 hpos, if_false]
      grind

theorem faultFree_position (index : Int64) (length : Nat) : FaultFree (position index length) := by
  rw [position_eq]
  repeat' split
  all_goals trivial

/-- A place is below the length that it was computed for. -/
theorem position_lt {index : Int64} {length place : Nat} (h : position index length = .ok place) :
    place < length := by
  rw [position_eq] at h
  split at h
  · cases h
  · split at h
    · cases h
      omega
    · split at h
      · cases h
        omega
      · cases h

/-- The item at a place is there. -/
theorem faultFree_itemAt (items : List α) (index : Int64) : FaultFree (itemAt items index) := by
  unfold itemAt
  split
  · next e he => exact (faultFree_position index items.length).error he
  · next place hplace =>
    rw [List.getElem?_eq_getElem (position_lt hplace)]
    trivial

/-- Taking an item is no fault: the place has been found to be one. -/
theorem faultFree_indexed (target index : Value) : FaultFree (indexed target index) := by
  unfold indexed
  split
  · split <;> trivial
  · exact faultFree_itemAt _ _
  · exact (faultFree_itemAt _ _).map _
  · trivial

/-! ## Calls -/

theorem faultFree_integral (x : Float) : FaultFree (integral x) := by
  unfold integral
  split
  · split <;> trivial
  · trivial

theorem faultFree_applyOne (function : Builtin) (argument : Value) :
    FaultFree (applyOne function argument) := by
  unfold applyOne
  split
  -- `int` of a float, the readers of numbers, then lengths and `abs`, and what is not accepted.
  case h_3 => exact faultFree_integral _
  case h_4 | h_5 | h_6 =>
    split
    · exact True.intro
    · rfl
  case h_9 | h_10 | h_11 | h_12 | h_16 => exact faultFree_checked _
  case h_18 => rfl
  all_goals exact True.intro

theorem faultFree_rounded (value : Value) (digits : Option Value) :
    FaultFree (rounded value digits) := by
  unfold rounded
  split
  · trivial
  · split
    · split
      · trivial
      · exact faultFree_integral _
    · split <;> trivial
    · trivial

/-- A pass over values is no fault, by induction over them. -/
theorem faultFree_extremeFrom (beats : Ordering) (best : Value) (items : List Value) :
    FaultFree (extremeFrom beats best items) := by
  induction items generalizing best with
  | nil => trivial
  | cons item items ih =>
    simp only [extremeFrom]
    split
    · next e he => exact (faultFree_order item best).error he
    · exact ih _

theorem faultFree_extreme (beats : Ordering) (arguments : List Value) :
    FaultFree (extreme beats arguments) := by
  simp only [extreme]
  split
  · trivial
  · exact faultFree_extremeFrom _ _ _

/-- A call with a number of arguments that its function accepts finds the arguments that it takes. -/
theorem faultFree_call {function : Builtin} {arguments : List Value}
    (haccepts : function.accepts arguments.length = true) : FaultFree (call function arguments) := by
  cases arguments with
  | nil => cases function <;> cases haccepts
  | cons argument rest =>
    unfold call
    -- `min` and `max` take any number of arguments, `round` one or two, the others one
    split
    · exact faultFree_extreme _ _
    · exact faultFree_extreme _ _
    · split
      · exact faultFree_rounded _ _
      · exact faultFree_rounded argument none
    · exact faultFree_applyOne _ argument

/-! ## Evaluation -/

/-- Every argument gives one value. -/
theorem length_evalAll {x : Value} {nodes : List Node} {values : List Value}
    (h : evalAll x nodes = .ok values) : values.length = nodes.length := by
  induction nodes generalizing values with
  | nil => cases h; rfl
  | cons node nodes ih =>
    simp only [evalAll] at h
    split at h
    · cases h
    · split at h
      · cases h
      · next vs hvs =>
        cases h
        simp [ih hvs]

mutual

/-- A tree whose calls are accepted evaluates without a fault. -/
theorem Node.eval_faultFree (x : Value) : ∀ t : Node, t.CallsAccepted → FaultFree (t.eval x)
  | .literal _, _ | .var, _ => trivial
  | .list items, h => by
    simp only [Node.eval]
    split
    · next e he => exact (evalAll_faultFree x items h).error he
    · trivial
  | .neg operand, h => by
    simp only [Node.eval]
    split
    · next e he => exact (operand.eval_faultFree x h).error he
    · exact faultFree_negate _
  | .not operand, h => by
    simp only [Node.eval]
    split
    · next e he => exact (operand.eval_faultFree x h).error he
    · trivial
  | .and left right, ⟨hleft, hright⟩ => by
    simp only [Node.eval]
    split
    · next e he => exact (left.eval_faultFree x hleft).error he
    · split
      · exact right.eval_faultFree x hright
      · trivial
  | .or left right, ⟨hleft, hright⟩ => by
    simp only [Node.eval]
    split
    · next e he => exact (left.eval_faultFree x hleft).error he
    · split
      · trivial
      · exact right.eval_faultFree x hright
  | .binary op left right, ⟨hleft, hright⟩ => by
    simp only [Node.eval]
    split
    · next e he => exact (left.eval_faultFree x hleft).error he
    · split
      · next e he => exact (right.eval_faultFree x hright).error he
      · exact faultFree_binary op _ _
  | .compare first rest, ⟨hfirst, hrest⟩ => by
    simp only [Node.eval]
    split
    · next e he => exact (first.eval_faultFree x hfirst).error he
    · exact evalLinks_faultFree x _ rest hrest
  | .index target index, ⟨htarget, hindex⟩ => by
    simp only [Node.eval]
    split
    · next e he => exact (target.eval_faultFree x htarget).error he
    · split
      · next e he => exact (index.eval_faultFree x hindex).error he
      · exact faultFree_indexed _ _
  | .call function arguments, ⟨haccepts, h⟩ => by
    simp only [Node.eval]
    split
    · next e he => exact (evalAll_faultFree x arguments h).error he
    · next values hvalues =>
      -- there are as many values as the parser has counted arguments
      rw [← length_evalAll hvalues] at haccepts
      exact faultFree_call haccepts

/-- Trees whose calls are accepted evaluate one after another without a fault. -/
theorem evalAll_faultFree (x : Value) : ∀ nodes : List Node,
    AllCallsAccepted nodes → FaultFree (evalAll x nodes)
  | [], _ => trivial
  | node :: nodes, ⟨hnode, hnodes⟩ => by
    simp only [evalAll]
    split
    · next e he => exact (node.eval_faultFree x hnode).error he
    · split
      · next e he => exact (evalAll_faultFree x nodes hnodes).error he
      · trivial

theorem evalLinks_faultFree (x left : Value) : ∀ links : List (CompareOp × Node),
    LinkCallsAccepted links → FaultFree (evalLinks x left links)
  | [], _ => trivial
  | (op, node) :: links, ⟨hnode, hlinks⟩ => by
    simp only [evalLinks]
    split
    · next e he => exact (node.eval_faultFree x hnode).error he
    · next right _ =>
      split
      · next e he => exact (faultFree_holds op left right).error he
      · exact evalLinks_faultFree x right links hlinks
      · trivial

end

/-! ## Repeated strings -/

/-- Copies of a string have so many times its bytes. -/
theorem utf8ByteSize_join_replicate (s : String) (count : Nat) :
    (String.join (List.replicate count s)).utf8ByteSize = s.utf8ByteSize * count := by
  induction count with
  | zero => rfl
  | succ count ih =>
    rw [List.replicate_succ, String.join_cons, String.utf8ByteSize_append, ih, Nat.mul_succ,
      Nat.add_comm]

/-- The size of a repeated string is checked before it is made. -/
theorem utf8ByteSize_of_repeated {s t : String} {count : Int64}
    (h : repeated s count = .ok (.string t)) : t.utf8ByteSize ≤ maxRepeatedBytes := by
  unfold repeated at h
  simp only at h
  split at h
  · cases h
  · next hsize =>
    split at h
    · cases h
      exact Nat.zero_le _
    · cases h
      rw [utf8ByteSize_join_replicate]
      exact Nat.le_of_not_lt hsize

/-- The product of two numbers is a number. -/
theorem numberOperation_mul_ne_string (a b : Number) (s : String) :
    numberOperation .mul a b ≠ .ok (.string s) := by
  intro h
  unfold numberOperation at h
  split at h
  · simp only [integerOperation, checked] at h
    split at h <;> cases h
  · cases h

/-- The only strings that `*` makes are repeated ones. -/
theorem utf8ByteSize_of_binary_mul {left right : Value} {s : String}
    (h : binary .mul left right = .ok (.string s)) : s.utf8ByteSize ≤ maxRepeatedBytes := by
  unfold binary at h
  split at h
  case h_4 | h_5 => exact utf8ByteSize_of_repeated h
  case h_6 =>
    split at h
    · next heq _ _ _ _ => exact (numberOperation_mul_ne_string _ _ s h).elim
    · cases h
  all_goals contradiction

/-! ## Expressions -/

/-- **Evaluation is safe.** Every call in a parsed expression has a number of arguments that its
function accepts, and no value of `x` leads its evaluation to a fault. Places lie below the length that
they were computed for, and `*` makes no string of more than `0x100000` bytes, that is 2 ^ 20. -/
theorem safe_of_parse {source : String} {expr : Expr} (h : Expr.parse source = .ok expr) :
    expr.root.CallsAccepted ∧
      (∀ x cause, expr.eval x ≠ .error (.fault cause)) ∧
      (∀ index length place, position index length = .ok place → place < length) ∧
      ∀ left right s, binary .mul left right = .ok (.string s) → s.utf8ByteSize ≤ 0x100000 := by
  have hcalls : expr.root.CallsAccepted := by
    unfold Expr.parse parseNode at h
    split at h
    · cases h
    · next root hroot =>
      cases h
      split at hroot
      · cases hroot
      · exact (parseTokens_sound hroot).2.callsAccepted
  exact ⟨hcalls, fun x cause => (expr.root.eval_faultFree x hcalls).ne_fault cause,
    fun _ _ _ => position_lt, fun _ _ _ => utf8ByteSize_of_binary_mul⟩

/-- An expression that calls, indexes and divides by the integer whose quotients may overflow. -/
theorem safe_of_parse_division :
    ∃ expr, Expr.parse "round(x[-1], 2) // -1" = .ok expr ∧
      ∀ x cause, expr.eval x ≠ .error (.fault cause) := by
  have h : Expr.parse "round(x[-1], 2) // -1" = .ok ⟨"round(x[-1], 2) // -1",
      .binary .floorDiv
        (.call .round [.index .var (.neg (.literal (.integer 1))), .literal (.integer 2)])
        (.neg (.literal (.integer 1)))⟩ := by with_unfolding_all rfl
  exact ⟨_, h, (safe_of_parse h).2.1⟩

end LayeredConfig.Expr
