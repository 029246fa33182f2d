import LayeredConfig.Proofs.Expr.Comparison

/-!
# The least and the greatest value

`min` and `max` keep the best value so far and compare the others with it, one after another. What they end
with is the first value or beats it. Strict orders are transitive, so what does not beat the best value of
its time does not beat a better one either (`Best.passed`), and nothing is concluded from equality, which is
not transitive. A value without order fails its comparison wherever it stands (`exists_extremeFrom_iff`).
-/

namespace LayeredConfig.Expr

section

variable {a b c v : Value} {o o' beats : Ordering}

/-! ## Values in order -/

/-- Two strings or two numbers in their order. -/
inductive InOrder : Value → Value → Ordering → Prop where
  | strings {s t : String} {o : Ordering} (h : compare s t = o) : InOrder (.string s) (.string t) o
  | numbers {a b : Value} {m n : Number} {o : Ordering} (ha : StandsFor a m) (hb : StandsFor b n)
      (h : m.order n = o) : InOrder a b o

/-- A string. -/
def Textual (v : Value) : Prop := ∃ s, v = .string s

theorem StandsFor.numeric {n : Number} (h : StandsFor v n) : Numeric v := by
  obtain ⟨hnumber, hordered⟩ := h
  cases v with
  | integer i => exact .integer i
  | bool b => exact .bool b
  | float x =>
    cases hnumber
    exact .float hordered
  | _ => cases hnumber

/-- A value stands for one number. -/
theorem StandsFor.unique {m n : Number} (hm : StandsFor v m) (hn : StandsFor v n) : m = n :=
  Option.some.inj (hm.number.symm.trans hn.number)

theorem not_standsFor_string (s : String) (n : Number) : ¬ StandsFor (.string s) n := by
  rintro ⟨hnumber, -⟩
  cases hnumber

/-- Only numbers that are no NaN have an order. -/
theorem isNaN_of_numberOrder? {m n : Number} (h : numberOrder? m n = some o) :
    m.toFloat.isNaN = false ∧ n.toFloat.isNaN = false := by
  cases m with
  | integer i =>
    cases n with
    | integer j => exact ⟨Binary64.isNaN_ofInt i.toInt, Binary64.isNaN_ofInt j.toInt⟩
    | float y => exact Binary64.isNaN_of_compare? h
  | float x => exact Binary64.isNaN_of_compare? h

/-- The evaluator orders two strings or two numbers and nothing else. -/
theorem order_eq_ok_iff : order a b = .ok o ↔ InOrder a b o := by
  constructor
  · intro h
    cases horder : order? a b with
    | none =>
      rw [order, horder] at h
      cases h
    | some o' =>
      rw [order, horder] at h
      cases h
      unfold order? at horder
      split at horder
      · exact .strings (Option.some.inj horder)
      · split at horder
        · next m n hm hn =>
          obtain ⟨ha, hb⟩ := isNaN_of_numberOrder? horder
          refine .numbers ⟨hm, ha⟩ ⟨hn, hb⟩ ?_
          exact Option.some.inj ((Number.numberOrder?_eq ha hb).symm.trans horder)
        · cases horder
  · intro h
    cases h with
    | strings h => exact congrArg Except.ok h
    | numbers ha hb h => rw [order_of_standsFor ha hb, h]

/-- Two values have an order if and only if they are strings or numbers, both of them. -/
theorem exists_inOrder_iff :
    (∃ o, InOrder a b o) ↔ (Textual a ∧ Textual b) ∨ (Numeric a ∧ Numeric b) := by
  constructor
  · rintro ⟨o, h⟩
    cases h with
    | strings h => exact .inl ⟨⟨_, rfl⟩, ⟨_, rfl⟩⟩
    | numbers ha hb h => exact .inr ⟨ha.numeric, hb.numeric⟩
  · rintro (⟨⟨s, rfl⟩, ⟨t, rfl⟩⟩ | ⟨ha, hb⟩)
    · exact ⟨_, .strings rfl⟩
    · obtain ⟨m, ha⟩ := ha.standsFor
      obtain ⟨n, hb⟩ := hb.standsFor
      exact ⟨_, .numbers ha hb rfl⟩

namespace InOrder

/-- Two values are in one order at most. -/
theorem unique (h : InOrder a b o) (h' : InOrder a b o') : o = o' :=
  Except.ok.inj ((order_eq_ok_iff.2 h).symm.trans (order_eq_ok_iff.2 h'))

theorem swap (h : InOrder a b o) : InOrder b a o.swap := by
  cases h with
  | strings h =>
    refine .strings ?_
    rw [← h]
    exact Std.OrientedCmp.eq_swap
  | numbers ha hb h =>
    refine .numbers hb ha ?_
    rw [← h, Number.swap_order]

theorem lt_trans (hab : InOrder a b .lt) (hbc : InOrder b c .lt) : InOrder a c .lt := by
  cases hab with
  | strings hab =>
    cases hbc with
    | strings hbc => exact .strings (Std.TransCmp.lt_trans hab hbc)
    | numbers hb _ _ => exact absurd hb (not_standsFor_string _ _)
  | numbers ha hb hab =>
    cases hbc with
    | strings hbc => exact absurd hb (not_standsFor_string _ _)
    | numbers hb' hc hbc =>
      cases hb.unique hb'
      exact .numbers ha hc (Number.order_lt_trans hab hbc)

/-- Both strict orders are transitive. -/
theorem trans (hbeats : beats ≠ .eq) (hab : InOrder a b beats) (hbc : InOrder b c beats) :
    InOrder a c beats := by
  cases beats with
  | lt => exact hab.lt_trans hbc
  | eq => exact absurd rfl hbeats
  | gt => exact (hbc.swap.lt_trans hab.swap).swap

/-- A value that stands before another does not stand after it. -/
theorem asymm (hbeats : beats ≠ .eq) (hab : InOrder a b beats) : ¬ InOrder b a beats := by
  intro hba
  have heq := hab.unique hba.swap
  cases beats <;> cases heq
  exact hbeats rfl

end InOrder

theorem Textual.not_numeric (h : Textual v) : ¬ Numeric v := by
  intro hnumeric
  obtain ⟨s, rfl⟩ := h
  cases hnumeric

/-- Values in order are both strings or neither is. -/
theorem InOrder.textual_iff (h : InOrder a b o) : Textual a ↔ Textual b := by
  rcases exists_inOrder_iff.1 ⟨o, h⟩ with ⟨ha, hb⟩ | ⟨ha, hb⟩
  · exact iff_of_true ha hb
  · exact iff_of_false (fun h => h.not_numeric ha) fun h => h.not_numeric hb

/-- Values in order are both numbers or neither is. -/
theorem InOrder.numeric_iff (h : InOrder a b o) : Numeric a ↔ Numeric b := by
  rcases exists_inOrder_iff.1 ⟨o, h⟩ with ⟨ha, hb⟩ | ⟨ha, hb⟩
  · exact iff_of_false ha.not_numeric hb.not_numeric
  · exact iff_of_true ha hb

/-! ## One pass -/

variable {best item next : Value} {items : List Value}

/-- All of the values are strings, or all are numbers. -/
def OneSort (vs : List Value) : Prop := (∀ v ∈ vs, Textual v) ∨ ∀ v ∈ vs, Numeric v

/-- A round of the pass keeps whether all of the values are of one sort. -/
theorem oneSort_cons_iff (h : InOrder item best o) (hnext : next = item ∨ next = best) :
    items = [] ∨ OneSort (next :: items) ↔ OneSort (best :: item :: items) := by
  have htextual : Textual next ↔ Textual best ∧ Textual item := by
    rcases hnext with rfl | rfl <;> simp [h.textual_iff]
  have hnumeric : Numeric next ↔ Numeric best ∧ Numeric item := by
    rcases hnext with rfl | rfl <;> simp [h.numeric_iff]
  simp only [OneSort, List.forall_mem_cons, htextual, hnumeric, and_assoc]
  refine or_iff_right_of_imp ?_
  rintro rfl
  rcases exists_inOrder_iff.1 ⟨o, h⟩ with ⟨hitem, hbest⟩ | ⟨hitem, hbest⟩
  · exact .inl ⟨hbest, hitem, nofun⟩
  · exact .inr ⟨hbest, hitem, nofun⟩

/-- A pass over several values succeeds if they are of one sort, in whatever order they stand. -/
theorem exists_extremeFrom_iff :
    (∃ v, extremeFrom beats best items = .ok v) ↔ items = [] ∨ OneSort (best :: items) := by
  induction items generalizing best with
  | nil => exact iff_of_true ⟨best, rfl⟩ (.inl rfl)
  | cons item items ih =>
    rw [extremeFrom, or_iff_right (List.cons_ne_nil item items)]
    cases horder : order item best with
    | ok o =>
      refine ih.trans (oneSort_cons_iff (order_eq_ok_iff.1 horder) ?_)
      split
      · exact .inl rfl
      · exact .inr rfl
    | error e =>
      refine iff_of_false nofun fun hsort => ?_
      have hboth : (Textual item ∧ Textual best) ∨ (Numeric item ∧ Numeric best) :=
        hsort.imp (fun h => ⟨h item (by simp), h best (by simp)⟩)
          fun h => ⟨h item (by simp), h best (by simp)⟩
      obtain ⟨o, hinorder⟩ := exists_inOrder_iff.2 hboth
      rw [order_eq_ok_iff.2 hinorder] at horder
      cases horder

/-- The value that a pass from `best` over the items ends with. -/
structure Best (beats : Ordering) (best : Value) (items : List Value) (v : Value) : Prop where
  member : v ∈ best :: items
  improved : v = best ∨ InOrder v best beats
  unbeaten : ∀ w ∈ best :: items, ¬ InOrder w v beats

/-- With no items left the pass ends where it is. -/
theorem Best.nil (hbeats : beats ≠ .eq) : Best beats v [] v := by
  refine ⟨List.mem_singleton_self v, .inl rfl, fun w hw hwv => ?_⟩
  rw [List.mem_singleton] at hw
  subst hw
  exact hwv.asymm hbeats hwv

/-- An item that beats the best so far takes its place, and what beats the item beats the former best. -/
theorem Best.better (hbeats : beats ≠ .eq) (horder : InOrder item best beats)
    (h : Best beats item items v) : Best beats best (item :: items) v := by
  obtain ⟨hmember, himproved, hunbeaten⟩ := h
  have hbest : InOrder v best beats := by
    rcases himproved with rfl | hv
    · exact horder
    · exact hv.trans hbeats horder
  refine ⟨List.mem_cons_of_mem best hmember, .inr hbest, ?_⟩
  rw [List.forall_mem_cons]
  exact ⟨hbest.asymm hbeats, hunbeaten⟩

/-- An item that does not beat the best so far is passed. -/
theorem Best.passed (hbeats : beats ≠ .eq) (horder : ¬ InOrder item best beats)
    (h : Best beats best items v) : Best beats best (item :: items) v := by
  obtain ⟨hmember, himproved, hunbeaten⟩ := h
  -- `item` was compared with `best` alone, but what beats `v` beats `best` too
  have hitem : ¬ InOrder item v beats := by
    rcases himproved with rfl | hv
    · exact horder
    · exact fun hitem => horder (hitem.trans hbeats hv)
  rw [List.forall_mem_cons] at hunbeaten
  refine ⟨?_, himproved, ?_⟩
  · rcases List.mem_cons.1 hmember with rfl | hmem
    · exact List.mem_cons_self
    · exact List.mem_cons_of_mem _ (List.mem_cons_of_mem _ hmem)
  · simp only [List.forall_mem_cons]
    exact ⟨hunbeaten.1, hitem, hunbeaten.2⟩

/-- The value that the pass ends with is the best of all: by induction over the items. -/
theorem best_of_extremeFrom (hbeats : beats ≠ .eq) (h : extremeFrom beats best items = .ok v) :
    Best beats best items v := by
  induction items generalizing best with
  | nil =>
    cases h
    exact .nil hbeats
  | cons item items ih =>
    rw [extremeFrom] at h
    cases horder : order item best with
    | error e =>
      rw [horder] at h
      cases h
    | ok o =>
      rw [horder] at h
      have hinorder := order_eq_ok_iff.1 horder
      by_cases ho : o = beats
      · simp only [if_pos ho] at h
        exact (ih h).better hbeats (ho ▸ hinorder)
      · simp only [if_neg ho] at h
        exact (ih h).passed hbeats fun hitem => ho (hinorder.unique hitem)

/-! ## The functions -/

/-- The values to choose from: the items of a sequence that is the only argument, or the arguments. -/
def candidates : List Value → List Value
  | [.array items] => items
  | arguments => arguments

/-- The pass over these values. -/
def extremeOf (beats : Ordering) : List Value → Outcome Value
  | [] => .error .emptySequence
  | best :: items => extremeFrom beats best items

theorem extreme_eq (beats : Ordering) (arguments : List Value) :
    extreme beats arguments = extremeOf beats (candidates arguments) := rfl

/-- What the search for a value comes to that no other one stands before in this order. -/
structure Finds (op : CompareOp) (vs : List Value) (outcome : Outcome Value) : Prop where
  empty : vs = [] → outcome = .error .emptySequence
  succeeds : vs ≠ [] → ((∃ v, outcome = .ok v) ↔ vs.length = 1 ∨ OneSort vs)
  member : ∀ v, outcome = .ok v → v ∈ vs
  extreme : ∀ v, outcome = .ok v → ∀ w ∈ vs, ¬ Answers op w v true

/-- The pass finds such a value whenever a true answer means that one value beats the other. -/
theorem finds_extremeOf {op : CompareOp} (hbeats : beats ≠ .eq)
    (hop : ∀ w v, Answers op w v true → InOrder w v beats) (vs : List Value) :
    Finds op vs (extremeOf beats vs) := by
  cases vs with
  | nil => exact ⟨fun _ => rfl, fun h => absurd rfl h, nofun, nofun⟩
  | cons best items =>
    refine ⟨nofun, fun _ => ?_, fun v h => (best_of_extremeFrom hbeats h).member, fun v h w hw hwv => ?_⟩
    · rw [List.length_cons, Nat.add_eq_right, List.length_eq_zero_iff]
      exact exists_extremeFrom_iff
    · exact (best_of_extremeFrom hbeats h).unbeaten w hw (hop w v hwv)

/-- An operator that tests for an order is true of values in this order. -/
theorem inOrder_of_answers {op : CompareOp} (hop : holds op a b = (order a b).map (· == beats))
    (h : Answers op a b true) : InOrder a b beats := by
  rw [answers_iff, hop] at h
  rw [← order_eq_ok_iff]
  cases horder : order a b with
  | error e =>
    rw [horder] at h
    cases h
  | ok o =>
    rw [horder] at h
    rw [beq_iff_eq.1 (Except.ok.inj h)]

/-- **The least and the greatest value.** The search fails for an empty sequence. Else it succeeds if and only
if there is a single value or all are strings or all are numbers, wherever in the sequence another one is.
What is found is one of the values, and none of them is less, or greater, than it is. -/
theorem finds_least_and_greatest {x : Value} {arguments : List Node} {values : List Value}
    (h : evalAll x arguments = .ok values) :
    Finds .lt (candidates values) ((Node.call .min arguments).eval x) ∧
    Finds .gt (candidates values) ((Node.call .max arguments).eval x) := by
  have hlt : Ordering.lt ≠ .eq := nofun
  have hgt : Ordering.gt ≠ .eq := nofun
  have hmin : (Node.call .min arguments).eval x = extremeOf .lt (candidates values) := by
    rw [Node.eval, h, ← extreme_eq]
    rfl
  have hmax : (Node.call .max arguments).eval x = extremeOf .gt (candidates values) := by
    rw [Node.eval, h, ← extreme_eq]
    rfl
  rw [hmin, hmax]
  exact ⟨finds_extremeOf hlt (fun _ _ => inOrder_of_answers rfl) _,
    finds_extremeOf hgt (fun _ _ => inOrder_of_answers rfl) _⟩

/-- The float `2 ^ 53` is equal to both of the integers, and is passed over on the way to the lesser one. -/
theorem finds_in_blurred_integers :
    ∃ x i j, (x = Value.float (Float.ofBits 0x4340000000000000) ∧ i = Value.integer 0x20000000000001 ∧
        j = Value.integer 0x20000000000000) ∧
      evalAll x [.literal i, .var, .literal j] = .ok [i, x, j] ∧
      Finds .lt (candidates [i, x, j]) ((Node.call .min [.literal i, .var, .literal j]).eval x) ∧
      Finds .gt (candidates [i, x, j]) ((Node.call .max [.literal i, .var, .literal j]).eval x) :=
  ⟨_, _, _, ⟨rfl, rfl, rfl⟩, rfl, finds_least_and_greatest rfl⟩

end

end LayeredConfig.Expr
