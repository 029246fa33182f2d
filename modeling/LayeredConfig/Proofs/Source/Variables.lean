import LayeredConfig.Proofs.Entries
import LayeredConfig.Proofs.Source.Outcomes
import LayeredConfig.Proofs.Value.Regrouping

/-!
# Environment variables, together and one by one

A map of environment variables is filled in order and given up at the first one that fails. The same variables
can be read one by one, and their maps with one entry each merged. Both come to the same: a name that occurs
twice sets its key again in the first case, and in the second its value is laid over itself, which changes
nothing (`Value.merge_self`). That the two are the same value is the invariant that carries the induction
over the names (`HoldsVariables`). Maps are taken in key order, as every map of the library is.
-/

namespace LayeredConfig.Source

open Value

/-- Every entry is the value of the variable that its key names. -/
def HoldsVariables (w : World) (change : Option Cast) (entries : Entries Value) : Prop :=
  ∀ key v, Entries.get? key entries = some v → resolveVariable w change key = .ok v

/-- What reading some variables gives: a map with all of them and nothing else, or the error of the first
one that fails. -/
inductive AllOrFirstFailure (w : World) (change : Option Cast) (names : List String) : Outcome → Prop where
  | all {entries : Entries Value} (hsorted : entries.Sorted)
      (hkeys : ∀ key, key ∈ entries.keys ↔ key ∈ names) (hvalues : HoldsVariables w change entries) :
      AllOrFirstFailure w change names (.ok (.map entries))
  | failure {before after : List String} {name : String} {e : ResolveError}
      (hnames : names = before ++ name :: after)
      (hbefore : ∀ earlier ∈ before, ∃ v, resolveVariable w change earlier = .ok v)
      (hname : resolveVariable w change name = .error e) : AllOrFirstFailure w change names (.error e)

section

variable {w : World} {change : Option Cast} {entries : Entries Value} {names : List String} {name : String}
  {v : Value}

/-- One more variable under its own name keeps the entries so. -/
theorem HoldsVariables.insert (h : HoldsVariables w change entries)
    (hv : resolveVariable w change name = .ok v) :
    HoldsVariables w change (Entries.insert name v entries) := by
  intro key u hget
  rw [Entries.get?_insert] at hget
  split at hget
  · next heq =>
    cases hget
    rw [heq, hv]
  · exact h key u hget

/-- A variable without a default is resolved to a map with its value, or fails as the variable does. -/
theorem resolve_environment (w : World) (name key : String) (change : Option Cast) :
    (environment name key none change).resolve w =
      (resolveVariable w change name).map fun v => .map [(key, v)] := by
  have hdefault : resolveVariableOr w none change name = resolveVariable w change name := by
    unfold resolveVariableOr
    split
    · next h => cases h
    · rfl
  rw [resolve, hdefault]
  cases resolveVariable w change name <;> rfl

/-- One more variable, set in the map or laid over it. -/
theorem merge_variable (h : HoldsVariables w change entries) (hv : resolveVariable w change name = .ok v)
    (hordered : v.Ordered) :
    (map entries).merge (map [(name, v)]) = map (Entries.insert name v entries) := by
  refine merge_map_singleton hordered fun old hold => ?_
  have hsame : Except.ok old = Except.ok v := (h name old hold).symm.trans hv
  exact Except.ok.inj hsame

/-- Adding variables to a map that holds variables is laying their maps over it. -/
theorem addVariables_eq_mergeOutcomesOnto (h : HoldsVariables w change entries)
    (hordered : ∀ name ∈ names, ∀ v, resolveVariable w change name = .ok v → v.Ordered) :
    addVariables w change entries names =
      mergeOutcomesOnto .raise (.map entries)
        (names.map fun name => (environment name name none change).resolve w) := by
  induction names generalizing entries with
  | nil => rfl
  | cons name names ih =>
    obtain ⟨hname, hnames⟩ := List.forall_mem_cons.1 hordered
    rw [List.map_cons, resolve_environment, addVariables]
    cases hv : resolveVariable w change name with
    | error e => rfl
    | ok v =>
      simp only [Except.map, mergeOutcomesOnto, merge_variable h hv (hname v hv)]
      exact ih (h.insert hv) hnames

/-- The variables that are added join those that are there, or the first one that fails decides. -/
theorem allOrFirstFailure_addVariables {present : List String} (h : HoldsVariables w change entries)
    (hsorted : entries.Sorted) (hkeys : ∀ key, key ∈ entries.keys ↔ key ∈ present) :
    AllOrFirstFailure w change (present ++ names) (addVariables w change entries names) := by
  induction names generalizing entries present with
  | nil =>
    rw [List.append_nil, addVariables]
    exact .all hsorted hkeys h
  | cons name names ih =>
    rw [addVariables]
    cases hv : resolveVariable w change name with
    | error e =>
      refine .failure rfl (fun earlier hmem => ?_) hv
      obtain ⟨v, hget⟩ := Option.isSome_iff_exists.1
        (Entries.isSome_get?_iff.2 ((hkeys earlier).2 hmem))
      exact ⟨v, h earlier v hget⟩
    | ok v =>
      have hinsert (key : String) :
          key ∈ (Entries.insert name v entries).keys ↔ key ∈ present ++ [name] := by
        rw [Entries.mem_keys_insert_iff, hkeys, List.mem_append, List.mem_singleton, or_comm]
      rw [← List.singleton_append, ← List.append_assoc]
      exact ih (h.insert hv) (hsorted.insert name v) hinsert

/-- **Variables together and one by one.** A map of environment variables has the outcome of the merge of a
source for each variable, with the same cast, that stops at failures: all variables under their names, or the
error of the first one that fails. -/
theorem environmentMap_eq_merging
    (hordered : ∀ name ∈ names, ∀ v, resolveVariable w change name = .ok v → v.Ordered) :
    (environmentMap names change).resolve w =
        (merging (names.map fun name => environment name name none change) .raise).resolve w ∧
      AllOrFirstFailure w change names ((environmentMap names change).resolve w) := by
  have hnone : HoldsVariables w change [] := nofun
  constructor
  · rw [resolve_merging, List.map_map, resolve]
    exact addVariables_eq_mergeOutcomesOnto hnone hordered
  · rw [resolve]
    have hkeys : ∀ key, key ∈ Entries.keys ([] : Entries Value) ↔ key ∈ ([] : List String) :=
      fun key => Iff.rfl
    exact allOrFirstFailure_addVariables hnone Entries.sorted_nil hkeys

end

/-- Two variables that are set. -/
def twoVariables : World := ⟨[("A", [0x31]), ("B", [0x32])], [], []⟩

/-- A cast that puts a text into a map. -/
def wrapping : Cast := .call "text" "wrap" (fun v => .ok (.map [("raw", v)])) none

/-- A variable that is read twice, and made into a map. -/
theorem environmentMap_eq_merging_twice :
    (∀ name ∈ ["B", "A", "B"], ∀ v,
      resolveVariable twoVariables (some wrapping) name = .ok v → v.Ordered) ∧
    ∃ entries, entries = [("A", .map [("raw", .string "1")]), ("B", .map [("raw", .string "2")])] ∧
      (environmentMap ["B", "A", "B"] (some wrapping)).resolve twoVariables = .ok (.map entries) ∧
      (merging (["B", "A", "B"].map fun name => environment name name none (some wrapping))
        .raise).resolve twoVariables = .ok (.map entries) := by
  have hordered : ∀ name ∈ ["B", "A", "B"], ∀ v,
      resolveVariable twoVariables (some wrapping) name = .ok v → v.Ordered := by
    intro name hname v hv
    simp only [List.mem_cons, List.not_mem_nil, or_false] at hname
    rcases hname with rfl | rfl | rfl <;> cases hv <;>
      exact ⟨List.pairwise_singleton _ _, trivial, trivial⟩
  obtain ⟨hmerging, -⟩ := environmentMap_eq_merging hordered
  exact ⟨hordered, _, rfl, rfl, hmerging ▸ rfl⟩

end LayeredConfig.Source
