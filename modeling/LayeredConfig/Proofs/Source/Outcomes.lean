import LayeredConfig.Proofs.Value.Merge
import LayeredConfig.Source.Resolve

/-!
# Outcomes of composed sources

Alternatives and merges look at the outcomes of their parts alone. Alternatives go on as long as the parts
fail, merges as long as they have values, so each is described on a run of such parts and whatever
follows it. Every list of outcomes begins with a longest such run (`failures_or_value`,
`values_or_failure`), which decides what alternatives and a merge that stops at failures give.
-/

namespace LayeredConfig.Source

open Value

/-- Alternatives resolve as the outcomes of their sources do. -/
theorem resolve_alternatives (w : World) (sources : List Source) :
    (alternatives sources).resolve w = firstOutcome (sources.map (resolve w)) := by
  rw [resolve, resolveAll_eq_map]

theorem resolve_merging (w : World) (sources : List Source) (onFail : OnFail) :
    (merging sources onFail).resolve w = mergeOutcomes onFail (sources.map (resolve w)) := by
  rw [resolve, resolveAll_eq_map]

/-! ## Alternatives -/

/-- Some outcomes are all failures, or failures come before a first value. -/
theorem failures_or_value (outcomes : List Outcome) :
    (∃ causes : List ResolveError, outcomes = causes.map .error) ∨
      ∃ (causes : List ResolveError) (v : Value) (later : List Outcome),
        outcomes = causes.map .error ++ .ok v :: later := by
  induction outcomes with
  | nil => exact .inl ⟨[], rfl⟩
  | cons outcome outcomes ih =>
    rcases outcome with e | v
    · rcases ih with ⟨causes, rfl⟩ | ⟨causes, v, later, rfl⟩
      · exact .inl ⟨e :: causes, rfl⟩
      · exact .inr ⟨e :: causes, v, later, rfl⟩
    · exact .inr ⟨[], v, outcomes, rfl⟩

/-- Failures are kept in order. -/
theorem firstOutcomeAfter_failures_append (earlier causes : List ResolveError) (outcomes : List Outcome) :
    firstOutcomeAfter earlier (causes.map .error ++ outcomes) =
      firstOutcomeAfter (causes.reverse ++ earlier) outcomes := by
  induction causes generalizing earlier with
  | nil => rfl
  | cons e causes ih =>
    rw [List.map_cons, List.cons_append, firstOutcomeAfter, ih, List.reverse_cons, List.append_assoc,
      List.singleton_append]

/-- Failures at the front are gathered, the last one on top. -/
theorem firstOutcome_failures_append (causes : List ResolveError) (outcomes : List Outcome) :
    firstOutcome (causes.map .error ++ outcomes) = firstOutcomeAfter causes.reverse outcomes := by
  rw [firstOutcome, firstOutcomeAfter_failures_append, List.append_nil]

theorem firstOutcome_failures (causes : List ResolveError) :
    firstOutcome (causes.map .error) = .error (.allFailed causes) := by
  have h := firstOutcome_failures_append causes []
  rwa [List.append_nil, firstOutcomeAfter, List.reverse_reverse] at h

/-- The first value behind failures is the outcome, whatever comes later. -/
theorem firstOutcome_failures_value (causes : List ResolveError) (v : Value) (later : List Outcome) :
    firstOutcome (causes.map .error ++ .ok v :: later) = .ok v := by
  rw [firstOutcome_failures_append, firstOutcomeAfter]

variable {outcomes : List Outcome} {v : Value} {e : ResolveError}

/-- Only failures alone make a failure. -/
theorem firstOutcome_eq_error_iff :
    firstOutcome outcomes = .error e ↔ ∃ causes, e = .allFailed causes ∧ outcomes = causes.map .error := by
  constructor
  · intro h
    rcases failures_or_value outcomes with ⟨causes, rfl⟩ | ⟨causes, v, later, rfl⟩
    · rw [firstOutcome_failures] at h
      exact ⟨causes, (Except.error.inj h).symm, rfl⟩
    · rw [firstOutcome_failures_value] at h
      cases h
  · rintro ⟨causes, rfl, rfl⟩
    exact firstOutcome_failures causes

/-- A value is the outcome where failures alone stand before it. -/
theorem firstOutcome_eq_ok_iff : firstOutcome outcomes = .ok v ↔
    ∃ (causes : List ResolveError) (later : List Outcome),
      outcomes = causes.map .error ++ .ok v :: later := by
  constructor
  · intro h
    rcases failures_or_value outcomes with ⟨causes, rfl⟩ | ⟨causes, u, later, rfl⟩
    · rw [firstOutcome_failures] at h
      cases h
    · rw [firstOutcome_failures_value] at h
      exact ⟨causes, later, by rw [Except.ok.inj h]⟩
  · rintro ⟨causes, later, rfl⟩
    exact firstOutcome_failures_value causes v later

theorem mem_of_firstOutcome (h : firstOutcome outcomes = .ok v) : .ok v ∈ outcomes := by
  obtain ⟨causes, later, rfl⟩ := firstOutcome_eq_ok_iff.1 h
  exact List.mem_append_right _ List.mem_cons_self

/-- One value among the outcomes is enough, whatever failed before it. -/
theorem exists_firstOutcome_of_mem (h : .ok v ∈ outcomes) : ∃ u, firstOutcome outcomes = .ok u := by
  rcases failures_or_value outcomes with ⟨causes, rfl⟩ | ⟨causes, u, later, rfl⟩
  · obtain ⟨e, -, he⟩ := List.mem_map.1 h
    cases he
  · exact ⟨u, firstOutcome_failures_value causes u later⟩

/-! ## Merges -/

/-- Some outcomes are all values, or values come before a first failure. -/
theorem values_or_failure (outcomes : List Outcome) :
    (∃ values : List Value, outcomes = values.map .ok) ∨
      ∃ (values : List Value) (e : ResolveError) (later : List Outcome),
        outcomes = values.map .ok ++ .error e :: later := by
  induction outcomes with
  | nil => exact .inl ⟨[], rfl⟩
  | cons outcome outcomes ih =>
    rcases outcome with e | v
    · exact .inr ⟨[], e, outcomes, rfl⟩
    · rcases ih with ⟨values, rfl⟩ | ⟨values, e, later, rfl⟩
      · exact .inl ⟨v :: values, rfl⟩
      · exact .inr ⟨v :: values, e, later, rfl⟩

/-- Values are laid over one another, whatever comes after them. -/
theorem mergeOutcomesOnto_values_append (onFail : OnFail) (merged : Value) (values : List Value)
    (outcomes : List Outcome) :
    mergeOutcomesOnto onFail merged (values.map .ok ++ outcomes) =
      mergeOutcomesOnto onFail (values.foldl merge merged) outcomes := by
  induction values generalizing merged with
  | nil => rfl
  | cons v values ih =>
    rw [List.map_cons, List.cons_append, mergeOutcomesOnto, ih, List.foldl_cons]

/-- Values alone are merged, whatever is to be done about failures. -/
theorem mergeOutcomes_values (onFail : OnFail) (values : List Value) :
    mergeOutcomes onFail (values.map .ok) = .ok (mergeAll values) := by
  have h := mergeOutcomesOnto_values_append onFail empty values []
  rwa [List.append_nil] at h

/-- If failures are raised, the first one is the outcome. -/
theorem mergeOutcomes_raise_failure (values : List Value) (e : ResolveError) (later : List Outcome) :
    mergeOutcomes .raise (values.map .ok ++ .error e :: later) = .error e := by
  rw [mergeOutcomes, mergeOutcomesOnto_values_append, mergeOutcomesOnto]

/-- A merge of sources that all resolve is the merge of their values. -/
theorem resolve_merging_of_ok {w : World} {sources : List Source} {values : List Value}
    (h : sources.map (resolve w) = values.map Except.ok) (onFail : OnFail) :
    (merging sources onFail).resolve w = .ok (mergeAll values) := by
  rw [resolve_merging, h, mergeOutcomes_values]

/-- A merge that stops at failures fails with the error of a part. -/
theorem mem_of_mergeOutcomesOnto {onFail : OnFail} {merged : Value}
    (h : mergeOutcomesOnto onFail merged outcomes = .error e) : .error e ∈ outcomes := by
  induction outcomes generalizing merged with
  | nil => cases h
  | cons outcome rest ih =>
    cases outcome with
    | ok v => exact List.mem_cons_of_mem _ (ih h)
    | error cause =>
      cases onFail with
      | raise => cases h; exact List.mem_cons_self
      | silent => exact List.mem_cons_of_mem _ (ih h)

/-- What holds of the value at the bottom of a merge, and is kept when the value of a part is laid over it,
holds of the merge. -/
theorem mergeOutcomesOnto_induction {motive : Value → Prop} {onFail : OnFail} {merged : Value}
    (hmerged : motive merged)
    (hstep : ∀ base overlay, motive base → .ok overlay ∈ outcomes → motive (base.merge overlay))
    (h : mergeOutcomesOnto onFail merged outcomes = .ok v) : motive v := by
  induction outcomes generalizing merged with
  | nil =>
    cases h
    exact hmerged
  | cons outcome rest ih =>
    have hrest : ∀ base overlay, motive base → .ok overlay ∈ rest → motive (base.merge overlay) :=
      fun base overlay hbase hmem => hstep base overlay hbase (List.mem_cons_of_mem _ hmem)
    rcases outcome with e | u
    · cases onFail with
      | raise => cases h
      | silent => exact ih hmerged hrest h
    · exact ih (hstep merged u hmerged List.mem_cons_self) hrest h

/-- Maps merge to a map, and nothing at all to the empty one. -/
theorem isMap_of_mergeOutcomes {onFail : OnFail} (hmaps : ∀ v, .ok v ∈ outcomes → v.isMap = true)
    (h : mergeOutcomes onFail outcomes = .ok v) : v.isMap = true := by
  refine mergeOutcomesOnto_induction (motive := fun v => v.isMap = true) rfl ?_ h
  intro base overlay _ hmem
  exact (isMap_merge base overlay).trans (hmaps overlay hmem)

/-- A merge that goes on after failures stops at none of the values. -/
theorem mergeOutcomesOnto_silent_eq (merged : Value) (outcomes : List Outcome) :
    mergeOutcomesOnto .silent merged outcomes =
      mergeOutcomesOnto .raise merged (outcomes.filter Except.isOk) := by
  induction outcomes generalizing merged with
  | nil => rfl
  | cons outcome outcomes ih =>
    rcases outcome with e | v
    · exact ih merged
    · exact ih (merged.merge v)

/-- A merge that goes on after failures does not fail. -/
theorem mergeOutcomesOnto_silent (merged : Value) (outcomes : List Outcome) :
    ∃ v, mergeOutcomesOnto .silent merged outcomes = .ok v := by
  induction outcomes generalizing merged with
  | nil => exact ⟨merged, rfl⟩
  | cons outcome rest ih =>
    cases outcome with
    | ok v => exact ih _
    | error e => exact ih _

/-! ## Merges of files -/

/-- Whether an outcome is that of a file in none of the enabled formats. -/
def isUnrecognized : Outcome → Bool
  | .error (.unrecognized _) => true
  | _ => false

/-- Files are merged like any parts, without those that are in none of the enabled formats. -/
theorem mergeFilesOnto_eq (w : World) (encoding : Encoding) (formats : FormatSet) (onFail : OnFail)
    (merged : Value) (paths : List String) :
    mergeFilesOnto w encoding formats onFail merged paths = mergeOutcomesOnto onFail merged
      ((paths.map (resolveFile w encoding formats)).filter fun outcome => !isUnrecognized outcome) := by
  induction paths generalizing merged with
  | nil => rfl
  | cons path paths ih =>
    rw [List.map_cons, mergeFilesOnto]
    split
    · next v hfile =>
      rw [hfile, List.filter_cons_of_pos rfl, mergeOutcomesOnto, ih]
    · next other hfile =>
      rw [hfile, List.filter_cons_of_neg Bool.false_ne_true, ih]
    · next e hother hfile =>
      have hkept : isUnrecognized (.error e) = false := by
        cases e
        case unrecognized other => exact absurd rfl (hother other)
        all_goals rfl
      rw [hfile, List.filter_cons_of_pos (by rw [hkept]; rfl)]
      cases onFail with
      | raise => rfl
      | silent => exact ih merged

/-- A merge of files fails only with the error of a file. -/
theorem exists_of_mergeFilesOnto_eq_error {w : World} {encoding : Encoding} {formats : FormatSet}
    {onFail : OnFail} {merged : Value} {paths : List String}
    (h : mergeFilesOnto w encoding formats onFail merged paths = .error e) :
    ∃ path ∈ paths, resolveFile w encoding formats path = .error e := by
  rw [mergeFilesOnto_eq] at h
  exact List.mem_map.1 (List.mem_filter.1 (mem_of_mergeOutcomesOnto h)).1

end LayeredConfig.Source
