import LayeredConfig.Proofs.Source.Outcomes
import LayeredConfig.Proofs.Value.Regrouping

/-!
# Merges of merges

Some of the sources that are merged can be merged among themselves first. For those at the beginning this
makes no difference, for it is what a merge does anyway. For those at the end it makes none if none of the
values that are met on the way is screened (`Source.Unscreened`); the failures are the same in any case.
`merges_regroup` says so.

A merge that goes on after failures is one that stops at them, of the sources that have a value, or of all
sources with an empty map as their default (`silent_merge_by_defaults`). An empty map changes nothing that
it is laid over, as long as that is a map.
-/

namespace LayeredConfig.Source

open Value

variable {w : World} {sources earlier later : List Source} {v : Value} {e : ResolveError}

/-! ## Merges that stop at failures -/

/-- All sources have a value, or some have one before a first failure. -/
theorem resolve_merging_raise_cases (w : World) (sources : List Source) :
    (∃ values : List Value, sources.map (resolve w) = values.map .ok ∧
      (merging sources .raise).resolve w = .ok (mergeAll values)) ∨
    ∃ (values : List Value) (e : ResolveError) (rest : List Outcome),
      sources.map (resolve w) = values.map .ok ++ .error e :: rest ∧
        (merging sources .raise).resolve w = .error e := by
  rw [resolve_merging]
  rcases values_or_failure (sources.map (resolve w)) with ⟨values, hvalues⟩ | ⟨values, e, rest, hfails⟩
  · exact .inl ⟨values, hvalues, by rw [hvalues, mergeOutcomes_values]⟩
  · exact .inr ⟨values, e, rest, hfails, by rw [hfails, mergeOutcomes_raise_failure]⟩

/-- The first sources of a merge can be merged among themselves. -/
theorem resolve_merging_nested_first (w : World) (earlier later : List Source) :
    (merging (merging earlier .raise :: later) .raise).resolve w =
      (merging (earlier ++ later) .raise).resolve w := by
  rw [resolve_merging, resolve_merging, List.map_cons, List.map_append]
  rcases resolve_merging_raise_cases w earlier with ⟨values, hvalues, hmerged⟩ | ⟨values, e, rest, hfails, he⟩
  · rw [hmerged, hvalues, mergeOutcomes, mergeOutcomesOnto, empty_merge, mergeOutcomes,
      mergeOutcomesOnto_values_append]
    rfl
  · rw [he, hfails, List.append_assoc, List.cons_append, mergeOutcomes_raise_failure, mergeOutcomes,
      mergeOutcomesOnto]

/-- A merge of which the last sources are merged among themselves fails like the flat merge; else both
merge the same values, in different groups. -/
theorem nested_last_cases (w : World) (earlier later : List Source) :
    (∃ lower upper : List Value,
      earlier.map (resolve w) = lower.map .ok ∧ later.map (resolve w) = upper.map .ok ∧
        (merging (earlier ++ later) .raise).resolve w = .ok (mergeAll (lower ++ upper)) ∧
        (merging (earlier ++ [merging later .raise]) .raise).resolve w =
          .ok ((mergeAll lower).merge (mergeAll upper))) ∨
    ∃ e, (merging (earlier ++ later) .raise).resolve w = .error e ∧
      (merging (earlier ++ [merging later .raise]) .raise).resolve w = .error e := by
  rw [resolve_merging w (earlier ++ later), resolve_merging w (earlier ++ [merging later .raise]),
    List.map_append, List.map_append, List.map_singleton]
  rcases resolve_merging_raise_cases w earlier with ⟨lower, hlower, -⟩ | ⟨lower, e, rest, hfails, -⟩
  · rcases resolve_merging_raise_cases w later with ⟨upper, hupper, hmerged⟩ | ⟨upper, e, rest, hfails, he⟩
    · refine .inl ⟨lower, upper, hlower, hupper, ?_, ?_⟩
      · rw [hlower, hupper, ← List.map_append, mergeOutcomes_values]
      · rw [hlower, hmerged, mergeOutcomes, mergeOutcomesOnto_values_append]
        rfl
    · refine .inr ⟨e, ?_, ?_⟩
      · rw [hlower, hfails, ← List.append_assoc, ← List.map_append, mergeOutcomes_raise_failure]
      · rw [hlower, he, mergeOutcomes_raise_failure]
  · refine .inr ⟨e, ?_, ?_⟩
    · rw [hfails, List.append_assoc, List.cons_append, mergeOutcomes_raise_failure]
    · rw [hfails, List.append_assoc, List.cons_append, mergeOutcomes_raise_failure]

/-- Nothing that is merged among the later sources stands between two maps: that of the earlier sources,
and that of the source which follows in the merge of the later ones. -/
def Unscreened (w : World) (earlier later : List Source) : Prop :=
  ∀ part next rest, later = part ++ next :: rest → part ≠ [] → ∀ lower middle upper,
    (merging earlier .raise).resolve w = .ok lower → (merging part .raise).resolve w = .ok middle →
      next.resolve w = .ok upper → ∀ path, ¬ ScreenedAt lower middle upper path

/-- The last sources of a merge can be merged among themselves where nothing is screened. -/
theorem resolve_merging_nested_last (hlater : later ≠ [])
    (hordered : ∀ source ∈ earlier ++ later, ∀ v, source.resolve w = .ok v → v.Ordered)
    (h : Unscreened w earlier later) :
    (merging (earlier ++ [merging later .raise]) .raise).resolve w =
      (merging (earlier ++ later) .raise).resolve w := by
  rcases nested_last_cases w earlier later with
    ⟨lower, upper, hlower, hupper, hflat, hnested⟩ | ⟨e, hflat, hnested⟩
  · rw [hflat, hnested]
    have hall : (earlier ++ later).map (resolve w) = (lower ++ upper).map .ok := by
      rw [List.map_append, List.map_append, hlower, hupper]
    have hupperNe : upper ≠ [] := by
      rintro rfl
      exact hlater (List.map_eq_nil_iff.1 hupper)
    have hvalues : ∀ v ∈ lower ++ upper, v.Ordered := by
      intro v hmem
      have hmem : .ok v ∈ (earlier ++ later).map (resolve w) := hall ▸ List.mem_map_of_mem hmem
      obtain ⟨source, hsource, hv⟩ := List.mem_map.1 hmem
      exact hordered source hsource v hv
    rw [mergeAll_append_of_not_screened hupperNe hvalues]
    intro part next rest hsplit hpart path
    -- the split of the values is one of the sources
    rw [hsplit, List.map_append, List.map_cons] at hupper
    obtain ⟨partSources, restSources, rfl, hpartSources, hrest⟩ := List.map_eq_append_iff.1 hupper
    obtain ⟨nextSource, others, rfl, hnext, -⟩ := List.map_eq_cons_iff.1 hrest
    refine h partSources nextSource others rfl ?_ _ _ _ (resolve_merging_of_ok hlower .raise)
      (resolve_merging_of_ok hpartSources .raise) hnext path
    rintro rfl
    exact hpart (List.map_eq_nil_iff.1 hpartSources.symm)
  · rw [hflat, hnested]

/-- **Merges can be regrouped.** Three values can be merged in either grouping if the middle one holds no
scalar or sequence at a path where the other two hold maps. So in a merge of sources that stops at failures,
the first sources can always be merged among themselves, with the same value or failure. The last ones can
too, as far as the failures go, and with the same value if nothing is screened on the way. -/
theorem merges_regroup :
    (∀ lower middle upper : Value, lower.Ordered → middle.Ordered → upper.Ordered →
      (∀ path, ¬ ScreenedAt lower middle upper path) →
        (lower.merge middle).merge upper = lower.merge (middle.merge upper)) ∧
    ∀ (w : World) (earlier later : List Source),
      (merging (merging earlier .raise :: later) .raise).resolve w =
          (merging (earlier ++ later) .raise).resolve w ∧
        (∀ e, (merging (earlier ++ [merging later .raise]) .raise).resolve w = .error e ↔
          (merging (earlier ++ later) .raise).resolve w = .error e) ∧
        (later ≠ [] →
          (∀ source ∈ earlier ++ later, ∀ v, source.resolve w = .ok v → v.Ordered) →
          Unscreened w earlier later →
            (merging (earlier ++ [merging later .raise]) .raise).resolve w =
              (merging (earlier ++ later) .raise).resolve w) := by
  refine ⟨fun lower middle upper => merge_assoc_of_not_screened, fun w earlier later =>
    ⟨resolve_merging_nested_first w earlier later, fun e => ?_, resolve_merging_nested_last⟩⟩
  rcases nested_last_cases w earlier later with ⟨lower, upper, -, -, hflat, hnested⟩ | ⟨e', hflat, hnested⟩
  · rw [hflat, hnested]
    exact iff_of_false nofun nofun
  · rw [hflat, hnested]

/-- A layer at the bottom. -/
def baseLayer : Value := .map [("db", .map [("host", .string "h")])]

/-- A layer over it, with a text of its own. -/
def plainLayer : Value := .map [("db", .map [("port", .integer 1)]), ("mode", .string "x")]

/-- A third layer, with a map in the place of that text. -/
def deepLayer : Value :=
  .map [("db", .map [("port", .integer 2)]), ("mode", .map [("level", .integer 3)])]

/-- The text is below a map, but there is none of the first layer behind it. -/
theorem not_screenedAt_layers (path : List String) :
    ¬ ScreenedAt baseLayer plainLayer deepLayer path := by
  intro hscreened
  rcases path with _ | ⟨key, path⟩
  · exact not_screenedAt_map_nil hscreened
  · obtain ⟨l, m, u, hl, hm, hu, hscreened⟩ := screenedAt_map_cons.1 hscreened
    by_cases hkey : key = "db"
    · subst hkey
      cases hl
      cases hm
      cases hu
      rcases path with _ | ⟨key, path⟩
      · exact not_screenedAt_map_nil hscreened
      · obtain ⟨l, m, u, hl, hm, -, -⟩ := screenedAt_map_cons.1 hscreened
        by_cases hkey : key = "host"
        · subst hkey
          cases hm
        · simp [Entries.get?, hkey] at hl
    · simp [Entries.get?, hkey] at hl

/-- In these layers no value screens another one. -/
theorem unscreened_layers :
    Unscreened .empty [static baseLayer] [static plainLayer, static deepLayer] := by
  intro part next rest hsplit hpart lower middle upper hlower hmiddle hupper
  rcases part with _ | ⟨first, _ | ⟨second, part⟩⟩
  · exact absurd rfl hpart
  · cases hsplit
    cases hlower
    cases hmiddle
    cases hupper
    exact not_screenedAt_layers
  · simp at hsplit

/-- The upper two of three layers are merged first. -/
theorem merges_regroup_layers :
    baseLayer.Ordered ∧ plainLayer.Ordered ∧ deepLayer.Ordered ∧
      (∀ path, ¬ ScreenedAt baseLayer plainLayer deepLayer path) ∧
      (baseLayer.merge plainLayer).merge deepLayer = baseLayer.merge (plainLayer.merge deepLayer) ∧
      Unscreened .empty [static baseLayer] [static plainLayer, static deepLayer] ∧
      (merging ([static baseLayer] ++ [merging [static plainLayer, static deepLayer] .raise])
        .raise).resolve .empty =
          .ok (.map [("db", .map [("host", .string "h"), ("port", .integer 2)]),
            ("mode", .map [("level", .integer 3)])]) := by
  have hmode : "db" < "mode" := by decide
  obtain ⟨hbase, hplain, hdeep⟩ : baseLayer.Ordered ∧ plainLayer.Ordered ∧ deepLayer.Ordered := by
    simp only [baseLayer, plainLayer, deepLayer, Ordered, OrderedEntries, Entries.sorted_cons,
      Entries.sorted_nil, List.mem_cons, List.not_mem_nil, or_false, forall_eq, IsEmpty.forall_iff,
      implies_true, and_true, hmode]
  obtain ⟨hvalues, hsources⟩ := merges_regroup
  obtain ⟨-, -, hlast⟩ := hsources .empty [static baseLayer] [static plainLayer, static deepLayer]
  have hordered : ∀ source ∈ [static baseLayer, static plainLayer, static deepLayer], ∀ v,
      source.resolve .empty = .ok v → v.Ordered := by
    simp [resolve, hbase, hplain, hdeep]
  refine ⟨hbase, hplain, hdeep, not_screenedAt_layers,
    hvalues _ _ _ hbase hplain hdeep not_screenedAt_layers, unscreened_layers, ?_⟩
  rw [hlast (List.cons_ne_nil _ _) hordered unscreened_layers]
  rfl

/-! ## Merges that go on after failures -/

/-- Only the sources that have a value count. -/
theorem resolve_merging_silent (w : World) (sources : List Source) :
    (merging sources .silent).resolve w =
      (merging (sources.filter fun source => (source.resolve w).isOk) .raise).resolve w := by
  rw [resolve_merging, resolve_merging, mergeOutcomes, mergeOutcomesOnto_silent_eq, List.filter_map]
  rfl

/-- An empty map in the place of a failure changes nothing, since it is laid over a map. -/
theorem mergeOutcomesOnto_defaults {merged : Value} (hmerged : merged.isMap = true)
    (hmaps : ∀ source ∈ sources, ∀ v, source.resolve w = .ok v → v.isMap = true) :
    mergeOutcomesOnto .raise merged
        ((sources.map fun source => optional source empty).map (resolve w)) =
      mergeOutcomesOnto .silent merged (sources.map (resolve w)) := by
  induction sources generalizing merged with
  | nil => rfl
  | cons source sources ih =>
    obtain ⟨hsource, hsources⟩ := List.forall_mem_cons.1 hmaps
    rw [List.map_cons, List.map_cons, List.map_cons, resolve]
    cases hresolve : source.resolve w with
    | ok v =>
      have hmap : (merged.merge v).isMap = true := (isMap_merge merged v).trans (hsource v hresolve)
      exact ih hmap hsources
    | error e =>
      obtain ⟨entries, rfl⟩ := exists_eq_map hmerged
      rw [mergeOutcomesOnto, mergeOutcomesOnto, merge_empty]
      exact ih hmerged hsources

/-- **To silence a merge is to give each part a default.** If the sources that have a value have maps, then a
merge that goes on after failures has the value of the merge that stops at them, of all sources with the
empty map as their default; and also that of the merge of just the sources that have a value. It is a
map. -/
theorem silent_merge_by_defaults
    (hmaps : ∀ source ∈ sources, ∀ v, source.resolve w = .ok v → v.isMap = true) :
    ∃ merged, merged.isMap = true ∧ (merging sources .silent).resolve w = .ok merged ∧
      (merging (sources.map fun source => optional source empty) .raise).resolve w = .ok merged ∧
      (merging (sources.filter fun source => (source.resolve w).isOk) .raise).resolve w = .ok merged := by
  obtain ⟨merged, hsilent⟩ := mergeOutcomesOnto_silent empty (sources.map (resolve w))
  have hmerging : (merging sources .silent).resolve w = .ok merged := by
    rw [resolve_merging, mergeOutcomes, hsilent]
  refine ⟨merged, ?_, hmerging, ?_, ?_⟩
  · refine isMap_of_mergeOutcomes (fun v hmem => ?_) hsilent
    obtain ⟨source, hsource, hv⟩ := List.mem_map.1 hmem
    exact hmaps source hsource v hv
  · rw [resolve_merging, mergeOutcomes, mergeOutcomesOnto_defaults rfl hmaps, hsilent]
  · rw [← resolve_merging_silent, hmerging]

/-- Two maps, each after a source that fails. -/
def gaps : List Source :=
  [environment "HOST" "host" none none, static (.map [("db", .map [("host", .string "h")])]),
    file "app.json" .utf8 .all, static (.map [("db", .map [("port", .integer 2)])])]

/-- What is missing leaves no trace. -/
theorem silent_merge_by_defaults_gaps :
    (∀ source ∈ gaps, ∀ v, source.resolve .empty = .ok v → v.isMap = true) ∧
      (gaps.map fun source => (source.resolve .empty).isOk) = [false, true, false, true] ∧
      ∃ merged, merged = .map [("db", .map [("host", .string "h"), ("port", .integer 2)])] ∧
        (merging gaps .silent).resolve .empty = .ok merged ∧
        (merging (gaps.map fun source => optional source empty) .raise).resolve .empty = .ok merged := by
  have hmaps : ∀ source ∈ gaps, ∀ v, source.resolve .empty = .ok v → v.isMap = true := by
    intro source hsource v hv
    simp only [gaps, List.mem_cons, List.not_mem_nil, or_false] at hsource
    rcases hsource with rfl | rfl | rfl | rfl <;> cases hv <;> rfl
  obtain ⟨merged, -, hsilent, hdefaults, -⟩ := silent_merge_by_defaults hmaps
  exact ⟨hmaps, rfl, merged, (Except.ok.inj hsilent).symm, hsilent, hdefaults⟩

/-- Over a text the empty map is not without effect. -/
example :
    let sources := [static (.string "x"), environment "HOST" "host" none none]
    (merging sources .silent).resolve .empty = .ok (.string "x") ∧
      (merging (sources.map fun source => optional source empty) .raise).resolve .empty = .ok empty :=
  ⟨rfl, rfl⟩

end LayeredConfig.Source
