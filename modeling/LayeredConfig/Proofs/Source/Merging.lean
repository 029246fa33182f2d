import LayeredConfig.Proofs.Source.Outcomes
import LayeredConfig.Proofs.Value.Merge

/-!
# Merging sources

A merge that stops at failures resolves to the values of its parts laid over one another in order.
`merging_last_writer` says what it holds at every path.
-/

namespace LayeredConfig.Source

open Value

/-- **The last writer wins, path by path.** In a merge of sources that resolve to maps, a scalar or
sequence is found at a path if one part holds it there and every later part holds nothing there and
nothing but maps above it; a map is found there if one part holds a map there and every later part
holds nothing but maps on the way. -/
theorem merging_last_writer (w : World) {sources : List Source} {values : List Value}
    (hvalues : sources.map (resolve w) = values.map Except.ok)
    (hmaps : ∀ v ∈ values, v.isMap = true) (hordered : ∀ v ∈ values, v.Ordered) :
    ∃ merged, (merging sources .raise).resolve w = .ok merged ∧
      merged.isMap = true ∧ merged.Ordered ∧
      ∀ path : List String, path ≠ [] →
        (∀ leaf : Value, leaf.isMap = false →
          (merged.at? path = some leaf ↔
            ∃ i : Fin values.length, (values.get i).at? path = some leaf ∧
              ∀ j : Fin values.length, i < j → (values.get j).at? path = none ∧
                ∀ part, part ≠ [] → part ≠ path → part <+: path → ¬ (values.get j).LeafAt part)) ∧
        (merged.MapAt path ↔
          ∃ i : Fin values.length, (values.get i).MapAt path ∧
            ∀ j : Fin values.length, i < j →
              ∀ part, part ≠ [] → part <+: path → ¬ (values.get j).LeafAt part) := by
  have hmap (j : Fin values.length) : (values.get j).isMap = true := hmaps _ (List.get_mem values j)
  refine ⟨mergeAll values, resolve_merging_of_ok hvalues .raise, isMap_mergeAll hmaps,
    ordered_mergeAll hordered, fun path hpath => ⟨fun leaf hleaf => ?_, ?_⟩⟩
  · rw [at?_mergeAll_eq_leaf_iff hordered hpath hleaf]
    simp only [not_cutsAbove_iff (hmap _)]
  · rw [mapAt_mergeAll_iff hordered hpath]
    simp only [not_cutsAlong_iff (hmap _) hpath]

/-- A map, a number in its place, and a map again. -/
def sandwich : List Value :=
  [.map [("a", .map [("b", .integer 1), ("c", .integer 2)])],
   .map [("a", .integer 5)],
   .map [("a", .map [("b", .integer 3)])]]

/-- The number between the maps cuts off what the first one holds. -/
theorem merging_last_writer_sandwich :
    (sandwich.map static).map (resolve .empty) = sandwich.map Except.ok ∧
      (∀ v ∈ sandwich, v.isMap = true) ∧ (∀ v ∈ sandwich, v.Ordered) ∧
      ∃ merged, (merging (sandwich.map static) .raise).resolve .empty = .ok merged ∧
        merged.at? ["a", "b"] = some (.integer 3) ∧
        ∀ leaf : Value, leaf.isMap = false → merged.at? ["a", "c"] ≠ some leaf := by
  have hvalues : (sandwich.map static).map (resolve .empty) = sandwich.map Except.ok := rfl
  have hmaps : ∀ v ∈ sandwich, v.isMap = true := by simp [sandwich, isMap]
  have hordered : ∀ v ∈ sandwich, v.Ordered := by
    have hbc : "b" < "c" := by decide
    simp only [sandwich, List.mem_cons, List.not_mem_nil, or_false, forall_eq_or_imp, forall_eq,
      Ordered, OrderedEntries, Entries.sorted_cons, Entries.sorted_nil, IsEmpty.forall_iff,
      implies_true, and_true, hbc]
  obtain ⟨merged, hmerged, -, -, hpaths⟩ := merging_last_writer .empty hvalues hmaps hordered
  refine ⟨hvalues, hmaps, hordered, merged, hmerged, ?_, fun leaf hleaf hat => ?_⟩
  · refine ((hpaths ["a", "b"] (by simp)).1 (.integer 3) rfl).2 ⟨⟨2, by decide⟩, rfl, ?_⟩
    intro j hj
    exact absurd j.isLt (Nat.not_lt.2 hj)
  · obtain ⟨i, hi, hlater⟩ := ((hpaths ["a", "c"] (by simp)).1 leaf hleaf).1 hat
    rcases i with ⟨_ | _ | _ | i, hlt⟩
    · have hcut := (hlater ⟨1, by decide⟩ Nat.zero_lt_one).2 ["a"] (by simp) (by simp) ⟨["c"], rfl⟩
      exact hcut ⟨.integer 5, rfl, rfl⟩
    · cases hi
    · cases hi
    · have hlength : i + 3 < 3 := hlt
      omega

end LayeredConfig.Source
