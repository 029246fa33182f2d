import LayeredConfig.Entries
import Mathlib.Data.List.Dedup

/-!
# Entries set one after the other

`insertAll` sets the values of several keys in turn. A key then holds the last value that it was given
(`get?_insertAll_last`), and no key holds anything else (`mem_keys_insertAll_iff`). So there are as many
entries as different keys, and none was replaced if and only if the keys were all different
(`length_insertAll_eq_iff`).
-/

namespace LayeredConfig.Entries

variable {α : Type}

/-- An entry is found under its key. -/
theorem get?_of_mem {key : String} {value : α} {es : Entries α}
    (hsorted : es.Sorted) (h : (key, value) ∈ es) : get? key es = some value := by
  induction es with
  | nil => cases h
  | cons e es ih =>
    obtain ⟨k, v⟩ := e
    obtain ⟨hbefore, hrest⟩ := sorted_cons.1 hsorted
    rcases List.mem_cons.1 h with heq | hmem
    · cases heq
      simp [get?]
    · have hne : key ≠ k := by
        rintro rfl
        exact String.lt_irrefl key (hbefore _ hmem)
      simp [get?, hne, ih hrest hmem]

/-- The keys are those that have a value. -/
theorem isSome_get?_iff {key : String} {es : Entries α} :
    (get? key es).isSome ↔ key ∈ keys es := by
  induction es with
  | nil => simp [keys]
  | cons e es ih =>
    obtain ⟨k, v⟩ := e
    by_cases hkey : key = k
    · simp [get?, keys, hkey]
    · simpa [get?, keys, hkey] using ih

/-- Inserting adds one key and drops none. -/
theorem mem_keys_insert_iff {key other : String} {value : α} {es : Entries α} :
    other ∈ (insert key value es).keys ↔ other = key ∨ other ∈ es.keys := by
  rw [← isSome_get?_iff, ← isSome_get?_iff, get?_insert]
  split
  · next heq => simp [heq]
  · next hne => simp [hne]

/-- Keys in order are apart. -/
theorem Sorted.nodup_keys {es : Entries α} (h : es.Sorted) : es.keys.Nodup := by
  refine List.pairwise_map.2 (h.imp ?_)
  intro e f hlt heq
  exact String.lt_irrefl e.1 (heq ▸ hlt)

/-- Sets the values of several keys. -/
def insertAll (pairs : List (String × α)) (es : Entries α) : Entries α :=
  pairs.foldl (fun es pair => insert pair.1 pair.2 es) es

theorem insertAll_cons (pair : String × α) (pairs : List (String × α)) (es : Entries α) :
    insertAll (pair :: pairs) es = insertAll pairs (insert pair.1 pair.2 es) := rfl

theorem sorted_insertAll {pairs : List (String × α)} {es : Entries α} (h : es.Sorted) :
    (insertAll pairs es).Sorted := by
  induction pairs generalizing es with
  | nil => exact h
  | cons pair pairs ih => exact ih (h.insert pair.1 pair.2)

/-- Inserting pairs leaves the keys they do not have as they were. -/
theorem get?_insertAll_of_not_mem {key : String} {pairs : List (String × α)} {es : Entries α}
    (h : key ∉ pairs.map Prod.fst) : get? key (insertAll pairs es) = get? key es := by
  induction pairs generalizing es with
  | nil => rfl
  | cons pair pairs ih =>
    rw [List.map_cons, List.mem_cons, not_or] at h
    exact (ih h.2).trans (get?_insert_of_ne h.1 pair.2 es)

/-- A key holds the last value that it is given. -/
theorem get?_insertAll_last {pair : String × α} {pairs after : List (String × α)} {es : Entries α}
    (h : pair :: after <:+ pairs) (hlast : pair.1 ∉ after.map Prod.fst) :
    get? pair.1 (insertAll pairs es) = some pair.2 := by
  obtain ⟨before, rfl⟩ := h
  rw [insertAll, List.foldl_append]
  exact (get?_insertAll_of_not_mem hlast).trans (get?_insert_self _ _ _)

/-- Where no key is given twice, each pair inserted is found again. -/
theorem get?_insertAll_of_mem {pair : String × α} {pairs : List (String × α)} {es : Entries α}
    (hnodup : (pairs.map Prod.fst).Nodup) (h : pair ∈ pairs) :
    get? pair.1 (insertAll pairs es) = some pair.2 := by
  obtain ⟨before, after, rfl⟩ := List.append_of_mem h
  rw [List.map_append, List.map_cons] at hnodup
  have hafter := (List.nodup_cons.1 (List.nodup_append.1 hnodup).2.1).1
  exact get?_insertAll_last (List.suffix_append before (pair :: after)) hafter

theorem mem_keys_insertAll_iff {key : String} {pairs : List (String × α)} {es : Entries α} :
    key ∈ (insertAll pairs es).keys ↔ key ∈ pairs.map Prod.fst ∨ key ∈ es.keys := by
  induction pairs generalizing es with
  | nil => simp [insertAll]
  | cons pair pairs ih =>
    rw [insertAll_cons, ih, mem_keys_insert_iff, List.map_cons, List.mem_cons]
    tauto

/-- None of the keys occurs twice if there are as many entries as pairs. -/
theorem length_insertAll_eq_iff (pairs : List (String × α)) :
    (insertAll pairs []).length = pairs.length ↔ (pairs.map Prod.fst).Nodup := by
  have hkeys : (insertAll pairs []).keys.Perm (pairs.map Prod.fst).dedup := by
    rw [List.perm_ext_iff_of_nodup (sorted_insertAll sorted_nil).nodup_keys (List.nodup_dedup _)]
    intro key
    rw [mem_keys_insertAll_iff, List.mem_dedup]
    simp [keys]
  have hlength : (insertAll pairs []).length = (pairs.map Prod.fst).dedup.length := by
    rw [← hkeys.length_eq, keys, List.length_map]
  rw [hlength, ← List.dedup_eq_self, ← (List.dedup_sublist _).length_eq, List.length_map]

end LayeredConfig.Entries
