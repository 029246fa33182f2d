import LayeredConfig.Proofs.Value.Merge

/-!
# Regrouping a merge

Merging is not associative. A scalar in the middle hides the map below it if it is laid over that map
first; a map above it takes its place if those two are merged first, and then the two maps meet
(`ScreenedAt`). `merge_assoc_iff` says that nothing else can go wrong: the two groupings agree if and only
if, wherever this happens, the map below has nothing to add to the one above.

`merge_foldl_merge` carries the law from three values to a list that is merged before it is laid over
a value.
-/

namespace LayeredConfig.Value

/-- At the path, a scalar or sequence of the middle value stands between two maps. -/
def ScreenedAt (lower middle upper : Value) (path : List String) : Prop :=
  lower.MapAt path ∧ middle.LeafAt path ∧ upper.MapAt path

/-! ## Induction on maps -/

section

variable {motive : Value → Prop} (leaf : ∀ v, v.isMap = false → motive v)
  (map : ∀ entries, (∀ key v, Entries.get? key entries = some v → motive v) → motive (.map entries))
include leaf map

/-- Induction on the maps in a value: on a map, after the values of its keys. -/
theorem mapInduction : ∀ v, motive v
  | .map entries => map entries fun _ v _ => mapInduction v
  | .null | .bool _ | .integer _ | .float _ | .string _ | .bytes _ | .array _ => leaf _ rfl
termination_by v => sizeOf v
decreasing_by
  rename_i hget
  have hlt := List.sizeOf_lt_of_mem (Entries.mem_of_get? hget)
  simp only [Prod.mk.sizeOf_spec, Value.map.sizeOf_spec] at hlt ⊢
  omega

end

/-! ## Maps by their lookups -/

/-- Maps in order are equal where they hold the same under every key. -/
theorem map_eq_map_iff {es fs : Entries Value} (he : es.Sorted) (hf : fs.Sorted) :
    map es = map fs ↔ ∀ key, Entries.get? key es = Entries.get? key fs := by
  constructor
  · intro h key
    rw [map.inj h]
  · intro h
    rw [Entries.ext_of_sorted he hf h]

/-- Maps in key order merge to one: the value of a key is that of the map that has the key, or the merge
of both. -/
theorem exists_merge_eq_map {lower upper : Entries Value} (hl : (map lower).Ordered)
    (hu : (map upper).Ordered) :
    ∃ merged, (map lower).merge (map upper) = map merged ∧ (map merged).Ordered ∧
      ∀ key, Entries.get? key merged =
        Option.merge merge (Entries.get? key lower) (Entries.get? key upper) := by
  have hmerge := merge_map_map lower hu.1
  refine ⟨mergeEntries lower upper, hmerge, hmerge ▸ hl.merge hu, fun key => ?_⟩
  rw [get?_mergeEntries hu.1]
  cases Entries.get? key upper <;> cases Entries.get? key lower <;> rfl

/-- A value laid over itself changes nothing. -/
theorem merge_self {v : Value} (h : v.Ordered) : v.merge v = v := by
  induction v using mapInduction with
  | leaf v hv => exact merge_eq_overlay (.inr hv)
  | map es ih =>
    obtain ⟨merged, hmerged, hordered, hget⟩ := exists_merge_eq_map h h
    rw [hmerged, map_eq_map_iff hordered.1 h.1]
    intro key
    rw [hget]
    cases hkey : Entries.get? key es with
    | none => rfl
    | some old => exact congrArg some (ih key old hkey (h.2.get? hkey))

/-- A map with one entry, laid over a map that has the same value under the key or none, sets the key. -/
theorem merge_map_singleton {entries : Entries Value} {key : String} {v : Value} (hv : v.Ordered)
    (h : ∀ old, Entries.get? key entries = some old → old = v) :
    (map entries).merge (map [(key, v)]) = map (Entries.insert key v entries) := by
  cases entries with
  | nil => rfl
  | cons entry entries =>
    rw [merge, mergeEntries, mergeEntries]
    cases hkey : Entries.get? key (entry :: entries) with
    | none => rfl
    | some old =>
      obtain rfl := h old hkey
      simp only [merge_self hv]

/-- A map as a whole stands between no others. -/
theorem not_screenedAt_map_nil {lower upper : Value} {ms : Entries Value} :
    ¬ ScreenedAt lower (map ms) upper [] := by
  rintro ⟨-, ⟨held, hheld, hleaf⟩, -⟩
  rw [at?_nil, Option.some_inj] at hheld
  rw [← hheld, isMap] at hleaf
  cases hleaf

/-- Among maps, a value is screened where it is below a key that all three have. -/
theorem screenedAt_map_cons {ls ms us : Entries Value} {key : String} {path : List String} :
    ScreenedAt (map ls) (map ms) (map us) (key :: path) ↔
      ∃ l m u, Entries.get? key ls = some l ∧ Entries.get? key ms = some m ∧
        Entries.get? key us = some u ∧ ScreenedAt l m u path := by
  simp only [ScreenedAt, mapAt_map_cons, leafAt_map_cons]
  constructor
  · rintro ⟨⟨l, hl, hlower⟩, ⟨m, hm, hmiddle⟩, u, hu, hupper⟩
    exact ⟨l, m, u, hl, hm, hu, hlower, hmiddle, hupper⟩
  · rintro ⟨l, m, u, hl, hm, hu, hlower, hmiddle, hupper⟩
    exact ⟨⟨l, hl, hlower⟩, ⟨m, hm, hmiddle⟩, u, hu, hupper⟩

/-! ## Three values -/

/-- Where a value of the middle stands between two maps, the lower one adds nothing to the upper one. -/
def Harmless (lower middle upper : Value) : Prop :=
  ∀ path below above, middle.LeafAt path → lower.at? path = some below → upper.at? path = some above →
    below.isMap = true → above.isMap = true → below.merge above = above

variable {lower middle upper : Value}

/-- Below a value that is no map there is no leaf. -/
theorem not_leafAt_cons (h : middle.isMap = false) (key : String) (path : List String) :
    ¬ middle.LeafAt (key :: path) := by
  rintro ⟨held, hat, -⟩
  rw [at?_cons_of_isMap_eq_false h] at hat
  cases hat

/-- Below or above something other than a map, the middle value does no harm. -/
theorem harmless_of_not_map (h : lower.isMap = false ∨ upper.isMap = false) :
    Harmless lower middle upper := by
  intro path below above _ hbelow habove hbelowMap haboveMap
  rcases path with _ | ⟨key, path⟩
  · rw [at?_nil, Option.some_inj] at hbelow habove
    rw [hbelow, habove, hbelowMap, haboveMap] at h
    simp at h
  · rcases h with h | h
    · rw [at?_cons_of_isMap_eq_false h] at hbelow
      cases hbelow
    · rw [at?_cons_of_isMap_eq_false h] at habove
      cases habove

/-- If the middle value is no map, only the whole values matter. -/
theorem harmless_iff_of_not_map (h : middle.isMap = false) :
    Harmless lower middle upper ↔
      (lower.isMap = true → upper.isMap = true → lower.merge upper = upper) := by
  constructor
  · intro hall hlower hupper
    exact hall [] lower upper ⟨middle, at?_nil middle, h⟩ (at?_nil lower) (at?_nil upper) hlower hupper
  · intro htop path below above hleaf hbelow habove hbelowMap haboveMap
    rcases path with _ | ⟨key, path⟩
    · rw [at?_nil, Option.some_inj] at hbelow habove
      subst hbelow habove
      exact htop hbelowMap haboveMap
    · exact absurd hleaf (not_leafAt_cons h key path)

/-- Among maps, the values of each key that all three have matter. -/
theorem harmless_map_iff {ls ms us : Entries Value} :
    Harmless (map ls) (map ms) (map us) ↔
      ∀ key l m u, Entries.get? key ls = some l → Entries.get? key ms = some m →
        Entries.get? key us = some u → Harmless l m u := by
  constructor
  · intro h key l m u hl hm hu path below above hleaf hbelow habove
    refine h (key :: path) below above (leafAt_map_cons.2 ⟨m, hm, hleaf⟩) ?_ ?_
    · rw [at?_map_cons, hl, Option.bind_some, hbelow]
    · rw [at?_map_cons, hu, Option.bind_some, habove]
  · intro h path below above hleaf hbelow habove
    rcases path with _ | ⟨key, path⟩
    · simp [LeafAt, isMap] at hleaf
    · obtain ⟨m, hm, hleaf⟩ := leafAt_map_cons.1 hleaf
      rw [at?_map_cons, Option.bind_eq_some_iff] at hbelow habove
      obtain ⟨l, hl, hbelow⟩ := hbelow
      obtain ⟨u, hu, habove⟩ := habove
      exact h key l m u hl hm hu path below above hleaf hbelow habove

/-- Lookups regroup if and only if the values do that are found in all three maps. -/
theorem optionMerge_assoc_iff {l m u : Option Value} :
    Option.merge merge (Option.merge merge l m) u = Option.merge merge l (Option.merge merge m u) ↔
      ∀ l' m' u', l = some l' → m = some m' → u = some u' →
        (l'.merge m').merge u' = l'.merge (m'.merge u') := by
  cases l <;> cases m <;> cases u <;> simp [Option.merge]

/-- **When a merge can be regrouped.** The two groupings of three values agree if and only if the middle
value does no harm. -/
theorem merge_assoc_iff (hl : lower.Ordered) (hm : middle.Ordered) (hu : upper.Ordered) :
    (lower.merge middle).merge upper = lower.merge (middle.merge upper) ↔
      Harmless lower middle upper := by
  induction upper using mapInduction generalizing lower middle with
  | leaf upper hupper =>
    -- what is no map covers all below it, in either grouping
    rw [merge_eq_overlay (.inr hupper), merge_eq_overlay (.inr hupper), merge_eq_overlay (.inr hupper)]
    exact iff_of_true rfl (harmless_of_not_map (.inr hupper))
  | map us ih =>
    by_cases hmiddle : middle.isMap = true
    · obtain ⟨ms, rfl⟩ := exists_eq_map hmiddle
      by_cases hlower : lower.isMap = true
      · obtain ⟨ls, rfl⟩ := exists_eq_map hlower
        obtain ⟨lm, hlm, hlmOrdered, hgetLm⟩ := exists_merge_eq_map hl hm
        obtain ⟨mu, hmu, hmuOrdered, hgetMu⟩ := exists_merge_eq_map hm hu
        obtain ⟨left, hleft, hleftOrdered, hgetLeft⟩ := exists_merge_eq_map hlmOrdered hu
        obtain ⟨right, hright, hrightOrdered, hgetRight⟩ := exists_merge_eq_map hl hmuOrdered
        -- both groupings are maps, which are equal where they hold the same under every key
        rw [hlm, hleft, hmu, hright, map_eq_map_iff hleftOrdered.1 hrightOrdered.1, harmless_map_iff]
        refine forall_congr' fun key => ?_
        rw [hgetLeft, hgetRight, hgetLm, hgetMu, optionMerge_assoc_iff]
        refine forall_congr' fun l => forall_congr' fun m => forall_congr' fun u => ?_
        refine imp_congr_right fun hgetL => imp_congr_right fun hgetM => imp_congr_right fun hgetU => ?_
        exact ih key u hgetU (hl.2.get? hgetL) (hm.2.get? hgetM) (hu.2.get? hgetU)
      · rw [Bool.not_eq_true] at hlower
        rw [merge_eq_overlay (.inl hlower), merge_eq_overlay (.inl hlower)]
        exact iff_of_true rfl (harmless_of_not_map (.inl hlower))
    · rw [Bool.not_eq_true] at hmiddle
      rw [merge_eq_overlay (.inr hmiddle), merge_eq_overlay (.inl hmiddle),
        harmless_iff_of_not_map hmiddle]
      by_cases hlower : lower.isMap = true
      · rw [eq_comm]
        exact ⟨fun heq _ _ => heq, fun h => h hlower rfl⟩
      · rw [Bool.not_eq_true] at hlower
        rw [merge_eq_overlay (.inl hlower)]
        exact iff_of_true rfl fun _ _ => rfl

/-- Where no value is screened, the middle value does no harm. -/
theorem harmless_of_not_screened (h : ∀ path, ¬ ScreenedAt lower middle upper path) :
    Harmless lower middle upper := by
  intro path below above hleaf hbelow habove hbelowMap haboveMap
  exact absurd ⟨⟨below, hbelow, hbelowMap⟩, hleaf, above, habove, haboveMap⟩ (h path)

/-- Merges can be regrouped where no scalar or sequence stands between two maps. -/
theorem merge_assoc_of_not_screened (hl : lower.Ordered) (hm : middle.Ordered) (hu : upper.Ordered)
    (h : ∀ path, ¬ ScreenedAt lower middle upper path) :
    (lower.merge middle).merge upper = lower.merge (middle.merge upper) :=
  (merge_assoc_iff hl hm hu).2 (harmless_of_not_screened h)

/-- A number between two maps: the entry of the lower one is kept in one of the groupings. -/
example :
    let lower := map [("a", map [("x", integer 1)])]
    let middle := map [("a", integer 5)]
    let upper := map [("a", map [("y", integer 2)])]
    (lower.merge middle).merge upper = map [("a", map [("y", integer 2)])] ∧
      lower.merge (middle.merge upper) = map [("a", map [("x", integer 1), ("y", integer 2)])] :=
  ⟨rfl, rfl⟩

/-! ## Lists of values -/

/-- Values laid over one another before they are laid over `lower`, if nothing of what is merged so far
stands between `lower` and the next value. -/
theorem merge_foldl_merge (hl : lower.Ordered) {first : Value} (hf : first.Ordered) {rest : List Value}
    (hr : ∀ v ∈ rest, v.Ordered)
    (h : ∀ part next later, rest = part ++ next :: later →
      ∀ path, ¬ ScreenedAt lower (part.foldl merge first) next path) :
    lower.merge (rest.foldl merge first) = rest.foldl merge (lower.merge first) := by
  induction rest generalizing first with
  | nil => rfl
  | cons next rest ih =>
    obtain ⟨hnext, hrest⟩ := List.forall_mem_cons.1 hr
    -- one step is regrouped, and the induction goes on from what it has led to
    have hstep : (lower.merge first).merge next = lower.merge (first.merge next) :=
      merge_assoc_of_not_screened hl hf hnext (h [] next rest rfl)
    rw [List.foldl_cons, List.foldl_cons, hstep]
    refine ih (hf.merge hnext) hrest fun part next' later hsplit => ?_
    exact h (next :: part) next' later (by rw [hsplit, List.cons_append])

/-- Merging goes on where the earlier values have led. -/
theorem mergeAll_append (earlier later : List Value) :
    mergeAll (earlier ++ later) = later.foldl merge (mergeAll earlier) := List.foldl_append

/-- Merging starts from the first value, since merging it onto the empty map changes nothing. -/
theorem mergeAll_cons (first : Value) (rest : List Value) :
    mergeAll (first :: rest) = rest.foldl merge first := by
  rw [mergeAll, List.foldl_cons, empty_merge]

/-- A part of a list at its end can be merged by itself, if it is not empty and nothing that is merged
within it stands between what comes before it and its next value. -/
theorem mergeAll_append_of_not_screened {earlier later : List Value} (hne : later ≠ [])
    (ho : ∀ v ∈ earlier ++ later, v.Ordered)
    (h : ∀ part next rest, later = part ++ next :: rest → part ≠ [] →
      ∀ path, ¬ ScreenedAt (mergeAll earlier) (mergeAll part) next path) :
    mergeAll (earlier ++ later) = (mergeAll earlier).merge (mergeAll later) := by
  obtain ⟨first, rest, rfl⟩ := List.exists_cons_of_ne_nil hne
  obtain ⟨hearlier, hlater⟩ := List.forall_mem_append.1 ho
  obtain ⟨hfirst, hrest⟩ := List.forall_mem_cons.1 hlater
  rw [mergeAll_append, mergeAll_cons, List.foldl_cons]
  refine (merge_foldl_merge (ordered_mergeAll hearlier) hfirst hrest fun part next later hsplit => ?_).symm
  rw [← mergeAll_cons]
  exact h (first :: part) next later (by rw [hsplit, List.cons_append]) (List.cons_ne_nil _ _)

end LayeredConfig.Value
