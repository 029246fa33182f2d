import LayeredConfig.Value.Merge
import Mathlib.Data.Fin.Tuple.Basic

/-!
# What a merge holds at a path

A merge is described through `at?`. Where the overlay holds something, it is laid over what the base
holds there; elsewhere the base is left alone, unless the overlay has a scalar or a sequence higher up
the path, which cuts off all that the base holds below it. `at?_merge` says this of two values. In a
list of maps the last value that has a say at a path wins: `at?_mergeAll_eq_leaf_iff` says so of
scalars and sequences, `mapAt_mergeAll_iff` of maps.

Maps are taken in key order (`Ordered`), as every map of the library is, and merging keeps that order.
-/

namespace LayeredConfig.Value

/-! ## Kinds and entries of a merge -/

theorem exists_eq_map {v : Value} (h : v.isMap = true) : ∃ entries, v = map entries := by
  cases v with
  | map entries => exact ⟨entries, rfl⟩
  | _ => simp [isMap] at h

/-- A merge is a map exactly if the overlay is. -/
@[simp] theorem isMap_merge (base overlay : Value) :
    (base.merge overlay).isMap = overlay.isMap := by
  cases overlay with
  | map upper => rcases base with _ | _ | _ | _ | _ | _ | _ | (_ | _) <;> simp [merge, isMap]
  | _ => simp [merge]

/-- Unless two maps meet, the overlay takes the place of the base. -/
theorem merge_eq_overlay {base overlay : Value} (h : base.isMap = false ∨ overlay.isMap = false) :
    base.merge overlay = overlay := by
  cases overlay <;> cases base <;> simp_all [merge, isMap]

/-- The value of a key after `upper` is laid over `lower`. -/
theorem get?_mergeEntries {upper : Entries Value} (hu : Entries.Sorted upper)
    (lower : Entries Value) (key : String) :
    Entries.get? key (mergeEntries lower upper) =
      match Entries.get? key upper, Entries.get? key lower with
      | none, old => old
      | some new, none => some new
      | some new, some old => some (old.merge new) := by
  induction upper generalizing lower with
  | nil => simp [mergeEntries]
  | cons e upper ih =>
    obtain ⟨k, new⟩ := e
    obtain ⟨hk, hupper⟩ := Entries.sorted_cons.1 hu
    simp only [mergeEntries, ih hupper, Entries.get?]
    by_cases hkey : key = k
    · -- no later entry has the same key, so the first one decides
      subst hkey
      rw [Entries.get?_eq_none_of_lt hk]
      cases Entries.get? key lower <;> simp
    · rw [Entries.get?_insert_of_ne hkey, if_neg hkey]

/-- Entries in key order stay so when others are laid over them. -/
theorem sorted_mergeEntries {lower : Entries Value} (h : lower.Sorted) (upper : Entries Value) :
    Entries.Sorted (mergeEntries lower upper) := by
  induction upper generalizing lower with
  | nil => simpa only [mergeEntries] using h
  | cons entry upper ih =>
    simp only [mergeEntries]
    exact ih (h.insert entry.1 _)

/-- The entries of a map laid over the empty map, one after the other, are the entries again. -/
theorem mergeEntries_nil {entries : Entries Value} (h : entries.Sorted) :
    mergeEntries [] entries = entries := by
  refine Entries.ext_of_sorted (sorted_mergeEntries Entries.sorted_nil entries) h fun key => ?_
  rw [get?_mergeEntries h]
  cases Entries.get? key entries <;> rfl

/-- Two maps merge by laying the entries of one over the other, also over the empty map. -/
theorem merge_map_map (lower : Entries Value) {upper : Entries Value} (hu : Entries.Sorted upper) :
    (map lower).merge (map upper) = map (mergeEntries lower upper) := by
  cases lower with
  | nil => simp only [merge, mergeEntries_nil hu]
  | cons e lower => simp only [merge]

/-! ## Key order -/

theorem orderedEntries_iff {entries : Entries Value} :
    OrderedEntries entries ↔ ∀ e ∈ entries, e.2.Ordered := by
  induction entries with
  | nil => simp [OrderedEntries]
  | cons e entries ih => simp [OrderedEntries, ih]

theorem orderedItems_iff {items : List Value} : OrderedItems items ↔ ∀ v ∈ items, v.Ordered := by
  induction items with
  | nil => simp [OrderedItems]
  | cons v items ih => simp [OrderedItems, ih]

/-- What a key holds is in order. -/
theorem OrderedEntries.get? {entries : Entries Value} (h : OrderedEntries entries) {key : String}
    {v : Value} (hv : Entries.get? key entries = some v) : v.Ordered :=
  orderedEntries_iff.1 h (key, v) (Entries.mem_of_get? hv)

/-- Inserting a value in order keeps the entries so. -/
theorem OrderedEntries.insert {entries : Entries Value} (h : OrderedEntries entries) (key : String)
    {v : Value} (hv : v.Ordered) : OrderedEntries (Entries.insert key v entries) := by
  refine orderedEntries_iff.2 fun e he => ?_
  rcases Entries.mem_insert he with rfl | he
  · exact hv
  · exact orderedEntries_iff.1 h e he

mutual

/-- Merging keeps maps in key order. -/
theorem Ordered.merge {base overlay : Value} (hb : base.Ordered) (ho : overlay.Ordered) :
    (base.merge overlay).Ordered := by
  cases overlay with
  | map upper =>
    match base, hb with
    | map (entry :: lower), hb =>
      simp only [Value.merge]
      exact ordered_mergeEntries hb.1 hb.2 ho.2
    | map [], _ => simpa only [Value.merge] using ho
    | null, _ | bool _, _ | integer _, _ | float _, _ | string _, _ | bytes _, _ | array _, _ =>
      simpa only [Value.merge] using ho
  | _ => simpa only [Value.merge] using ho

/-- Laying ordered entries over others keeps those in key order. -/
theorem ordered_mergeEntries {lower upper : List (String × Value)} (hs : Entries.Sorted lower)
    (hl : OrderedEntries lower) (hu : OrderedEntries upper) :
    (map (mergeEntries lower upper)).Ordered := by
  match upper, hu with
  | [], _ => exact ⟨hs, hl⟩
  | (key, v) :: upper, ⟨hv, hu⟩ =>
    simp only [mergeEntries]
    split
    · next old hold =>
      exact ordered_mergeEntries (hs.insert key _) (hl.insert key (Ordered.merge (hl.get? hold) hv)) hu
    · exact ordered_mergeEntries (hs.insert key _) (hl.insert key hv) hu

end

/-! ## Paths -/

/-- The value holds a map at the path. -/
def MapAt (v : Value) (path : List String) : Prop :=
  ∃ held, v.at? path = some held ∧ held.isMap = true

/-- The value holds something other than a map at the path. -/
def LeafAt (v : Value) (path : List String) : Prop :=
  ∃ held, v.at? path = some held ∧ held.isMap = false

/-- The value holds something other than a map above the path: at a part of it that is not all of
it. -/
def CutsAbove (v : Value) (path : List String) : Prop :=
  ∃ part, part ≠ path ∧ part <+: path ∧ v.LeafAt part

@[simp] theorem at?_nil (v : Value) : v.at? [] = some v := by
  cases v <;> simp [at?]

/-- A path into a map goes on in what its first key holds. -/
theorem at?_map_cons (entries : Entries Value) (key : String) (path : List String) :
    (map entries).at? (key :: path) = (Entries.get? key entries).bind fun v => v.at? path := by
  simp only [at?]
  cases Entries.get? key entries <;> rfl

/-- Nothing lies below a value that is no map. -/
theorem at?_cons_of_isMap_eq_false {v : Value} (h : v.isMap = false) (key : String)
    (path : List String) : v.at? (key :: path) = none := by
  cases v <;> simp_all [at?, isMap]

/-- A value that is no map cuts off every path into it. -/
theorem cutsAbove_of_isMap_eq_false {v : Value} (h : v.isMap = false) (key : String)
    (path : List String) : v.CutsAbove (key :: path) :=
  ⟨[], by simp, List.nil_prefix, v, at?_nil v, h⟩

/-- What is found below a key of a map is found in the value of that key. -/
theorem exists_at?_map_cons {p : Value → Prop} {entries : Entries Value} {key : String}
    {path : List String} :
    (∃ held, (map entries).at? (key :: path) = some held ∧ p held) ↔
      ∃ v, Entries.get? key entries = some v ∧ ∃ held, v.at? path = some held ∧ p held := by
  simp only [at?_map_cons, Option.bind_eq_some_iff]
  constructor
  · rintro ⟨held, ⟨v, hv, hat⟩, hheld⟩
    exact ⟨v, hv, held, hat, hheld⟩
  · rintro ⟨v, hv, held, hat, hheld⟩
    exact ⟨held, ⟨v, hv, hat⟩, hheld⟩

/-- A leaf below a key is a leaf of what the key holds. -/
theorem leafAt_map_cons {entries : Entries Value} {key : String} {path : List String} :
    (map entries).LeafAt (key :: path) ↔
      ∃ v, Entries.get? key entries = some v ∧ v.LeafAt path := exists_at?_map_cons

theorem mapAt_map_cons {entries : Entries Value} {key : String} {path : List String} :
    (map entries).MapAt (key :: path) ↔
      ∃ v, Entries.get? key entries = some v ∧ v.MapAt path := exists_at?_map_cons

/-- A map cuts a path where the value of the first key cuts the rest. -/
theorem cutsAbove_map_cons {entries : Entries Value} {key : String} {path : List String} :
    (map entries).CutsAbove (key :: path) ↔
      ∃ v, Entries.get? key entries = some v ∧ v.CutsAbove path := by
  constructor
  · rintro ⟨part, hne, hpart, hleaf⟩
    cases part with
    | nil => simp [LeafAt, isMap] at hleaf
    | cons k part =>
      obtain ⟨rfl, htail⟩ := List.cons_prefix_cons.1 hpart
      obtain ⟨v, hv, hleaf⟩ := leafAt_map_cons.1 hleaf
      exact ⟨v, hv, part, fun h => hne (by rw [h]), htail, hleaf⟩
  · rintro ⟨v, hv, part, hne, hpart, hleaf⟩
    exact ⟨key :: part, by simpa using hne, List.cons_prefix_cons.2 ⟨rfl, hpart⟩,
      leafAt_map_cons.2 ⟨v, hv, hleaf⟩⟩

/-- A map does not cut a path if it has nothing but maps at the non-empty parts above it. -/
theorem not_cutsAbove_iff {v : Value} (h : v.isMap = true) {path : List String} :
    ¬ v.CutsAbove path ↔
      ∀ part, part ≠ [] → part ≠ path → part <+: path → ¬ v.LeafAt part := by
  constructor
  · intro hcut part _ hne hpart hleaf
    exact hcut ⟨part, hne, hpart, hleaf⟩
  · rintro hall ⟨part, hne, hpart, hleaf⟩
    refine hall part ?_ hne hpart hleaf
    rintro rfl
    simp [LeafAt, h] at hleaf

/-- A map neither cuts off a path nor has a leaf at it where no leaf stands along the path. -/
theorem not_cutsAlong_iff {v : Value} (h : v.isMap = true) {path : List String}
    (hpath : path ≠ []) :
    ¬ v.CutsAbove path ∧ ¬ v.LeafAt path ↔
      ∀ part, part ≠ [] → part <+: path → ¬ v.LeafAt part := by
  rw [not_cutsAbove_iff h]
  constructor
  · rintro ⟨habove, hat⟩ part hne hpart
    by_cases heq : part = path
    · exact heq ▸ hat
    · exact habove part hne heq hpart
  · intro hall
    exact ⟨fun part hne _ hpart => hall part hne hpart, hall path hpath (List.prefix_refl path)⟩

/-! ## Two values -/

open Classical in
/-- What a merge holds at a path. -/
theorem at?_merge {base overlay : Value} (ho : overlay.Ordered) (path : List String) :
    (base.merge overlay).at? path =
      match overlay.at? path, base.at? path with
      | none, old => if overlay.CutsAbove path then none else old
      | some new, none => some new
      | some new, some old => some (old.merge new) := by
  induction path generalizing base overlay with
  | nil => simp
  | cons key path ih =>
    by_cases hmaps : base.isMap = false ∨ overlay.isMap = false
    · -- the overlay is all that is left, and the base has nothing to add
      rw [merge_eq_overlay hmaps]
      rcases hmaps with hbase | hover
      · rw [at?_cons_of_isMap_eq_false hbase]
        cases overlay.at? (key :: path) <;> simp
      · simp [at?_cons_of_isMap_eq_false hover, cutsAbove_of_isMap_eq_false hover]
    · simp only [not_or, Bool.not_eq_false] at hmaps
      obtain ⟨lower, rfl⟩ := exists_eq_map hmaps.1
      obtain ⟨upper, rfl⟩ := exists_eq_map hmaps.2
      obtain ⟨hu, hupper⟩ := ho
      rw [merge_map_map lower hu, at?_map_cons, get?_mergeEntries hu, at?_map_cons, at?_map_cons,
        cutsAbove_map_cons]
      -- only under a key of both maps does the merge go on
      cases hnew : Entries.get? key upper with
      | none => simp
      | some new =>
        cases Entries.get? key lower with
        | none => cases h : new.at? path <;> simp [h]
        | some old => simpa using ih (hupper.get? hnew)

/-- A scalar or sequence found in a merge is the overlay's, or it is the base's and the overlay has
nothing there and cuts nothing off. -/
theorem at?_merge_eq_leaf_iff {base overlay leaf : Value} (ho : overlay.Ordered)
    (hleaf : leaf.isMap = false) (path : List String) :
    (base.merge overlay).at? path = some leaf ↔
      overlay.at? path = some leaf ∨
        (overlay.at? path = none ∧ ¬ overlay.CutsAbove path) ∧ base.at? path = some leaf := by
  rw [at?_merge ho]
  cases overlay.at? path with
  | none => by_cases hcut : overlay.CutsAbove path <;> simp [hcut]
  | some new =>
    cases base.at? path with
    | none => simp
    | some old =>
      have hlaid : old.merge new = leaf ↔ new = leaf := by
        cases hnew : new.isMap with
        | false => rw [merge_eq_overlay (Or.inr hnew)]
        | true =>
          have hne {v : Value} (hv : v.isMap = true) : v ≠ leaf := by
            rintro rfl
            simp [hleaf] at hv
          simp [hne hnew, hne ((isMap_merge old new).trans hnew)]
      simp [hlaid]

/-- A merge holds a map where the overlay does, and where the base does and the overlay has nothing
but maps on the way. -/
theorem mapAt_merge_iff {base overlay : Value} (ho : overlay.Ordered) (path : List String) :
    (base.merge overlay).MapAt path ↔
      overlay.MapAt path ∨
        (¬ overlay.CutsAbove path ∧ ¬ overlay.LeafAt path) ∧ base.MapAt path := by
  simp only [MapAt, LeafAt, at?_merge ho]
  cases overlay.at? path with
  | none => by_cases hcut : overlay.CutsAbove path <;> simp [hcut]
  | some new => cases base.at? path <;> cases hnew : new.isMap <;> simp [hnew]

/-! ## Many values -/

/-- In a run of steps, each of which settles a question by itself or leaves it as it was, the last
step that settles it counts. -/
theorem foldl_settled_iff {α β : Type} (Settled : β → Prop) {step : β → α → β}
    {settles leaves : α → Prop} {items : List α}
    (h : ∀ item ∈ items, ∀ b, Settled (step b item) ↔ settles item ∨ leaves item ∧ Settled b)
    (b : β) :
    Settled (items.foldl step b) ↔
      (∃ i : Fin items.length, settles (items.get i) ∧
        ∀ j : Fin items.length, i < j → leaves (items.get j)) ∨
      (∀ i : Fin items.length, leaves (items.get i)) ∧ Settled b := by
  induction items generalizing b with
  | nil => simp
  | cons item items ih =>
    rw [List.foldl_cons, ih (fun x hx => h x (List.mem_cons_of_mem _ hx)),
      h item List.mem_cons_self]
    simp only [List.length_cons, Fin.exists_fin_succ, Fin.forall_fin_succ, List.get_eq_getElem,
      Fin.val_zero, Fin.val_succ, List.getElem_cons_zero, List.getElem_cons_succ,
      Fin.succ_lt_succ_iff, Fin.succ_pos, Fin.not_lt_zero, forall_const, true_and, false_imp_iff]
    -- the first step counts only if no later one settles
    constructor
    · rintro (hlater | ⟨hall, hitem | ⟨hleaves, hb⟩⟩)
      · exact Or.inl (Or.inr hlater)
      · exact Or.inl (Or.inl ⟨hitem, hall⟩)
      · exact Or.inr ⟨⟨hleaves, hall⟩, hb⟩
    · rintro ((⟨hitem, hall⟩ | hlater) | ⟨⟨hleaves, hall⟩, hb⟩)
      · exact Or.inr ⟨hall, Or.inl hitem⟩
      · exact Or.inl hlater
      · exact Or.inr ⟨hall, Or.inr ⟨hleaves, hb⟩⟩

/-- Maps merge to a map. -/
theorem isMap_mergeAll {values : List Value} (hv : ∀ v ∈ values, v.isMap = true) :
    (mergeAll values).isMap = true :=
  List.foldlRecOn (motive := fun v => v.isMap = true) values merge rfl fun base _ v hmem =>
    (isMap_merge base v).trans (hv v hmem)

/-- Ordered values merge to an ordered one. -/
theorem ordered_mergeAll {values : List Value} (hv : ∀ v ∈ values, v.Ordered) :
    (mergeAll values).Ordered :=
  List.foldlRecOn (motive := Ordered) values merge ⟨Entries.sorted_nil, trivial⟩
    fun _ hbase v hmem => hbase.merge (hv v hmem)

/-- A path below the top of the empty map leads nowhere. -/
theorem at?_empty {path : List String} (h : path ≠ []) : empty.at? path = none := by
  cases path with
  | nil => exact absurd rfl h
  | cons key path => rfl

/-- Among maps merged in order, the last one that holds or cuts anything at a path decides whether a
scalar or sequence is found there. -/
theorem at?_mergeAll_eq_leaf_iff {values : List Value} (hv : ∀ v ∈ values, v.Ordered)
    {path : List String} (hpath : path ≠ []) {leaf : Value} (hleaf : leaf.isMap = false) :
    (mergeAll values).at? path = some leaf ↔
      ∃ i : Fin values.length, (values.get i).at? path = some leaf ∧
        ∀ j : Fin values.length, i < j →
          (values.get j).at? path = none ∧ ¬ (values.get j).CutsAbove path := by
  have hstep : ∀ v ∈ values, ∀ base : Value, (base.merge v).at? path = some leaf ↔
      v.at? path = some leaf ∨
        (v.at? path = none ∧ ¬ v.CutsAbove path) ∧ base.at? path = some leaf :=
    fun v hmem base => at?_merge_eq_leaf_iff (hv v hmem) hleaf path
  refine (foldl_settled_iff (fun v => v.at? path = some leaf) hstep empty).trans ?_
  simp [at?_empty hpath]

/-- Among maps merged in order, the last one with a map or a cut at a path decides whether a map is
found there. -/
theorem mapAt_mergeAll_iff {values : List Value} (hv : ∀ v ∈ values, v.Ordered)
    {path : List String} (hpath : path ≠ []) :
    (mergeAll values).MapAt path ↔
      ∃ i : Fin values.length, (values.get i).MapAt path ∧
        ∀ j : Fin values.length, i < j →
          ¬ (values.get j).CutsAbove path ∧ ¬ (values.get j).LeafAt path := by
  have hstep : ∀ v ∈ values, ∀ base : Value, (base.merge v).MapAt path ↔
      v.MapAt path ∨ (¬ v.CutsAbove path ∧ ¬ v.LeafAt path) ∧ base.MapAt path :=
    fun v hmem base => mapAt_merge_iff (hv v hmem) path
  refine (foldl_settled_iff (fun v => v.MapAt path) hstep empty).trans ?_
  simp [MapAt, at?_empty hpath]

end LayeredConfig.Value
