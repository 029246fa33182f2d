import LayeredConfig.Descriptor.Convert
import LayeredConfig.Proofs.Entries
import LayeredConfig.Proofs.Value.Merge
import Mathlib.Data.List.Forall2

/-!
# Values that are alike

`Value.same` goes through two values side by side. `alike_iff_step` says what it finds one step further
down, and `alike_iff_within` what it comes to in the end: two values are alike if they have the same
locations inside, of one kind each, and scalars that are alike.
-/

namespace LayeredConfig

/-! ## Lists and entries side by side -/

/-- Two options are related where both are there or neither is, and what is there is related. -/
theorem rel_iff {α : Type} {R : α → α → Prop} {o p : Option α} : Option.Rel R o p ↔
    o.isSome = p.isSome ∧ ∀ v w, o = some v → p = some w → R v w := by
  constructor
  · rintro (hvw | _)
    · exact ⟨rfl, by rintro _ _ ⟨⟩ ⟨⟩; exact hvw⟩
    · exact ⟨rfl, nofun⟩
  · rintro ⟨hsome, hvalues⟩
    cases o with
    | none => cases p <;> first | exact .none | cases hsome
    | some v =>
      cases p with
      | none => cases hsome
      | some w => exact .some (hvalues v w rfl rfl)

/-- Two lists are related one by one where they are so at every place. -/
theorem forall₂_iff_getElem? {α : Type} {R : α → α → Prop} {as bs : List α} :
    List.Forall₂ R as bs ↔ ∀ i : Nat, Option.Rel R as[i]? bs[i]? := by
  induction as generalizing bs with
  | nil =>
    cases bs with
    | nil => exact iff_of_true .nil fun _ => .none
    | cons b bs => exact iff_of_false nofun fun h => nomatch h 0
  | cons a as ih =>
    cases bs with
    | nil => exact iff_of_false nofun fun h => nomatch h 0
    | cons b bs =>
      rw [List.forall₂_cons, ih]
      constructor
      · rintro ⟨hab, hrest⟩ (_ | i)
        · exact .some hab
        · exact hrest i
      · intro h
        refine ⟨?_, fun i => h (i + 1)⟩
        cases h 0 with
        | some hab => exact hab

namespace Entries

variable {α : Type} {R : α → α → Prop} {es fs : Entries α}

/-- Entries side by side, under the same keys. -/
def Side (R : α → α → Prop) (e f : String × α) : Prop := e.1 = f.1 ∧ R e.2 f.2

/-- Entries that are related side by side have the same keys. -/
theorem keys_eq_of_forall₂ (h : List.Forall₂ (Side R) es fs) : es.keys = fs.keys := by
  induction h with
  | nil => rfl
  | cons he _ ih => exact congrArg₂ List.cons he.1 ih

/-- Entries that are related side by side are related under every key. -/
theorem rel_get?_of_forall₂ (h : List.Forall₂ (Side R) es fs) (key : String) :
    Option.Rel R (get? key es) (get? key fs) := by
  induction h with
  | nil => exact .none
  | @cons e f _ _ he _ ih =>
    obtain ⟨j, v⟩ := e
    obtain ⟨k, w⟩ := f
    obtain ⟨rfl, hvw⟩ : j = k ∧ R v w := he
    simp only [get?]
    split
    · exact .some hvw
    · exact ih

/-- Entries in key order have the same keys if they have them in any order. -/
theorem keys_eq_iff (he : es.Sorted) (hf : fs.Sorted) :
    es.keys = fs.keys ↔ ∀ key, key ∈ es.keys ↔ key ∈ fs.keys := by
  refine ⟨fun h key => by rw [h], fun h => ?_⟩
  have hperm := (List.perm_ext_iff_of_nodup he.nodup_keys hf.nodup_keys).2 h
  refine hperm.eq_of_pairwise ?_ (List.pairwise_map.2 he) (List.pairwise_map.2 hf)
  exact fun a b _ _ hab hba => absurd (String.lt_trans hab hba) (String.lt_irrefl a)

/-- In order, entries are related side by side where the keys are the same and the values are related. -/
theorem forall₂_iff (he : es.Sorted) (hf : fs.Sorted) : List.Forall₂ (Side R) es fs ↔
    es.keys = fs.keys ∧ ∀ key v w, get? key es = some v → get? key fs = some w → R v w := by
  refine ⟨fun h => ⟨keys_eq_of_forall₂ h, fun key => (rel_iff.1 (rel_get?_of_forall₂ h key)).2⟩, ?_⟩
  rintro ⟨hkeys, hvalues⟩
  have hlength : es.length = fs.length := by simpa [keys] using congrArg List.length hkeys
  refine List.forall₂_iff_get.2 ⟨hlength, fun i hi hi' => ?_⟩
  have hkey : es[i].1 = fs[i].1 := by simpa [keys, hi, hi'] using congrArg (·[i]?) hkeys
  refine ⟨hkey, hvalues es[i].1 _ _ (get?_of_mem he (List.getElem_mem hi)) ?_⟩
  rw [hkey]
  exact get?_of_mem hf (List.getElem_mem hi')

/-- In order, entries are related side by side where they are so under every key. -/
theorem forall₂_iff_get? (he : es.Sorted) (hf : fs.Sorted) :
    List.Forall₂ (Side R) es fs ↔ ∀ key, Option.Rel R (get? key es) (get? key fs) := by
  refine ⟨rel_get?_of_forall₂, fun h => (forall₂_iff he hf).2 ⟨(keys_eq_iff he hf).2 fun key => ?_,
    fun key => (rel_iff.1 (h key)).2⟩⟩
  rw [← isSome_get?_iff, ← isSome_get?_iff, (rel_iff.1 (h key)).1]

end Entries

namespace Value

/-! ## Alike one by one -/

/-- The values are alike. -/
def Alike (a b : Value) : Prop := a.same b = true

/-- The test for items goes one by one. -/
theorem sameItems_iff {as bs : List Value} : sameItems as bs = true ↔ List.Forall₂ Alike as bs := by
  induction as generalizing bs with
  | nil => cases bs <;> simp [sameItems]
  | cons a as ih => cases bs <;> simp [sameItems, Alike, ih]

theorem sameEntries_iff {es fs : Entries Value} :
    sameEntries es fs = true ↔ List.Forall₂ (Entries.Side Alike) es fs := by
  induction es generalizing fs with
  | nil => cases fs <;> simp [sameEntries]
  | cons e es ih => cases fs <;> simp [sameEntries, Entries.Side, Alike, ih, and_assoc]

theorem alike_array_iff {as bs : List Value} :
    (array as).Alike (array bs) ↔ List.Forall₂ Alike as bs := sameItems_iff

theorem alike_map_iff {es fs : Entries Value} :
    (map es).Alike (map fs) ↔ List.Forall₂ (Entries.Side Alike) es fs := sameEntries_iff

/-- Alike values are of one kind. -/
theorem Alike.kind_eq {a b : Value} (h : a.Alike b) : a.kind = b.kind := by
  cases a <;> cases b <;> first | rfl | cases h

/-! ## Locations inside a value -/

/-- Whether the value is a sequence or a map. -/
def isContainer : Value → Bool
  | array _ => true
  | map _ => true
  | _ => false

/-- The part of a value that a step leads to. -/
def step? : Value → Step → Option Value
  | array items, .index i => items[i]?
  | map entries, .key key => Entries.get? key entries
  | _, _ => none

/-- The part of a value at a location. -/
def within? : Value → List Step → Option Value
  | v, [] => some v
  | v, step :: location => (v.step? step).bind fun part => part.within? location

section

variable {a b v : Value} {step : Step}

/-- There is no step into a value that holds no others. -/
theorem step?_of_not_container (h : v.isContainer = false) : v.step? step = none := by
  cases v <;> first | rfl | cases h

/-- What a value in order holds is in order. -/
theorem Ordered.part (h : a.Ordered) (hstep : a.step? step = some v) : v.Ordered := by
  unfold step? at hstep
  split at hstep
  · exact orderedItems_iff.1 h v (List.mem_of_getElem? hstep)
  · exact h.2.get? hstep
  · cases hstep

/-- A step leads to a smaller value. -/
theorem sizeOf_lt_of_step (h : a.step? step = some v) : sizeOf v < sizeOf a := by
  unfold step? at h
  split at h
  · have hlt := List.sizeOf_lt_of_mem (List.mem_of_getElem? h)
    simp only [array.sizeOf_spec]
    omega
  · have hlt := List.sizeOf_lt_of_mem (Entries.mem_of_get? h)
    simp only [map.sizeOf_spec, Prod.mk.sizeOf_spec] at hlt ⊢
    omega
  · cases h

/-- Containers are alike if they are of one kind and alike at every step. -/
theorem alike_iff_step (ha : a.Ordered) (hb : b.Ordered) (h : a.isContainer = true) :
    a.Alike b ↔ a.kind = b.kind ∧ ∀ step, Option.Rel Alike (a.step? step) (b.step? step) := by
  cases a with
  | array as =>
    cases b with
    | array bs =>
      rw [alike_array_iff, forall₂_iff_getElem?]
      refine ⟨fun h => ⟨rfl, fun step => ?_⟩, fun h i => h.2 (.index i)⟩
      cases step with
      | index i => exact h i
      | key key => exact .none
    | _ => exact iff_of_false nofun fun h => absurd h.1 (by simp [kind])
  | map es =>
    cases b with
    | map fs =>
      rw [alike_map_iff, Entries.forall₂_iff_get? ha.1 hb.1]
      refine ⟨fun h => ⟨rfl, fun step => ?_⟩, fun h key => h.2 (.key key)⟩
      cases step with
      | key key => exact h key
      | index i => exact .none
    | _ => exact iff_of_false nofun fun h => absurd h.1 (by simp [kind])
  | _ => cases h

/-- Two parts at one location: of one kind, and alike if they are scalars. -/
structure Matches (a b : Value) : Prop where
  kind : a.kind = b.kind
  scalar : a.isContainer = false → a.Alike b

/-- Alike values match at every location, by induction on the way there. -/
theorem rel_within_of_alike (ha : a.Ordered) (hb : b.Ordered) (h : a.Alike b) (location : List Step) :
    Option.Rel Matches (a.within? location) (b.within? location) := by
  induction location generalizing a b with
  | nil => exact .some ⟨h.kind_eq, fun _ => h⟩
  | cons step location ih =>
    simp only [within?]
    cases hcontainer : a.isContainer with
    | false =>
      have hb : b.isContainer = false := by
        cases a <;> cases b <;> first | rfl | cases h | cases hcontainer
      rw [step?_of_not_container hcontainer, step?_of_not_container hb]
      exact .none
    | true =>
      have hrel := ((alike_iff_step ha hb hcontainer).1 h).2 step
      generalize hu : a.step? step = u at hrel
      generalize hv : b.step? step = v at hrel
      cases hrel with
      | none => exact .none
      | some huv => exact ih (ha.part hu) (hb.part hv) huv

/-- What matches at every location is alike, from the scalars up. -/
theorem alike_of_rel_within {a b : Value} (ha : a.Ordered) (hb : b.Ordered)
    (h : ∀ location, Option.Rel Matches (a.within? location) (b.within? location)) : a.Alike b := by
  cases h [] with
  | some hroot =>
    cases hcontainer : a.isContainer with
    | false => exact hroot.scalar hcontainer
    | true =>
      refine (alike_iff_step ha hb hcontainer).2 ⟨hroot.kind, fun step => rel_iff.2 ⟨?_, fun u v hu hv => ?_⟩⟩
      · simpa [within?] using (rel_iff.1 (h [step])).1
      · refine alike_of_rel_within (ha.part hu) (hb.part hv) fun location => ?_
        simpa [within?, hu, hv] using h (step :: location)
termination_by sizeOf a
decreasing_by exact sizeOf_lt_of_step hu

/-- Values are alike where they match at every location. -/
theorem alike_iff_within (ha : a.Ordered) (hb : b.Ordered) : a.Alike b ↔
    ∀ location, Option.Rel Matches (a.within? location) (b.within? location) :=
  ⟨rel_within_of_alike ha hb, alike_of_rel_within ha hb⟩

end

end Value

end LayeredConfig
