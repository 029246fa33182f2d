import LayeredConfig.Descriptor.Convert
import Mathlib.Data.List.Forall2
import Mathlib.Data.List.Nodup

/-!
# One level of a conversion

A conversion takes a value apart where the descriptor does, and is a matter of the value alone elsewhere
(`Descriptor.goesOn`); `Descriptor.descent` is the induction along the parts. For each of the three cases
there is one lemma that says when the conversion succeeds and with what: `convert_leaf_eq_ok_iff`,
`convert_list_eq_ok_iff` and `convert_dict_eq_ok_iff`.

The entries of a map are used up key by key while another map is built. The lemmas on `convertKeys` say
what both hold afterwards, and `convert_dict_eq_ok_iff` needs neither: a declared key holds what
`settle` gives for it, and every other key what `imageOf` makes of its value.
-/

namespace LayeredConfig

/-- Without a value, there is nothing to remove. -/
theorem Entries.erase_of_get?_eq_none {α : Type} {key : String} {es : Entries α}
    (h : get? key es = none) : erase key es = es := by
  induction es with
  | nil => rfl
  | cons e es ih =>
    obtain ⟨k, v⟩ := e
    by_cases hkey : key = k
    · simp [get?, hkey] at h
    · simp only [get?, hkey, if_false] at h
      simp only [erase, hkey, if_false, ih h]

/-- What a key may hold that the value does not have. -/
def Presence.Fills : Presence → Option Value → Prop
  | .required, _ => False
  | .optional, found => found = none
  | .default v, found => found = some v

namespace Descriptor

/-! ## Dicts in a descriptor -/

/-- The descriptors inside a descriptor, itself included. -/
inductive Part : Descriptor → Descriptor → Prop where
  | whole {d} : Part d d
  | item {item e} : Part item e → Part (list item) e
  | key {keys unknown name d presence e} : (name, d, presence) ∈ keys → Part d e →
      Part (dict keys unknown) e

/-- Every dict in the descriptor, at any depth, is such. -/
def EveryDict (P : List (String × Descriptor × Presence) → Option KeyMapper → Prop)
    (d : Descriptor) : Prop :=
  ∀ keys unknown, Part d (dict keys unknown) → P keys unknown

section

variable {P : List (String × Descriptor × Presence) → Option KeyMapper → Prop} {d : Descriptor}
  {keys : List (String × Descriptor × Presence)} {unknown : Option KeyMapper}

@[simp] theorem everyDict_list_iff : EveryDict P (list d) ↔ EveryDict P d := by
  constructor
  · exact fun h keys unknown hpart => h keys unknown (.item hpart)
  · intro h keys unknown hpart
    cases hpart with
    | item hpart => exact h keys unknown hpart

@[simp] theorem everyDict_dict_iff : EveryDict P (dict keys unknown) ↔
    P keys unknown ∧ ∀ key ∈ keys, EveryDict P key.2.1 := by
  constructor
  · exact fun h => ⟨h keys unknown .whole,
      fun _ hmem keys' unknown' hpart => h keys' unknown' (.key hmem hpart)⟩
  · rintro ⟨hhead, hkeys⟩ keys' unknown' hpart
    cases hpart with
    | whole => exact hhead
    | key hmem hpart => exact hkeys _ hmem keys' unknown' hpart

/-- There is no dict in a descriptor of scalars. -/
@[simp] theorem everyDict_scalar (hlist : ∀ item, d ≠ list item)
    (hdict : ∀ keys unknown, d ≠ dict keys unknown) : EveryDict P d := by
  intro keys unknown hpart
  cases hpart with
  | whole => exact absurd rfl (hdict keys unknown)
  | item => exact absurd rfl (hlist _)
  | key => exact absurd rfl (hdict _ _)

theorem EveryDict.item (h : EveryDict P (list d)) : EveryDict P d := everyDict_list_iff.1 h

theorem EveryDict.head (h : EveryDict P (dict keys unknown)) : P keys unknown :=
  (everyDict_dict_iff.1 h).1

/-- What holds of every dict in a descriptor holds of every dict under a key of it. -/
theorem EveryDict.key (h : EveryDict P (dict keys unknown)) {name : String} {presence : Presence}
    (hmem : (name, d, presence) ∈ keys) : EveryDict P d :=
  (everyDict_dict_iff.1 h).2 _ hmem

end

/-- The names of the declared keys. -/
def names (keys : List (String × Descriptor × Presence)) : List String := keys.map Prod.fst

theorem names_cons (key : String × Descriptor × Presence)
    (keys : List (String × Descriptor × Presence)) : names (key :: keys) = key.1 :: names keys := rfl

/-- No dict declares two keys of the same name. -/
def Distinct : Descriptor → Prop := EveryDict fun keys _ => (names keys).Nodup

theorem mem_names {keys : List (String × Descriptor × Presence)} {name : String} {d : Descriptor}
    {presence : Presence} (h : (name, d, presence) ∈ keys) : name ∈ names keys :=
  List.mem_map_of_mem h

/-- Removing a key leaves what is under the names of the others. -/
theorem get?_erase_of_mem_names {keys : List (String × Descriptor × Presence)} {name other : String}
    (hname : name ∉ names keys) (hother : other ∈ names keys) (entries : Entries Value) :
    Entries.get? other (Entries.erase name entries) = Entries.get? other entries := by
  refine Entries.get?_erase_of_ne ?_ entries
  rintro rfl
  exact hname hother

/-! ## The descent -/

/-- Whether the conversion of a value goes on with its parts. -/
def goesOn : Descriptor → Value → Bool
  | list _, .array _ => true
  | dict _ _, .map _ => true
  | _, _ => false

section

variable {motive : Descriptor → Value → Prop}
  (leaf : ∀ d v, d.goesOn v = false → motive d v)
  (list : ∀ item items, (∀ v ∈ items, motive item v) → motive (.list item) (.array items))
  (dict : ∀ keys unknown entries, (∀ name d presence v, (name, d, presence) ∈ keys →
    Entries.get? name entries = some v → motive d v) → motive (.dict keys unknown) (.map entries))
include leaf list dict

/-- Induction along the parts of a value that a conversion goes on with. -/
theorem descent : ∀ d v, motive d v
  | .list item, v => by
    cases v with
    | array items => exact list item items fun v _ => descent item v
    | _ => exact leaf _ _ rfl
  | .dict keys unknown, v => by
    cases v with
    | map entries => exact dict keys unknown entries fun name d presence v hmem _ => descent d v
    | _ => exact leaf _ _ rfl
  | .any, v | .boolean, v | .integer, v | .float, v | .string, v | .ipv4, v => leaf _ v rfl
termination_by d => sizeOf d
decreasing_by
  · simp
  · have hlt := List.sizeOf_lt_of_mem hmem
    simp only [Prod.mk.sizeOf_spec, Descriptor.dict.sizeOf_spec] at hlt ⊢
    omega

end

variable {d : Descriptor} {v w : Value}

/-! ## Leaves and lists -/

/-- A value without parts to go on with is converted by itself. -/
theorem convert_of_leaf (h : d.goesOn v = false) : d.convert v = d.convertScalar v := by
  unfold convert
  split
  · cases h
  · cases h
  · rfl

/-- Where a descriptor does not go into a value, its rule for scalars decides. -/
theorem convert_leaf_eq_ok_iff (h : d.goesOn v = false) :
    d.convert v = .ok w ↔ d.scalar? v = some w := by
  rw [convert_of_leaf h, convertScalar]
  cases d.scalar? v <;> simp

/-- A list converts item by item, and all of them must; where an item stands has no part in its result. -/
theorem convertItems_eq_ok_iff {convert : Value → Except ValidationError Value} (place : Nat)
    {items results : List Value} : convertItems convert place items = .ok results ↔
      List.Forall₂ (fun v w => convert v = .ok w) items results := by
  induction items generalizing place results with
  | nil => simp [convertItems, eq_comm]
  | cons v items ih =>
    rw [List.forall₂_cons_left_iff]
    simp only [convertItems]
    cases convert v with
    | error e => simp
    | ok w =>
      cases hrest : convertItems convert (place + 1) items with
      | error e => simp [← ih (place + 1), hrest]
      | ok ws => simp [← ih (place + 1), hrest, eq_comm]

/-- An array converts to the array of its converted items. -/
theorem convert_list_eq_ok_iff {item : Descriptor} {items : List Value} :
    (list item).convert (.array items) = .ok w ↔
      ∃ results, w = .array results ∧
        List.Forall₂ (fun v w => item.convert v = .ok w) items results := by
  simp only [convert, ← convertItems_eq_ok_iff 0]
  cases convertItems item.convert 0 items <;> simp [eq_comm]

/-- A sequence can be converted if and only if each item can. -/
theorem exists_convert_list_iff {item : Descriptor} {items : List Value} :
    (∃ w, (list item).convert (.array items) = .ok w) ↔
      ∀ v ∈ items, ∃ w, item.convert v = .ok w := by
  simp only [convert_list_eq_ok_iff]
  induction items with
  | nil => simp
  | cons v items ih =>
    rw [List.forall_mem_cons, ← ih]
    simp [List.forall₂_cons_left_iff]

/-! ## Undeclared keys -/

/-- What the value of an undeclared key becomes. -/
def imageOf (unknown : Option KeyMapper) (name : String) (v : Value) : Value :=
  match unknown with
  | some mapper => mapper name v
  | none => v

theorem sorted_addUnknown {unknown : Option KeyMapper} {result : Entries Value}
    (h : result.Sorted) (rest : Entries Value) : (addUnknown unknown result rest).Sorted := by
  induction rest generalizing result with
  | nil => exact h
  | cons entry rest ih => exact ih (h.insert entry.1 _)

/-- Under each name stands the image of what was undeclared there, and elsewhere what stood there before. -/
theorem get?_addUnknown {unknown : Option KeyMapper} {rest : Entries Value} (hrest : rest.Sorted)
    (result : Entries Value) (name : String) :
    Entries.get? name (addUnknown unknown result rest) =
      ((Entries.get? name rest).map (imageOf unknown name)).or (Entries.get? name result) := by
  induction rest generalizing result with
  | nil => rfl
  | cons entry rest ih =>
    obtain ⟨key, v⟩ := entry
    obtain ⟨hbefore, hsorted⟩ := Entries.sorted_cons.1 hrest
    have hstep : addUnknown unknown result ((key, v) :: rest) =
        addUnknown unknown (Entries.insert key (imageOf unknown key v) result) rest := rfl
    rw [hstep, ih hsorted, Entries.get?]
    by_cases hname : name = key
    · -- no later entry has the same key
      subst hname
      simp [Entries.get?_eq_none_of_lt hbefore]
    · simp [hname, Entries.get?_insert_of_ne hname]

/-! ## Declared keys -/

/-- What a declared key holds in the result, by what it holds in the value: a value is converted, and an
absent one is filled in. -/
def settle (name : String) (d : Descriptor) (presence : Presence) :
    Option Value → Except ValidationError (Option Value)
  | some v => match d.convert v with
    | .error e => .error (e.below (.key name))
    | .ok w => .ok (some w)
  | none => match presence with
    | .required => .error (.missingKey [.key name])
    | .optional => .ok none
    | .default v => .ok (some v)

/-- A key that is there settles to its converted value. -/
theorem settle_some_eq_ok_iff {name : String} {presence : Presence} {found : Option Value} :
    settle name d presence (some v) = .ok found ↔ ∃ w, d.convert v = .ok w ∧ found = some w := by
  simp only [settle]
  cases d.convert v <;> simp [eq_comm]

/-- A key that is not there settles to what its presence fills in. -/
theorem settle_none_eq_ok_iff {name : String} {presence : Presence} {found : Option Value} :
    settle name d presence none = .ok found ↔ presence.Fills found := by
  cases presence <;> simp [settle, Presence.Fills, eq_comm]

/-- Sets the value of a key, if there is one to set. -/
def put (name : String) (found : Option Value) (result : Entries Value) : Entries Value :=
  match found with
  | some w => Entries.insert name w result
  | none => result

theorem sorted_put {result : Entries Value} (h : result.Sorted) (name : String)
    (found : Option Value) : (put name found result).Sorted := by
  cases found with
  | none => exact h
  | some w => exact h.insert name w

/-- Putting a key leaves the others as they were. -/
theorem get?_put_of_ne {name other : String} (h : other ≠ name) (found : Option Value)
    (result : Entries Value) :
    Entries.get? other (put name found result) = Entries.get? other result := by
  cases found with
  | none => rfl
  | some w => exact Entries.get?_insert_of_ne h w result

/-- Under a name that was free stands what was put there, if anything was. -/
theorem get?_put_self {name : String} {result : Entries Value} (h : Entries.get? name result = none)
    (found : Option Value) : Entries.get? name (put name found result) = found := by
  cases found with
  | none => exact h
  | some w => exact Entries.get?_insert_self name w result

variable {keys : List (String × Descriptor × Presence)} {unknown : Option KeyMapper}
  {entries result rest out : Entries Value}

/-- A declared key is settled, removed from the value and set in the result. -/
theorem convertKeys_cons (name : String) (d : Descriptor) (presence : Presence) :
    convertKeys ((name, d, presence) :: keys) entries result =
      match settle name d presence (Entries.get? name entries) with
      | .error e => .error e
      | .ok found => convertKeys keys (Entries.erase name entries) (put name found result) := by
  simp only [convertKeys]
  cases hget : Entries.get? name entries with
  | some v => cases hconvert : d.convert v <;> simp [settle, hconvert, put]
  | none =>
    rw [Entries.erase_of_get?_eq_none hget]
    cases presence <;> rfl

/-- The declared keys are used up, and the result holds what they settle to. -/
structure Taken (keys : List (String × Descriptor × Presence))
    (entries result rest out : Entries Value) : Prop where
  sortedRest : rest.Sorted
  sortedOut : out.Sorted
  left : ∀ name, Entries.get? name rest =
    if name ∈ names keys then none else Entries.get? name entries
  kept : ∀ name, name ∉ names keys → Entries.get? name out = Entries.get? name result
  settled : ∀ name d presence, (name, d, presence) ∈ keys →
    settle name d presence (Entries.get? name entries) = .ok (Entries.get? name out)

/-- The declared keys, one after another, take their values out of the entries and put what they settle to:
by induction over the declarations, whose names are apart. -/
theorem taken_of_convertKeys (hkeys : (names keys).Nodup) (hentries : entries.Sorted)
    (hresult : result.Sorted) (hfresh : ∀ name ∈ names keys, Entries.get? name result = none)
    (h : convertKeys keys entries result = .ok (rest, out)) : Taken keys entries result rest out := by
  induction keys generalizing entries result with
  | nil =>
    cases h
    exact ⟨hentries, hresult, fun _ => rfl, fun _ _ => rfl, nofun⟩
  | cons key keys ih =>
    obtain ⟨name, d, presence⟩ := key
    obtain ⟨hname, hkeys⟩ : name ∉ names keys ∧ (names keys).Nodup := List.nodup_cons.1 hkeys
    rw [convertKeys_cons] at h
    cases hsettle : settle name d presence (Entries.get? name entries) with
    | error e => simp [hsettle] at h
    | ok found =>
      rw [hsettle] at h
      have hne {other : String} (hother : other ∈ names keys) : other ≠ name :=
        fun heq => hname (heq ▸ hother)
      -- the later keys start from the entries without this one, and with it in the result
      have taken := ih hkeys (hentries.erase name) (sorted_put hresult name found)
        (fun other hother => by
          rw [get?_put_of_ne (hne hother)]
          exact hfresh other (List.mem_cons_of_mem _ hother)) h
      refine ⟨taken.sortedRest, taken.sortedOut, fun other => ?_, fun other hother => ?_, ?_⟩
      · rw [taken.left, Entries.get?_erase hentries]
        by_cases hother : other = name <;> simp [names_cons, hother]
      · rw [names_cons, List.mem_cons, not_or] at hother
        rw [taken.kept other hother.2, get?_put_of_ne hother.1]
      · intro other d' presence' hmem
        rcases List.mem_cons.1 hmem with heq | hmem
        · cases heq
          rw [taken.kept name hname, get?_put_self (hfresh name List.mem_cons_self), hsettle]
        · rw [← taken.settled other d' presence' hmem, get?_erase_of_mem_names hname (mem_names hmem)]

/-- The declared keys can be converted if and only if each settles. -/
theorem exists_convertKeys_iff (hkeys : (names keys).Nodup) (result : Entries Value) :
    (∃ pair, convertKeys keys entries result = .ok pair) ↔
      ∀ name d presence, (name, d, presence) ∈ keys →
        ∃ found, settle name d presence (Entries.get? name entries) = .ok found := by
  induction keys generalizing entries result with
  | nil => simp [convertKeys]
  | cons key keys ih =>
    obtain ⟨name, d, presence⟩ := key
    obtain ⟨hname, hkeys⟩ : name ∉ names keys ∧ (names keys).Nodup := List.nodup_cons.1 hkeys
    have hget {other : String} {d' : Descriptor} {presence' : Presence}
        (hmem : (other, d', presence') ∈ keys) :
        Entries.get? other (Entries.erase name entries) = Entries.get? other entries :=
      get?_erase_of_mem_names hname (mem_names hmem) entries
    rw [convertKeys_cons]
    cases hsettle : settle name d presence (Entries.get? name entries) with
    | error e =>
      refine iff_of_false (by simp) fun hall => ?_
      obtain ⟨found, hfound⟩ := hall name d presence List.mem_cons_self
      cases hsettle.symm.trans hfound
    | ok found =>
      refine (ih hkeys _).trans ⟨?_, ?_⟩
      · intro hall other d' presence' hmem
        rcases List.mem_cons.1 hmem with heq | hmem
        · cases heq
          exact ⟨found, hsettle⟩
        · rw [← hget hmem]
          exact hall other d' presence' hmem
      · intro hall other d' presence' hmem
        rw [hget hmem]
        exact hall other d' presence' (List.mem_cons_of_mem _ hmem)

/-- A dict takes a map, and gives a map in which each declared key holds what it settles to and every
other key what its value becomes. -/
theorem convert_dict_eq_ok_iff (hkeys : (names keys).Nodup) (hentries : entries.Sorted) :
    (dict keys unknown).convert (.map entries) = .ok w ↔
      ∃ results : Entries Value, w = .map results ∧ results.Sorted ∧
        (∀ name d presence, (name, d, presence) ∈ keys →
          settle name d presence (Entries.get? name entries) = .ok (Entries.get? name results)) ∧
        ∀ name, name ∉ names keys →
          Entries.get? name results = (Entries.get? name entries).map (imageOf unknown name) := by
  have taken {rest out : Entries Value} (h : convertKeys keys entries [] = .ok (rest, out)) :=
    taken_of_convertKeys hkeys hentries Entries.sorted_nil (fun _ _ => rfl) h
  constructor
  · intro h
    simp only [convert] at h
    cases hconvert : convertKeys keys entries [] with
    | error e => simp [hconvert] at h
    | ok pair =>
      obtain ⟨rest, out⟩ := pair
      rw [hconvert] at h
      have htaken := taken hconvert
      refine ⟨_, (Except.ok.inj h).symm, sorted_addUnknown htaken.sortedOut rest,
        fun name d presence hmem => ?_, fun name hname => ?_⟩
      · rw [get?_addUnknown htaken.sortedRest, htaken.left, if_pos (mem_names hmem)]
        exact htaken.settled name d presence hmem
      · rw [get?_addUnknown htaken.sortedRest, htaken.left, if_neg hname, htaken.kept name hname]
        simp
  · rintro ⟨results, rfl, hsorted, hsettled, hothers⟩
    obtain ⟨⟨rest, out⟩, hconvert⟩ := (exists_convertKeys_iff hkeys []).2
      fun name d presence hmem => ⟨_, hsettled name d presence hmem⟩
    have htaken := taken hconvert
    simp only [convert, hconvert]
    -- the two maps have the same view
    refine congrArg (fun entries => Except.ok (Value.map entries)) (Entries.ext_of_sorted
      (sorted_addUnknown htaken.sortedOut rest) hsorted fun name => ?_)
    rw [get?_addUnknown htaken.sortedRest, htaken.left]
    by_cases hname : name ∈ names keys
    · obtain ⟨⟨name, d, presence⟩, hmem, rfl⟩ := List.mem_map.1 hname
      rw [if_pos hname, Option.map_none, Option.none_or]
      exact Except.ok.inj
        ((htaken.settled name d presence hmem).symm.trans (hsettled name d presence hmem))
    · rw [if_neg hname, htaken.kept name hname, hothers name hname]
      simp

/-- A map can be converted if and only if each declared key settles. -/
theorem exists_convert_dict_iff (hkeys : (names keys).Nodup) :
    (∃ w, (dict keys unknown).convert (.map entries) = .ok w) ↔
      ∀ name d presence, (name, d, presence) ∈ keys →
        ∃ found, settle name d presence (Entries.get? name entries) = .ok found := by
  rw [← exists_convertKeys_iff hkeys []]
  simp only [convert]
  cases convertKeys keys entries [] <;> simp

end Descriptor

end LayeredConfig
