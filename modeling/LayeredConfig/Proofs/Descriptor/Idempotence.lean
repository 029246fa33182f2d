import LayeredConfig.Proofs.Descriptor.Conversion

/-!
# Converting twice

The values that a descriptor leaves alone are found part by part: a scalar of the descriptor's own kind,
a sequence of items that are left alone, and a map whose declared keys settle to what they hold.
`Descriptor.convert_idempotent` says that the result of a conversion is such a value.

It takes two conditions on the dicts of the descriptor. A mapper of undeclared keys may do anything, so
there must be none. A default is filled in as it is, so the descriptor of its key must leave it alone.
-/

namespace LayeredConfig.Descriptor

/-! ## Values that are left alone -/

/-- There is nothing to go on with in a scalar of the descriptor's own kind. -/
theorem goesOn_of_ownKind {d : Descriptor} {v : Value} (h : d.OwnKind v) : d.goesOn v = false := by
  cases d with
  | list | dict => exact h.elim
  | _ => rfl

theorem convert_of_ownKind {d : Descriptor} {v : Value} (h : d.OwnKind v) : d.convert v = .ok v :=
  (convert_leaf_eq_ok_iff (goesOn_of_ownKind h)).2 (scalar?_of_ownKind h)

/-- A list is left alone if each of its items is. -/
theorem convert_list_self_iff {item : Descriptor} {items : List Value} :
    (list item).convert (.array items) = .ok (.array items) ↔ ∀ v ∈ items, item.convert v = .ok v := by
  rw [convert_list_eq_ok_iff]
  simp [List.forall₂_same]

/-- A map with no undeclared keys is left alone if every declared key settles to what it held. -/
theorem convert_dict_self_iff {keys : List (String × Descriptor × Presence)} {entries : Entries Value}
    (hkeys : (names keys).Nodup) (hentries : entries.Sorted) :
    (dict keys none).convert (.map entries) = .ok (.map entries) ↔
      ∀ name d presence, (name, d, presence) ∈ keys →
        settle name d presence (Entries.get? name entries) = .ok (Entries.get? name entries) := by
  rw [convert_dict_eq_ok_iff hkeys hentries]
  have himage (name : String) : imageOf none name = id := rfl
  simp [hentries, himage]

/-! ## Results -/

/-- Every default of the declared keys is left alone by the descriptor of its key. -/
def SettledDefaults (keys : List (String × Descriptor × Presence)) : Prop :=
  ∀ key ∈ keys, ∀ v, key.2.2 = .default v → key.2.1.convert v = .ok v

/-- What a key settles to, it settles to again. -/
theorem settle_again {name : String} {d : Descriptor} {presence : Presence} {held found : Option Value}
    (hconvert : ∀ v w, held = some v → d.convert v = .ok w → d.convert w = .ok w)
    (hdefault : ∀ v, presence = .default v → d.convert v = .ok v)
    (h : settle name d presence held = .ok found) : settle name d presence found = .ok found := by
  cases held with
  | some v =>
    obtain ⟨w, hw, rfl⟩ := settle_some_eq_ok_iff.1 h
    exact settle_some_eq_ok_iff.2 ⟨w, hconvert v w rfl hw, rfl⟩
  | none =>
    rw [settle_none_eq_ok_iff] at h
    cases presence with
    | required => exact h.elim
    | optional =>
      subst h
      rfl
    | default v =>
      subst h
      exact settle_some_eq_ok_iff.2 ⟨v, hdefault v rfl, rfl⟩

/-- **Conversion is idempotent.** Without mappers of undeclared keys, and if every default is left alone
by the descriptor of its key, what a value is converted to is left alone. -/
theorem convert_idempotent {d : Descriptor} (hd : d.Distinct)
    (hunmapped : d.EveryDict fun _ unknown => unknown = none)
    (hdefaults : d.EveryDict fun keys _ => SettledDefaults keys) {v : Value} (hv : v.Ordered) {w : Value}
    (h : d.convert v = .ok w) : d.convert w = .ok w := by
  induction d, v using descent generalizing w with
  | leaf d v hleaf => exact convert_of_ownKind (ownKind_of_scalar? ((convert_leaf_eq_ok_iff hleaf).1 h))
  | list item items ih =>
    obtain ⟨results, rfl, hresults⟩ := convert_list_eq_ok_iff.1 h
    obtain ⟨hlength, hconvert⟩ := List.forall₂_iff_get.1 hresults
    rw [convert_list_self_iff]
    intro w hw
    obtain ⟨i, hi, rfl⟩ := List.getElem_of_mem hw
    have hmem : items[i] ∈ items := List.getElem_mem (hlength ▸ hi)
    exact ih _ hmem hd.item hunmapped.item hdefaults.item (Value.orderedItems_iff.1 hv _ hmem)
      (hconvert i (hlength ▸ hi) hi)
  | dict keys unknown entries ih =>
    obtain rfl : unknown = none := hunmapped.head
    obtain ⟨results, rfl, hsorted, hsettled, -⟩ := (convert_dict_eq_ok_iff hd.head hv.1).1 h
    rw [convert_dict_self_iff hd.head hsorted]
    intro name d presence hmem
    -- the values under the keys are converted again by the induction, and the defaults by hypothesis
    refine settle_again (fun v w hget hconvert => ?_) (hdefaults.head _ hmem)
      (hsettled name d presence hmem)
    exact ih name d presence v hmem hget (hd.key hmem) (hunmapped.key hmem) (hdefaults.key hmem)
      (hv.2.get? hget) hconvert

/-- A switch that is off unless it is given, and some ports. -/
def endpoint : Descriptor :=
  dict [("debug", boolean, .default (.bool false)), ("ports", list integer, .required)] none

/-- An endpoint as it may be written down. -/
def roughEndpoint : Value :=
  .map [("name", .string "a"), ("ports", .array [.string " 80", .bool true])]

/-- What the endpoint is converted to. -/
def settledEndpoint : Value :=
  .map [("debug", .bool false), ("name", .string "a"), ("ports", .array [.integer 80, .integer 1])]

/-- The switch is filled in, a text and a truth value become integers, and a second conversion finds
nothing to do. -/
theorem convert_idempotent_endpoint :
    endpoint.convert roughEndpoint = .ok settledEndpoint ∧
      endpoint.convert settledEndpoint = .ok settledEndpoint := by
  have hdistinct : endpoint.Distinct := by simp [endpoint, Distinct, names]
  have hunmapped : endpoint.EveryDict fun _ unknown => unknown = none := by simp [endpoint]
  have hdefaults : endpoint.EveryDict fun keys _ => SettledDefaults keys := by
    have hswitch : boolean.convert (.bool false) = .ok (.bool false) := convert_of_ownKind trivial
    simp [endpoint, SettledDefaults, hswitch, -Prod.forall]
  have hordered : roughEndpoint.Ordered := by
    have hsorted : "name" < "ports" := by decide
    simp only [roughEndpoint, Value.Ordered, Value.OrderedEntries, Value.OrderedItems,
      Entries.sorted_cons, Entries.sorted_nil, List.mem_cons, List.not_mem_nil, or_false, forall_eq,
      IsEmpty.forall_iff, implies_true, and_true, hsorted]
  have hports : (list integer).convert (.array [.string " 80", .bool true]) =
      .ok (.array [.integer 80, .integer 1]) := rfl
  have hfirst : endpoint.convert roughEndpoint = .ok settledEndpoint := by
    rw [endpoint, roughEndpoint, convert]
    simp only [convertKeys, Entries.get?, Entries.erase, String.reduceEq, if_true, if_false, hports]
    rfl
  exact ⟨hfirst, convert_idempotent hdistinct hunmapped hdefaults hordered hfirst⟩

end LayeredConfig.Descriptor
