import LayeredConfig.Proofs.Descriptor.Level
import LayeredConfig.Proofs.Value.Merge

/-!
# What a conversion gives

`Descriptor.Converts` says what a value becomes under a descriptor, part by part: a scalar becomes one of
the descriptor's own kind, an item stays in its place, and each key of a map is accounted for, whether it
is declared or not. `Descriptor.Reaches` leads to the parts of a value along with the descriptors that
they meet, and a descriptor `Refuses` a value if a required key is absent or a leaf has no conversion.

`Descriptor.convert_faithful` says that a conversion gives what `Converts` says, and that it fails if and
only if a part that is reached is refused.
-/

namespace LayeredConfig

namespace Descriptor

/-! ## Scalars -/

/-- The values of a descriptor's own kind. A list and a dict have no scalars of their own. -/
def OwnKind : Descriptor → Value → Prop
  | any, _ => True
  | boolean, .bool _ => True
  | integer, .integer _ => True
  | float, .float _ => True
  | string, .string _ => True
  | ipv4, .string s => isIpv4 s = true
  | _, _ => False

/-- A scalar is converted to one of the descriptor's own kind. -/
theorem ownKind_of_scalar? {d : Descriptor} {v w : Value} (h : d.scalar? v = some w) : d.OwnKind w := by
  unfold scalar? at h
  split at h
  -- an integer as a truth value
  case h_3 =>
    split at h
    · cases h
      trivial
    · split at h
      · cases h
        trivial
      · cases h
  -- what is read from a text, or is the integer part of a float
  case h_4 | h_7 | h_8 | h_11 =>
    obtain ⟨_, -, rfl⟩ := Option.map_eq_some_iff.1 h
    trivial
  -- an address
  case h_16 =>
    split at h
    · next haddress =>
      cases h
      exact haddress
    · cases h
  case h_17 => cases h
  all_goals
    cases h
    trivial

/-- A scalar of the descriptor's own kind is left alone. -/
theorem scalar?_of_ownKind {d : Descriptor} {v : Value} (h : d.OwnKind v) : d.scalar? v = some v := by
  unfold OwnKind at h
  split at h
  all_goals simp_all [scalar?]

/-! ## Results -/

/-- What a value becomes under a descriptor. -/
inductive Converts : Descriptor → Value → Value → Prop where
  /-- A scalar becomes one of the descriptor's own kind. -/
  | leaf {d v w} (single : d.goesOn v = false) (scalar : d.scalar? v = some w)
      (kind : d.OwnKind w) : Converts d v w
  /-- A sequence keeps its length, and each item is converted in its place. -/
  | list {item items results} (length : results.length = items.length)
      (converted : ∀ (i : Nat) v w, items[i]? = some v → results[i]? = some w → Converts item v w) :
      Converts (.list item) (.array items) (.array results)
  /-- A declared key holds the conversion of its value if the map has one, and is filled in if not; a key
  that is not declared holds what its value becomes, if the map has one. -/
  | dict {keys unknown entries results} (sorted : Entries.Sorted results)
      (present : ∀ name d presence v, (name, d, presence) ∈ keys →
        Entries.get? name entries = some v → ∃ w, Entries.get? name results = some w)
      (converted : ∀ name d presence v w, (name, d, presence) ∈ keys →
        Entries.get? name entries = some v → Entries.get? name results = some w → Converts d v w)
      (absent : ∀ name d presence, (name, d, presence) ∈ keys → Entries.get? name entries = none →
        presence.Fills (Entries.get? name results))
      (others : ∀ name, name ∉ names keys →
        Entries.get? name results = (Entries.get? name entries).map (imageOf unknown name)) :
      Converts (.dict keys unknown) (.map entries) (.map results)

/-- A conversion gives `w` exactly where `w` is the image of `v` part by part. -/
theorem convert_eq_ok_iff {d : Descriptor} (hd : d.Distinct) {v : Value} (hv : v.Ordered) {w : Value} :
    d.convert v = .ok w ↔ Converts d v w := by
  induction d, v using descent generalizing w with
  | leaf d v hleaf =>
    rw [convert_leaf_eq_ok_iff hleaf]
    constructor
    · exact fun h => .leaf hleaf h (ownKind_of_scalar? h)
    · intro h
      cases h with
      | leaf _ hscalar _ => exact hscalar
      | list | dict => cases hleaf
  | list item items ih =>
    rw [convert_list_eq_ok_iff]
    have hitem {v w : Value} (hmem : v ∈ items) : item.convert v = .ok w ↔ Converts item v w :=
      ih v hmem hd.item (Value.orderedItems_iff.1 hv v hmem)
    constructor
    · rintro ⟨results, rfl, hresults⟩
      obtain ⟨hlength, hconvert⟩ := List.forall₂_iff_get.1 hresults
      refine .list hlength.symm fun i v w hv hw => ?_
      obtain ⟨hi, rfl⟩ := List.getElem?_eq_some_iff.1 hv
      obtain ⟨hi', rfl⟩ := List.getElem?_eq_some_iff.1 hw
      exact (hitem (List.getElem_mem hi)).1 (hconvert i hi hi')
    · intro h
      cases h with
      | leaf hleaf => cases hleaf
      | @list _ _ results hlength hconverted =>
        refine ⟨results, rfl, List.forall₂_iff_get.2 ⟨hlength.symm, fun i hi hi' => ?_⟩⟩
        exact (hitem (List.get_mem items ⟨i, hi⟩)).2
          (hconverted i _ _ (List.getElem?_eq_getElem hi) (List.getElem?_eq_getElem hi'))
  | dict keys unknown entries ih =>
    -- one level says what every key settles to; the induction says what the values under the keys become
    rw [convert_dict_eq_ok_iff hd.head hv.1]
    have hkey {name : String} {d : Descriptor} {presence : Presence} {v w : Value}
        (hmem : (name, d, presence) ∈ keys) (hget : Entries.get? name entries = some v) :
        d.convert v = .ok w ↔ Converts d v w :=
      ih name d presence v hmem hget (hd.key hmem) (hv.2.get? hget)
    constructor
    · rintro ⟨results, rfl, hsorted, hsettled, hothers⟩
      have hpresent {name : String} {d : Descriptor} {presence : Presence} {v : Value}
          (hmem : (name, d, presence) ∈ keys) (hget : Entries.get? name entries = some v) :
          ∃ w, d.convert v = .ok w ∧ Entries.get? name results = some w :=
        settle_some_eq_ok_iff.1 (hget ▸ hsettled name d presence hmem)
      refine .dict hsorted ?_ ?_ ?_ hothers
      · intro name d presence v hmem hget
        obtain ⟨w, -, hw⟩ := hpresent hmem hget
        exact ⟨w, hw⟩
      · intro name d presence v w hmem hget hw
        obtain ⟨w', hconvert, hw'⟩ := hpresent hmem hget
        cases hw.symm.trans hw'
        exact (hkey hmem hget).1 hconvert
      · intro name d presence hmem hnone
        exact settle_none_eq_ok_iff.1 (hnone ▸ hsettled name d presence hmem)
    · intro h
      cases h with
      | leaf hleaf => cases hleaf
      | @dict _ _ _ results hsorted hpresent hconverted habsent hothers =>
        refine ⟨results, rfl, hsorted, fun name d presence hmem => ?_, hothers⟩
        cases hget : Entries.get? name entries with
        | none => exact settle_none_eq_ok_iff.2 (habsent name d presence hmem hget)
        | some v =>
          obtain ⟨w, hw⟩ := hpresent name d presence v hmem hget
          have hconvert := (hkey hmem hget).2 (hconverted name d presence v w hmem hget hw)
          exact settle_some_eq_ok_iff.2 ⟨w, hconvert, hw⟩

/-! ## Failures -/

/-- The parts of a value that a conversion goes on with, each with its location and with the descriptor
that it meets. -/
inductive Reaches : List Step → Descriptor → Value → Descriptor → Value → Prop where
  | here {d v} : Reaches [] d v d v
  | item {item items i v location e x} : items[i]? = some v → Reaches location item v e x →
      Reaches (.index i :: location) (.list item) (.array items) e x
  | key {keys unknown entries name d presence v location e x} : (name, d, presence) ∈ keys →
      Entries.get? name entries = some v → Reaches location d v e x →
      Reaches (.key name :: location) (.dict keys unknown) (.map entries) e x

/-- A descriptor refuses a value for what the value is itself: a required key is absent, or there is no
conversion for it. -/
inductive Refuses : Descriptor → Value → Prop where
  | missing {keys unknown entries name d} : (name, d, .required) ∈ keys →
      Entries.get? name entries = none → Refuses (.dict keys unknown) (.map entries)
  | leaf {d v} : d.goesOn v = false → d.scalar? v = none → Refuses d v

/-- A result is an error or a value, never both. -/
theorem exists_error_iff {ε α : Type} {result : Except ε α} :
    (∃ e, result = .error e) ↔ ¬ ∃ a, result = .ok a := by
  cases result <;> simp

/-- A key that is there settles only if its value can be converted. -/
theorem exists_convert_of_settle {name : String} {d : Descriptor} {presence : Presence} {v : Value}
    (h : ∃ found, settle name d presence (some v) = .ok found) : ∃ w, d.convert v = .ok w := by
  obtain ⟨found, hfound⟩ := h
  obtain ⟨w, hw, -⟩ := settle_some_eq_ok_iff.1 hfound
  exact ⟨w, hw⟩

/-- What holds of every dict in a descriptor holds of every dict in a part that it comes to. -/
theorem Reaches.everyDict {P : List (String × Descriptor × Presence) → Option KeyMapper → Prop}
    {location : List Step} {d e : Descriptor} {v x : Value} (h : Reaches location d v e x)
    (hd : d.EveryDict P) : e.EveryDict P := by
  induction h with
  | here => exact hd
  | item _ _ ih => exact ih hd.item
  | key hmem _ _ ih => exact ih (hd.key hmem)

/-- The parts of what can be converted can be converted. -/
theorem Reaches.exists_convert {location : List Step} {d e : Descriptor} {v x : Value}
    (h : Reaches location d v e x) (hd : d.Distinct) (hconvert : ∃ w, d.convert v = .ok w) :
    ∃ w, e.convert x = .ok w := by
  induction h with
  | here => exact hconvert
  | item hi _ ih =>
    exact ih hd.item (exists_convert_list_iff.1 hconvert _ (List.mem_of_getElem? hi))
  | key hmem hget _ ih =>
    have hsettle := (exists_convert_dict_iff hd.head).1 hconvert _ _ _ hmem
    exact ih (hd.key hmem) (exists_convert_of_settle (hget ▸ hsettle))

/-- A conversion fails if and only if a part that it goes on with is refused. -/
theorem exists_convert_error_iff {d : Descriptor} (hd : d.Distinct) {v : Value} :
    (∃ error, d.convert v = .error error) ↔
      ∃ location e x, Reaches location d v e x ∧ e.Refuses x := by
  rw [exists_error_iff]
  constructor
  · intro hfails
    induction d, v using descent with
    | leaf d v hleaf =>
      simp only [convert_leaf_eq_ok_iff hleaf] at hfails
      refine ⟨[], d, v, .here, .leaf hleaf (Option.eq_none_iff_forall_ne_some.2 fun w hw => ?_)⟩
      exact hfails ⟨w, hw⟩
    | list item items ih =>
      rw [exists_convert_list_iff] at hfails
      obtain ⟨v, hfails⟩ := not_forall.1 hfails
      obtain ⟨hmem, hfails⟩ := Classical.not_imp.1 hfails
      obtain ⟨location, e, x, hreaches, hrefuses⟩ := ih v hmem hd.item hfails
      obtain ⟨i, hi⟩ := List.getElem?_of_mem hmem
      exact ⟨.index i :: location, e, x, .item hi hreaches, hrefuses⟩
    | dict keys unknown entries ih =>
      rw [exists_convert_dict_iff hd.head] at hfails
      obtain ⟨name, d, presence, hmem, hfails⟩ : ∃ name d presence, (name, d, presence) ∈ keys ∧
          ¬ ∃ found, settle name d presence (Entries.get? name entries) = .ok found := by
        simpa only [not_forall, exists_prop] using hfails
      cases hget : Entries.get? name entries with
      | some v =>
        -- the fault is below the key
        simp only [hget, settle_some_eq_ok_iff] at hfails
        obtain ⟨location, e, x, hreaches, hrefuses⟩ := ih name d presence v hmem hget (hd.key hmem)
          fun ⟨w, hw⟩ => hfails ⟨some w, w, hw, rfl⟩
        exact ⟨.key name :: location, e, x, .key hmem hget hreaches, hrefuses⟩
      | none =>
        simp only [hget, settle_none_eq_ok_iff] at hfails
        cases presence with
        | required => exact ⟨[], _, _, .here, .missing hmem hget⟩
        | optional => exact absurd ⟨none, rfl⟩ hfails
        | default v => exact absurd ⟨some v, rfl⟩ hfails
  · rintro ⟨location, e, x, hreaches, hrefuses⟩ hconverts
    obtain ⟨w, hw⟩ := hreaches.exists_convert hd hconverts
    cases hrefuses with
    | leaf hleaf hnone => simp [convert_leaf_eq_ok_iff hleaf, hnone] at hw
    | missing hmem hnone =>
      obtain ⟨found, hfound⟩ :=
        (exists_convert_dict_iff (hreaches.everyDict hd).head).1 ⟨w, hw⟩ _ _ _ hmem
      rw [hnone, settle_none_eq_ok_iff] at hfound
      exact hfound

/-- **What a conversion gives, and when it gives nothing**: the result is what the value becomes part by
part, and there is none if and only if a required key is absent or a leaf is rejected at some part of the
value. -/
theorem convert_faithful {d : Descriptor} (hd : d.Distinct) {v : Value} (hv : v.Ordered) :
    (∀ w, d.convert v = .ok w ↔ Converts d v w) ∧
      ((∃ error, d.convert v = .error error) ↔
        ∃ location e x, Reaches location d v e x ∧ e.Refuses x) :=
  ⟨fun _ => convert_eq_ok_iff hd hv, exists_convert_error_iff hd⟩

/-- A switch that is off unless it is given, some ports, and a title if there is one. -/
def server : Descriptor :=
  dict [("debug", boolean, .default (.string "off")), ("ports", list integer, .required),
    ("title", string, .optional)] (some fun _ v => .array [v])

/-- A server as it may be written down, with a key that is not declared. -/
def writtenServer : Value :=
  .map [("extra", .null), ("ports", .array [.string " 80", .bool true])]

/-- What the server is converted to. The default stays a text, the ports are integers, and the value of
the undeclared key is mapped. -/
def readyServer : Value :=
  .map [("debug", .string "off"), ("extra", .array [.null]), ("ports", .array [.integer 80, .integer 1])]

/-- The server has the shape that is asked for, and one without its ports has not. -/
theorem convert_faithful_server : Converts server writtenServer readyServer ∧
    ∃ error, server.convert (.map [("title", .integer 7)]) = .error error := by
  have hdistinct : server.Distinct := by simp [server, Distinct, names]
  have hwritten : writtenServer.Ordered := by
    have hkeys : "extra" < "ports" := by decide
    simp only [writtenServer, Value.Ordered, Value.OrderedEntries, Value.OrderedItems,
      Entries.sorted_cons, Entries.sorted_nil, List.mem_cons, List.not_mem_nil, or_false, forall_eq,
      IsEmpty.forall_iff, implies_true, and_true, hkeys]
  have htitle : Value.Ordered (.map [("title", .integer 7)]) := by
    simp only [Value.Ordered, Value.OrderedEntries, Entries.sorted_cons, Entries.sorted_nil,
      List.not_mem_nil, IsEmpty.forall_iff, implies_true, and_true]
  have hports : (list integer).convert (.array [.string " 80", .bool true]) =
      .ok (.array [.integer 80, .integer 1]) := rfl
  have hconvert : server.convert writtenServer = .ok readyServer := by
    rw [server, writtenServer, convert]
    simp only [convertKeys, Entries.get?, Entries.erase, String.reduceEq, if_true, if_false, hports]
    rfl
  refine ⟨((convert_faithful hdistinct hwritten).1 _).1 hconvert,
    (convert_faithful hdistinct htitle).2.2 ⟨[], _, _, .here, ?_⟩⟩
  exact .missing (List.mem_cons_of_mem _ List.mem_cons_self) rfl

end Descriptor

end LayeredConfig
