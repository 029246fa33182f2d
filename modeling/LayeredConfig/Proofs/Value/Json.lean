import LayeredConfig.Provider
import LayeredConfig.Proofs.Binary64.Word
import LayeredConfig.Proofs.Expr.Arithmetic

/-!
# Values as JSON documents and back

A JSON document has neither bytes nor floats that are not finite. `toJson` writes sequences of integers and
null for them, and `ofJson_toJson` says that this is all that a value loses on the way there and back.
-/

namespace LayeredConfig

namespace Value

mutual

/-- The value with sequences of integers for its byte strings and null for its floats that are not
finite. -/
def storable : Value → Value
  | null => null
  | bool b => bool b
  | integer i => integer i
  | float x => if x.isFinite then float x else null
  | string s => string s
  | bytes b => array (b.map fun n => integer (Int64.ofNat n.toNat))
  | array items => array (storableItems items)
  | map entries => map (storableEntries entries)

/-- The items, each storable. -/
def storableItems : List Value → List Value
  | [] => []
  | v :: vs => v.storable :: storableItems vs

/-- The entries, each with a storable value. -/
def storableEntries : List (String × Value) → List (String × Value)
  | [] => []
  | (key, v) :: es => (key, v.storable) :: storableEntries es

end

/-- A value inside a value, itself included. -/
inductive Inside (part : Value) : Value → Prop where
  | self : Inside part part
  | item {v : Value} {items : List Value} : v ∈ items → Inside part v → Inside part (array items)
  | entry {key : String} {v : Value} {entries : List (String × Value)} :
      (key, v) ∈ entries → Inside part v → Inside part (map entries)

/-- A JSON document can hold the value as it is. -/
structure Storable (v : Value) : Prop where
  bytes : ∀ b, ¬ Inside (.bytes b) v
  finite : ∀ x, Inside (.float x) v → x.isFinite = true

/-! ## Scalars -/

/-- A number without a sign that 64 signed bits hold is an integer. -/
theorem ofJsonNumber_unsigned {n : UInt64} {i : Int64} (h : (n.toNat : Int) = i.toInt) :
    ofJsonNumber (.unsigned n) = integer i := by
  have hi : Integer.ofInt? n.toNat = some i := by
    rw [h, Integer.ofInt?_toInt]
  rw [ofJsonNumber, hi]

theorem ofJsonNumber_jsonInteger (i : Int64) : ofJsonNumber (jsonInteger i) = integer i := by
  rw [jsonInteger]
  split
  · rfl
  · next hsign =>
    have hnonneg : 0 ≤ i.toInt := Int.not_lt.1 fun h => hsign (Int64.lt_iff_toInt_lt.2 h)
    have hlt := i.toInt_lt
    refine ofJsonNumber_unsigned ?_
    rw [UInt64.toNat_ofNat_of_lt' (by simp only [UInt64.size]; omega)]
    omega

/-- A byte becomes an integer. -/
theorem ofJsonNumber_byte (n : UInt8) :
    ofJsonNumber (.unsigned n.toUInt64) = integer (Int64.ofNat n.toNat) := by
  have hlt := n.toNat_lt
  refine ofJsonNumber_unsigned ?_
  rw [UInt8.toNat_toUInt64, Int64.toInt_ofNat_of_lt (by omega)]

/-- Bytes become integers, one by one. -/
theorem ofJsonItems_bytes (b : List UInt8) :
    ofJsonItems (b.map fun n => .number (.unsigned n.toUInt64)) =
      b.map fun n => integer (Int64.ofNat n.toNat) := by
  induction b with
  | nil => rw [List.map_nil, ofJsonItems, List.map_nil]
  | cons n b ih => rw [List.map_cons, ofJsonItems, ih, ofJson, ofJsonNumber_byte, List.map_cons]

/-! ## The whole value -/

/-- Items are stored one by one. -/
theorem storableItems_eq_map (items : List Value) : storableItems items = items.map storable := by
  induction items with
  | nil => rw [storableItems, List.map_nil]
  | cons v vs ih => rw [storableItems, ih, List.map_cons]

theorem storableEntries_eq_map (entries : List (String × Value)) :
    storableEntries entries = entries.map fun e => (e.1, e.2.storable) := by
  induction entries with
  | nil => rw [storableEntries, List.map_nil]
  | cons e es ih => rw [storableEntries, ih, List.map_cons]

mutual

/-- A value is read back as it is stored. -/
theorem ofJson_toJson (v : Value) : ofJson v.toJson = v.storable := by
  cases v with
  | null | bool b | string s => rw [toJson, ofJson, storable]
  | integer i => rw [toJson, ofJson, ofJsonNumber_jsonInteger, storable]
  | float x =>
    rw [toJson, storable, Binary64.isFinite_eq]
    split
    · rw [ofJson, ofJsonNumber]
    · rw [ofJson]
  | bytes b => rw [toJson, ofJson, storable, ofJsonItems_bytes]
  | array items => rw [toJson, ofJson, storable, ofJsonItems_toJsonItems]
  | map entries => rw [toJson, ofJson, storable, ofJsonMembers_toJsonMembers]

/-- Items come back as what is stored of them. -/
theorem ofJsonItems_toJsonItems (items : List Value) :
    ofJsonItems (toJsonItems items) = storableItems items := by
  cases items with
  | nil => rw [toJsonItems, ofJsonItems, storableItems]
  | cons v vs => rw [toJsonItems, ofJsonItems, storableItems, ofJson_toJson v, ofJsonItems_toJsonItems vs]

theorem ofJsonMembers_toJsonMembers (entries : List (String × Value)) :
    ofJsonMembers (toJsonMembers entries) = storableEntries entries := by
  match entries with
  | [] => rw [toJsonMembers, ofJsonMembers, storableEntries]
  | (key, v) :: es =>
    rw [toJsonMembers, ofJsonMembers, storableEntries, ofJson_toJson v, ofJsonMembers_toJsonMembers es]

end

/-! ## Values that a document holds as they are -/

section

variable {v part : Value}

/-- An item of a storable array is storable. -/
theorem Storable.item {items : List Value} (h : Storable (array items)) (hv : v ∈ items) : Storable v :=
  ⟨fun b hb => h.bytes b (.item hv hb), fun x hx => h.finite x (.item hv hx)⟩

theorem Storable.entry {key : String} {entries : List (String × Value)} (h : Storable (map entries))
    (hv : (key, v) ∈ entries) : Storable v :=
  ⟨fun b hb => h.bytes b (.entry hv hb), fun x hx => h.finite x (.entry hv hx)⟩

/-- The parts of a value that storing keeps are kept. -/
theorem storable_eq_of_inside (hpart : Inside part v) (h : v.storable = v) : part.storable = part := by
  induction hpart with
  | self => exact h
  | @item u items hu _ ih =>
    rw [storable, storableItems_eq_map, Value.array.injEq] at h
    exact ih (List.map_inj_left.1 (h.trans items.map_id.symm) u hu)
  | @entry key u entries hu _ ih =>
    rw [storable, storableEntries_eq_map, Value.map.injEq] at h
    exact ih (Prod.ext_iff.1 (List.map_inj_left.1 (h.trans entries.map_id.symm) (key, u) hu)).2

mutual

/-- A storable value is stored as it is. -/
theorem Storable.storable_eq (v : Value) (h : Storable v) : v.storable = v := by
  cases v with
  | null | bool b | string s | integer i => rw [storable]
  | float x => rw [storable, if_pos (h.finite x .self)]
  | bytes b => exact absurd .self (h.bytes b)
  | array items => rw [storable, storableItems_eq items fun v hv => h.item hv]
  | map entries => rw [storable, storableEntries_eq entries fun e he => h.entry he]

theorem storableItems_eq (items : List Value) (h : ∀ v ∈ items, Storable v) :
    storableItems items = items := by
  cases items with
  | nil => rw [storableItems]
  | cons v vs =>
    obtain ⟨hv, hvs⟩ := List.forall_mem_cons.1 h
    rw [storableItems, Storable.storable_eq v hv, storableItems_eq vs hvs]

theorem storableEntries_eq (entries : List (String × Value)) (h : ∀ e ∈ entries, Storable e.2) :
    storableEntries entries = entries := by
  match entries, h with
  | [], _ => rw [storableEntries]
  | (key, v) :: es, h =>
    obtain ⟨hv, hes⟩ := List.forall_mem_cons.1 h
    rw [storableEntries, Storable.storable_eq v hv, storableEntries_eq es hes]

end

/-- Storing keeps exactly the values without bytes and floats that are not finite. -/
theorem storable_eq_self_iff : v.storable = v ↔ Storable v := by
  refine ⟨fun h => ⟨fun b hb => ?_, fun x hx => ?_⟩, Storable.storable_eq v⟩
  · have hbytes := storable_eq_of_inside hb h
    rw [storable] at hbytes
    cases hbytes
  · have hfloat := storable_eq_of_inside hx h
    rw [storable] at hfloat
    split at hfloat
    · assumption
    · cases hfloat

end

/-- A value that is stored and read back has integers for bytes and null for floats that are not finite.
It is itself if and only if it has neither. The record of all that a provider gives loses no more. -/
theorem ofJson_toJson_faithful (v : Value) :
    ofJson v.toJson = v.storable ∧ (ofJson v.toJson = v ↔ Storable v) ∧
      ∀ (p : Provider) (w : World), (p.extract w some).map ofJson =
        ((p.provide w).map fun entries => (map entries).storable).mapError .resolution := by
  refine ⟨ofJson_toJson v, ?_, fun p w => ?_⟩
  · rw [ofJson_toJson, storable_eq_self_iff]
  · rw [Provider.extract]
    cases p.provide w with
    | error e => rfl
    | ok entries => exact congrArg Except.ok (ofJson_toJson (map entries))

end Value

end LayeredConfig
