import LayeredConfig.Value.Yaml
import LayeredConfig.Proofs.Entries

/-!
# What is kept of a YAML document

The keys of a mapping may be any documents that differ, but in the map that it becomes they are texts. Two
keys may have one text, `1` and `"1"` for example, and then the map has the value of the later one only.
`throughout_keepsLast` says that nothing else is lost, at any depth.
-/

namespace LayeredConfig.Yaml

open Value (ofYaml ofYamlEntries)

/-- A document is a part of itself, and so are the parts of its items, of its keys and of their values. -/
inductive Part (part : Yaml) : Yaml → Prop where
  | self : Part part part
  | item {y : Yaml} {items : List Yaml} : y ∈ items → Part part y → Part part (.sequence items)
  | key {entry : Yaml × Yaml} {entries : List (Yaml × Yaml)} :
      entry ∈ entries → Part part entry.1 → Part part (.mapping entries)
  | value {entry : Yaml × Yaml} {entries : List (Yaml × Yaml)} :
      entry ∈ entries → Part part entry.2 → Part part (.mapping entries)
  | tagged {tag : String} {y : Yaml} : Part part y → Part part (.tagged tag y)

/-- The text of the key of an entry. -/
def entryText (entry : Yaml × Yaml) : String := Value.keyText (ofYaml entry.1)

mutual

/-- The value has what the document has at the same places, and every mapping in the document, in the keys
as well, meets `P` together with the map that it becomes. An entry has no place if the text of its key
comes again. -/
def Throughout (P : List (Yaml × Yaml) → Entries Value → Prop) : Yaml → Value → Prop
  | .null, v => v = .null
  | .bool b, v => v = .bool b
  | .number n, v => v = Value.ofYamlNumber n
  | .string s, v => v = .string s
  | .sequence items, v => ∃ vs, v = .array vs ∧ ThroughoutItems P items vs
  | .mapping entries, v => ∃ es, v = .map es ∧ P entries es ∧ ThroughoutEntries P es entries
  | .tagged _ y, v => Throughout P y v

/-- The items of a value are those of a document, one by one. -/
def ThroughoutItems (P : List (Yaml × Yaml) → Entries Value → Prop) : List Yaml → List Value → Prop
  | [], vs => vs = []
  | y :: ys, vs => ∃ w ws, vs = w :: ws ∧ Throughout P y w ∧ ThroughoutItems P ys ws

/-- The entries of a map are those of a mapping, each under the text of its key. -/
def ThroughoutEntries (P : List (Yaml × Yaml) → Entries Value → Prop) (es : Entries Value) :
    List (Yaml × Yaml) → Prop
  | [] => True
  | (k, y) :: entries => Throughout P k (ofYaml k) ∧
      (entryText (k, y) ∈ entries.map entryText ∨
        ∃ v, Entries.get? (entryText (k, y)) es = some v ∧ Throughout P y v) ∧
      ThroughoutEntries P es entries

end

/-- The map has as many entries as the mapping, with the value of each under the text of its key. -/
structure KeepsEach (entries : List (Yaml × Yaml)) (es : Entries Value) : Prop where
  length : es.length = entries.length
  present : ∀ entry ∈ entries, Entries.get? (entryText entry) es = some (ofYaml entry.2)

/-- The map has one entry for each text, with the value of the last entry whose key has it. -/
structure KeepsLast (entries : List (Yaml × Yaml)) (es : Entries Value) : Prop where
  sorted : es.Sorted
  texts : ∀ text, text ∈ es.keys ↔ text ∈ entries.map entryText
  last : ∀ entry after, entry :: after <:+ entries → entryText entry ∉ after.map entryText →
    Entries.get? (entryText entry) es = some (ofYaml entry.2)

/-! ## The map of a mapping -/

section

variable {entries : List (Yaml × Yaml)}

/-- The entry that is set. -/
def pair (entry : Yaml × Yaml) : String × Value := (entryText entry, ofYaml entry.2)

theorem map_fst_pair (entries : List (Yaml × Yaml)) :
    (entries.map pair).map Prod.fst = entries.map entryText := by
  rw [List.map_map]
  rfl

/-- The entries of a mapping are inserted one after another. -/
theorem ofYamlEntries_eq (done : Entries Value) (entries : List (Yaml × Yaml)) :
    ofYamlEntries done entries = Entries.insertAll (entries.map pair) done := by
  induction entries generalizing done with
  | nil => rw [ofYamlEntries]; rfl
  | cons entry entries ih =>
    obtain ⟨k, y⟩ := entry
    rw [ofYamlEntries, ih]
    rfl

/-- A mapping becomes the map of its entries. -/
theorem ofYaml_mapping (entries : List (Yaml × Yaml)) :
    ofYaml (.mapping entries) = .map (Entries.insertAll (entries.map pair) []) := by
  rw [ofYaml, ofYamlEntries_eq]

/-- Under the text of a key stands the last entry that has it. -/
theorem get?_last {entry : Yaml × Yaml} {after : List (Yaml × Yaml)} (h : entry :: after <:+ entries)
    (hlast : entryText entry ∉ after.map entryText) :
    Entries.get? (entryText entry) (Entries.insertAll (entries.map pair) []) = some (ofYaml entry.2) := by
  have hpairs : pair entry :: after.map pair <:+ entries.map pair := h.map pair
  have hpair : (pair entry).1 ∉ (after.map pair).map Prod.fst := by rwa [map_fst_pair]
  exact Entries.get?_insertAll_last hpairs hpair

/-- Of entries with one text for their keys the last one is kept. -/
theorem keepsLast (entries : List (Yaml × Yaml)) :
    KeepsLast entries (Entries.insertAll (entries.map pair) []) where
  sorted := Entries.sorted_insertAll Entries.sorted_nil
  texts text := by
    rw [Entries.mem_keys_insertAll_iff, map_fst_pair]
    simp [Entries.keys]
  last _ _ := get?_last

/-- Every entry is kept where the texts of the keys are apart. -/
theorem keepsEach_iff : KeepsEach entries (Entries.insertAll (entries.map pair) []) ↔
    (entries.map entryText).Nodup := by
  have hlength := Entries.length_insertAll_eq_iff (entries.map pair)
  rw [List.length_map, map_fst_pair] at hlength
  refine ⟨fun h => hlength.1 h.length, fun h => ⟨hlength.2 h, fun entry hmem => ?_⟩⟩
  have hpairs : ((entries.map pair).map Prod.fst).Nodup := by rwa [map_fst_pair]
  exact Entries.get?_insertAll_of_mem hpairs (List.mem_map_of_mem hmem)

end

/-! ## The whole document -/

/-- Every mapping in the document and the map that it becomes are such. -/
def Everywhere (P : List (Yaml × Yaml) → Entries Value → Prop) (y : Yaml) : Prop :=
  ∀ entries, Part (.mapping entries) y → P entries (Entries.insertAll (entries.map pair) [])

section

variable {P : List (Yaml × Yaml) → Entries Value → Prop}

theorem everywhere_sequence_iff {items : List Yaml} :
    Everywhere P (.sequence items) ↔ ∀ y ∈ items, Everywhere P y := by
  constructor
  · exact fun h y hy entries hpart => h entries (.item hy hpart)
  · rintro h entries (_ | ⟨hy, hpart⟩)
    exact h _ hy entries hpart

/-- A mapping has itself and those of its keys and values. -/
theorem everywhere_mapping_iff {entries : List (Yaml × Yaml)} :
    Everywhere P (.mapping entries) ↔ P entries (Entries.insertAll (entries.map pair) []) ∧
      ∀ entry ∈ entries, Everywhere P entry.1 ∧ Everywhere P entry.2 := by
  constructor
  · exact fun h => ⟨h entries .self, fun entry hentry => ⟨fun _ hpart => h _ (.key hentry hpart),
      fun _ hpart => h _ (.value hentry hpart)⟩⟩
  · rintro ⟨hself, hentries⟩ _ (_ | _ | ⟨hentry, hpart⟩ | ⟨hentry, hpart⟩)
    · exact hself
    · exact (hentries _ hentry).1 _ hpart
    · exact (hentries _ hentry).2 _ hpart

theorem everywhere_tagged_iff {tag : String} {y : Yaml} :
    Everywhere P (.tagged tag y) ↔ Everywhere P y := by
  constructor
  · exact fun h entries hpart => h entries (.tagged hpart)
  · rintro h entries (_ | _ | _ | _ | hpart)
    exact h entries hpart

/-- Where it holds of a mapping and its map, no text comes twice. -/
def Separates (P : List (Yaml × Yaml) → Entries Value → Prop) : Prop :=
  ∀ entries, P entries (Entries.insertAll (entries.map pair) []) → (entries.map entryText).Nodup

mutual

/-- What holds of every mapping and its map holds of them at their places. -/
theorem throughout_of_everywhere (y : Yaml) (h : Everywhere P y) : Throughout P y (ofYaml y) := by
  cases y with
  | null | bool b | number n | string s => rw [Throughout, ofYaml]
  | sequence items =>
    rw [Throughout, ofYaml]
    exact ⟨_, rfl, throughoutItems_of_everywhere items (everywhere_sequence_iff.1 h)⟩
  | mapping entries =>
    obtain ⟨hself, hentries⟩ := everywhere_mapping_iff.1 h
    rw [Throughout, ofYaml_mapping]
    exact ⟨_, rfl, hself,
      throughoutEntries_of_everywhere entries entries (List.suffix_refl entries) hentries⟩
  | tagged tag y =>
    rw [Throughout, ofYaml]
    exact throughout_of_everywhere y (everywhere_tagged_iff.1 h)

/-- What holds of every mapping holds throughout the items. -/
theorem throughoutItems_of_everywhere (items : List Yaml) (h : ∀ y ∈ items, Everywhere P y) :
    ThroughoutItems P items (Value.ofYamlItems items) := by
  cases items with
  | nil => rw [ThroughoutItems, Value.ofYamlItems]
  | cons y ys =>
    obtain ⟨hy, hys⟩ := List.forall_mem_cons.1 h
    rw [ThroughoutItems, Value.ofYamlItems]
    exact ⟨_, _, rfl, throughout_of_everywhere y hy, throughoutItems_of_everywhere ys hys⟩

/-- What holds of every mapping holds throughout the entries, for any number of the last ones. -/
theorem throughoutEntries_of_everywhere (whole entries : List (Yaml × Yaml)) (hwhole : entries <:+ whole)
    (h : ∀ entry ∈ entries, Everywhere P entry.1 ∧ Everywhere P entry.2) :
    ThroughoutEntries P (Entries.insertAll (whole.map pair) []) entries := by
  match entries, hwhole, h with
  | [], _, _ => rw [ThroughoutEntries]; trivial
  | (k, y) :: entries, hwhole, h =>
    obtain ⟨⟨hk, hy⟩, hentries⟩ := List.forall_mem_cons.1 h
    rw [ThroughoutEntries]
    refine ⟨throughout_of_everywhere k hk, ?_,
      throughoutEntries_of_everywhere whole entries ((List.suffix_cons _ _).trans hwhole) hentries⟩
    -- the entry has a place if it is the last of its text
    refine or_iff_not_imp_left.2 fun hlast => ?_
    exact ⟨_, get?_last hwhole hlast, throughout_of_everywhere y hy⟩

end

mutual

/-- What separates the texts and holds at the places of all mappings holds of every mapping. -/
theorem everywhere_of_throughout (hP : Separates P) (y : Yaml) (h : Throughout P y (ofYaml y)) :
    Everywhere P y := by
  cases y with
  | null | bool b | number n | string s => rintro entries ⟨⟩
  | sequence items =>
    rw [Throughout, ofYaml] at h
    obtain ⟨_, hvs, hitems⟩ := h
    cases hvs
    exact everywhere_sequence_iff.2 (everywhere_of_throughoutItems hP items hitems)
  | mapping entries =>
    rw [Throughout, ofYaml_mapping] at h
    obtain ⟨_, hes, hself, hentries⟩ := h
    cases hes
    exact everywhere_mapping_iff.2 ⟨hself, everywhere_of_throughoutEntries hP entries entries
      (List.suffix_refl entries) (hP entries hself) hentries⟩
  | tagged tag y =>
    rw [Throughout, ofYaml] at h
    exact everywhere_tagged_iff.2 (everywhere_of_throughout hP y h)

/-- What holds throughout the items holds of every mapping in them. -/
theorem everywhere_of_throughoutItems (hP : Separates P) (items : List Yaml)
    (h : ThroughoutItems P items (Value.ofYamlItems items)) : ∀ y ∈ items, Everywhere P y := by
  cases items with
  | nil => exact fun _ hy => absurd hy List.not_mem_nil
  | cons y ys =>
    rw [ThroughoutItems, Value.ofYamlItems] at h
    obtain ⟨_, _, heq, hy, hys⟩ := h
    cases heq
    exact List.forall_mem_cons.2 ⟨everywhere_of_throughout hP y hy, everywhere_of_throughoutItems hP ys hys⟩

/-- What holds throughout the entries holds of every mapping in them, since each is kept. -/
theorem everywhere_of_throughoutEntries (hP : Separates P) (whole entries : List (Yaml × Yaml))
    (hwhole : entries <:+ whole) (hnodup : (whole.map entryText).Nodup)
    (h : ThroughoutEntries P (Entries.insertAll (whole.map pair) []) entries) :
    ∀ entry ∈ entries, Everywhere P entry.1 ∧ Everywhere P entry.2 := by
  match entries, hwhole, h with
  | [], _, _ => exact fun _ hentry => absurd hentry List.not_mem_nil
  | (k, y) :: entries, hwhole, h =>
    rw [ThroughoutEntries] at h
    obtain ⟨hk, hy, hentries⟩ := h
    have hlast : entryText (k, y) ∉ entries.map entryText :=
      (List.nodup_cons.1 (hnodup.sublist (hwhole.map entryText).sublist)).1
    obtain ⟨v, hget, hy⟩ := hy.resolve_left hlast
    cases (get?_last hwhole hlast).symm.trans hget
    exact List.forall_mem_cons.2 ⟨⟨everywhere_of_throughout hP k hk, everywhere_of_throughout hP y hy⟩,
      everywhere_of_throughoutEntries hP whole entries ((List.suffix_cons _ _).trans hwhole) hnodup hentries⟩

end

/-- A mapping becomes a map with one entry for each text of a key, the last one, at every depth. So all
entries are kept if and only if no mapping has two keys of one text. -/
theorem throughout_keepsLast (y : Yaml) :
    Throughout KeepsLast y (ofYaml y) ∧
      (Throughout KeepsEach y (ofYaml y) ↔
        ∀ entries, Part (.mapping entries) y → (entries.map entryText).Nodup) := by
  refine ⟨throughout_of_everywhere y fun entries _ => keepsLast entries, fun h => ?_, fun h => ?_⟩
  · intro entries hpart
    exact keepsEach_iff.1 (everywhere_of_throughout (fun _ => keepsEach_iff.1) y h entries hpart)
  · exact throughout_of_everywhere y fun entries hpart => keepsEach_iff.2 (h entries hpart)

/-- The keys `1` and `"1"` are different, but they have one text. -/
theorem entry_lost_of_text :
    ∃ entries : List (Yaml × Yaml), entries.Pairwise (fun d e => d.1.same e.1 = false) ∧
      ¬ Throughout KeepsEach (.mapping entries) (ofYaml (.mapping entries)) := by
  refine ⟨[(.number (.unsigned 1), .string "a"), (.string "1", .string "b")], by decide, ?_⟩
  intro h
  rw [Throughout] at h
  obtain ⟨es, hes, hkeeps, -⟩ := h
  rw [ofYaml_mapping] at hes
  cases hes
  exact absurd (keepsEach_iff.1 hkeeps) (by decide)

end

end LayeredConfig.Yaml
