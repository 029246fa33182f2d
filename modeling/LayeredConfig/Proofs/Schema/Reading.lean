import LayeredConfig.Proofs.Entries
import LayeredConfig.Proofs.Schema.Fields

/-!
# When a node can be read

The meanings of a node are found from those of its parts. The lemmas say, for each way to read a node,
when it succeeds and what it then gives: arguments by position (`collect_eq_ok_iff`), arguments by name
(`exists_namedArguments_iff`, `get?_namedArguments`), and the source of a node (`sourceOf_eq_ok_iff`).
-/

namespace LayeredConfig

namespace Loader

variable {loader : Loader}

/-! ## The parts of a node -/

/-- Items are read one by one. -/
theorem readItems_eq_map (loader : Loader) (items : List Json) :
    loader.readItems items = items.map loader.read := by
  induction items with
  | nil => rfl
  | cons item items ih => rw [readItems, ih, List.map_cons]

/-- Members are read one by one, under their keys. -/
theorem readMembers_eq_map (loader : Loader) (members : Entries Json) :
    loader.readMembers members = members.map fun entry => (entry.1, loader.read entry.2) := by
  induction members with
  | nil => rfl
  | cons entry members ih => rw [readMembers, ih, List.map_cons]

/-- Reading a member and then looking it up is looking it up and then reading it. -/
theorem get?_readMembers (loader : Loader) (key : String) (members : Entries Json) :
    Entries.get? key (loader.readMembers members) = (Entries.get? key members).map loader.read := by
  induction members with
  | nil => rfl
  | cons entry members ih =>
    obtain ⟨k, node⟩ := entry
    simp only [readMembers, Entries.get?]
    split
    · rfl
    · exact ih

theorem keys_readMembers (loader : Loader) (members : Entries Json) :
    Entries.keys (loader.readMembers members) = Entries.keys members := by
  simp [Entries.keys, readMembers_eq_map, Function.comp_def]

theorem sorted_readMembers {members : Entries Json} (h : members.Sorted) :
    (loader.readMembers members).Sorted := by
  rw [readMembers_eq_map]
  exact List.pairwise_map.2 h

@[simp] theorem node_read (loader : Loader) (node : Json) : (loader.read node).node = node := by
  cases node <;> rfl

theorem read_object (loader : Loader) (members : Entries Json) :
    loader.read (.object members) =
      loader.ofMembers (.object members) (loader.readMembers members) := rfl

/-- The items of an array are its arguments, collected. -/
theorem items_read_array (loader : Loader) (items : List Json) :
    (loader.read (.array items)).items = some (collect (items.map loader.read)) := by
  rw [← readItems_eq_map]
  rfl

/-- The type of a node is the text under its key. -/
theorem typeOf_eq_some_iff {members : Entries Json} {typeName : String} :
    typeOf (loader.readMembers members) = .ok (some typeName) ↔
      Entries.get? "type" members = some (.string typeName) := by
  simp only [typeOf, get?_readMembers]
  cases Entries.get? "type" members with
  | none => simp
  | some node => cases node <;> simp

/-- The type of a node is the text under `type`. -/
theorem requireType_eq_ok_iff {members : Entries Json} {typeName : String} :
    requireType (loader.readMembers members) = .ok typeName ↔
      Entries.get? "type" members = some (.string typeName) := by
  have htype := @typeOf_eq_some_iff loader members typeName
  rw [← htype, requireType]
  cases typeOf (loader.readMembers members) with
  | error e => simp
  | ok name => cases name <;> simp

/-! ## Arguments -/

/-- What is found is the same if it is the same as a success. -/
theorem eq_of_map_ok {found found' : Option Argument}
    (h : found.map (Except.ok : Argument → Except SchemaError Argument) = found'.map Except.ok) :
    found = found' :=
  (Option.map_inj_right fun _ _ heq => Except.ok.inj heq).1 h

/-- Arguments are collected if and only if each can be read. -/
theorem collect_eq_ok_iff {readings : List Reading} {arguments : List Argument} :
    collect readings = .ok arguments ↔ readings.map Reading.argument = arguments.map Except.ok := by
  induction readings generalizing arguments with
  | nil => cases arguments <;> simp [collect]
  | cons reading readings ih =>
    simp only [collect]
    cases hfirst : reading.argument with
    | error e => cases arguments <;> simp [hfirst]
    | ok argument =>
      cases hrest : collect readings with
      | error e =>
        have hnot (others : List Argument) : readings.map Reading.argument ≠ others.map Except.ok :=
          fun h => by cases hrest.symm.trans (ih.2 h)
        cases arguments with
        | nil => simp
        | cons a others => simp [hnot others]
      | ok others =>
        have hothers := ih.1 hrest
        cases arguments with
        | nil => simp
        | cons a rest =>
          simp only [Except.ok.injEq, List.cons.injEq, List.map_cons, hfirst, hothers]
          rw [List.map_inj_right fun _ _ h => Except.ok.inj h]

/-- Every argument collected is what one of the readings means. -/
theorem exists_reading_of_collect {readings : List Reading} {arguments : List Argument}
    (h : collect readings = .ok arguments) {argument : Argument} (hmem : argument ∈ arguments) :
    ∃ reading ∈ readings, reading.argument = .ok argument := by
  have hread : Except.ok argument ∈ readings.map Reading.argument :=
    collect_eq_ok_iff.1 h ▸ List.mem_map_of_mem hmem
  exact List.mem_map.1 hread

/-- Every reading becomes one argument. -/
theorem length_of_collect {readings : List Reading} {arguments : List Argument}
    (h : collect readings = .ok arguments) : arguments.length = readings.length := by
  have hlength := congrArg List.length (collect_eq_ok_iff.1 h)
  simpa using hlength.symm

/-- Every argument is that of the reading at its place. -/
theorem getElem?_of_collect {readings : List Reading} {arguments : List Argument}
    (h : collect readings = .ok arguments) (i : Nat) :
    arguments[i]?.map Except.ok = readings[i]?.map Reading.argument := by
  rw [← List.getElem?_map, ← List.getElem?_map, collect_eq_ok_iff.1 h]

/-- The first arguments are collected from the first readings. -/
theorem collect_take {readings : List Reading} {arguments : List Argument}
    (h : collect readings = .ok arguments) (count : Nat) :
    collect (readings.take count) = .ok (arguments.take count) := by
  rw [collect_eq_ok_iff, List.map_take, List.map_take, collect_eq_ok_iff.1 h]

theorem collect_drop {readings : List Reading} {arguments : List Argument}
    (h : collect readings = .ok arguments) (count : Nat) :
    collect (readings.drop count) = .ok (arguments.drop count) := by
  rw [collect_eq_ok_iff, List.map_drop, List.map_drop, collect_eq_ok_iff.1 h]

/-- Nodes can be collected if and only if each can be read as an argument. -/
theorem exists_collect_iff {readings : List Reading} :
    (∃ arguments, collect readings = .ok arguments) ↔
      ∀ reading ∈ readings, ∃ argument, reading.argument = .ok argument := by
  induction readings with
  | nil => simp [collect]
  | cons reading readings ih =>
    rw [List.forall_mem_cons, ← ih]
    simp only [collect]
    cases reading.argument with
    | error e => simp
    | ok argument => cases collect readings <;> simp

/-- The arguments by position are those of the items of an array. Without it, there are none. -/
theorem positionalArguments_of_items {typeName : String} {members : Entries Json}
    {items : List Json} (h : (Entries.get? "args" members).getD (.array []) = .array items) :
    positionalArguments typeName (loader.readMembers members) = collect (items.map loader.read) := by
  simp only [positionalArguments, get?_readMembers]
  cases hargs : Entries.get? "args" members with
  | none =>
    rw [hargs] at h
    cases h
    rfl
  | some node =>
    rw [hargs] at h
    cases h
    simp [items_read_array]

/-- The arguments given by name can be read if and only if each can. -/
theorem exists_namedArguments_iff {members : Entries Reading} :
    (∃ named, namedArguments members = .ok named) ↔
      ∀ entry ∈ members, entry.1 ∉ reservedKeys → ∃ argument, entry.2.argument = .ok argument := by
  induction members with
  | nil => simp [namedArguments]
  | cons entry members ih =>
    obtain ⟨key, reading⟩ := entry
    rw [List.forall_mem_cons, ← ih]
    simp only [namedArguments]
    by_cases hkey : key ∈ reservedKeys
    · simp [hkey]
    · have hcontains : ¬ reservedKeys.contains key = true := by simpa using hkey
      simp only [hcontains, hkey, not_false_eq_true, true_imp_iff]
      cases hargument : reading.argument with
      | error e => simp
      | ok argument => cases namedArguments members <;> simp

/-- The arguments given by name are those under the keys that are not reserved. -/
theorem get?_namedArguments {members : Entries Reading} {named : Entries Argument}
    (h : namedArguments members = .ok named) (key : String) :
    (Entries.get? key named).map Except.ok =
      if key ∈ reservedKeys then none else (Entries.get? key members).map Reading.argument := by
  induction members generalizing named with
  | nil =>
    cases h
    simp
  | cons entry members ih =>
    obtain ⟨k, reading⟩ := entry
    simp only [namedArguments] at h
    split at h
    · next hreserved =>
      have hmem : k ∈ reservedKeys := by simpa using hreserved
      rw [ih h]
      by_cases hkey : key = k
      · subst hkey
        simp [hmem]
      · simp [Entries.get?, hkey]
    · next hreserved =>
      have hmem : k ∉ reservedKeys := by simpa using hreserved
      split at h
      · cases h
      · next argument hargument =>
        split at h
        · cases h
        · next others hothers =>
          cases h
          by_cases hkey : key = k
          · subst hkey
            simp [Entries.get?, hmem, hargument]
          · simpa [Entries.get?, hkey] using ih hothers

/-- A name that is not reserved is given if and only if it is a key. -/
theorem isSome_get?_namedArguments {members : Entries Reading} {named : Entries Argument}
    (h : namedArguments members = .ok named) {key : String} (hkey : key ∉ reservedKeys) :
    (Entries.get? key named).isSome ↔ key ∈ Entries.keys members := by
  have hget := congrArg Option.isSome (get?_namedArguments h key)
  rw [if_neg hkey, Option.isSome_map, Option.isSome_map] at hget
  rw [hget, Entries.isSome_get?_iff]

/-- A named argument is what a member means, under the name of the member. -/
theorem mem_of_mem_namedArguments {members : Entries Reading} {named : Entries Argument}
    (h : namedArguments members = .ok named) :
    ∀ entry ∈ named, ∃ reading, (entry.1, reading) ∈ members ∧ reading.argument = .ok entry.2 := by
  induction members generalizing named with
  | nil =>
    cases h
    nofun
  | cons entry members ih =>
    obtain ⟨k, reading⟩ := entry
    simp only [namedArguments] at h
    split at h
    · intro entry hentry
      obtain ⟨reading, hreading, hargument⟩ := ih h entry hentry
      exact ⟨reading, List.mem_cons_of_mem _ hreading, hargument⟩
    · split at h
      · cases h
      · next argument hargument =>
        split at h
        · cases h
        · next others hothers =>
          cases h
          rintro entry (_ | ⟨_, hentry⟩)
          · exact ⟨reading, List.mem_cons_self, hargument⟩
          · obtain ⟨reading, hreading, hargument⟩ := ih hothers entry hentry
            exact ⟨reading, List.mem_cons_of_mem _ hreading, hargument⟩

/-- Named arguments are in the order of their members. -/
theorem sorted_namedArguments {members : Entries Reading} {named : Entries Argument}
    (hsorted : members.Sorted) (h : namedArguments members = .ok named) : named.Sorted := by
  induction members generalizing named with
  | nil =>
    cases h
    exact Entries.sorted_nil
  | cons entry members ih =>
    obtain ⟨k, reading⟩ := entry
    obtain ⟨hbefore, hrest⟩ := Entries.sorted_cons.1 hsorted
    simp only [namedArguments] at h
    split at h
    · exact ih hrest h
    · split at h
      · cases h
      · split at h
        · cases h
        · next others hothers =>
          cases h
          refine Entries.sorted_cons.2 ⟨fun entry hentry => ?_, ih hrest hothers⟩
          obtain ⟨reading, hreading, -⟩ := mem_of_mem_namedArguments hothers entry hentry
          exact hbefore _ hreading

/-! ## Sources -/

/-- A node is a source if and only if its type is one of the table, its parts can be read, and the
constructor of the type makes a source of them. -/
theorem sourceOf_eq_ok_iff {members : Entries Reading} {source : Source} :
    loader.sourceOf members = .ok source ↔
      ∃ typeName constructor positional optional change named inner,
        requireType members = .ok typeName ∧ typeName ∉ castTypes ∧
        loader.sources.find? typeName = some constructor ∧
        positionalArguments typeName members = .ok positional ∧
        isOptional typeName members = .ok optional ∧ castTo members = .ok change ∧
        namedArguments members = .ok named ∧
        construct constructor (.ofNode typeName positional named change) = .ok inner ∧
        source = if optional then .optional inner .empty else inner := by
  constructor
  · intro h
    simp only [sourceOf, bind_eq_ok_iff] at h
    obtain ⟨typeName, htype, h⟩ := h
    split at h
    · obtain ⟨_, hthrow, -⟩ := bind_eq_ok_iff.1 h
      cases hthrow
    · next hcast =>
      split at h
      · cases h
      · next constructor hfound =>
        simp only [bind_eq_ok_iff] at h
        obtain ⟨positional, hpositional, optional, hoptional, change, hchange, named, hnamed, inner,
          hinner, hsource⟩ := h
        refine ⟨typeName, constructor, positional, optional, change, named, inner, htype, ?_, hfound,
          hpositional, hoptional, hchange, hnamed, hinner, ?_⟩
        · simpa using hcast
        · exact (Except.ok.inj hsource).symm
  · rintro ⟨typeName, constructor, positional, optional, change, named, inner, htype, hcast, hfound,
      hpositional, hoptional, hchange, hnamed, hinner, rfl⟩
    simp [sourceOf, htype, hcast, hfound, hpositional, hoptional, hchange, hnamed, hinner,
      bind, Except.bind, pure, Except.pure]

end Loader

end LayeredConfig
