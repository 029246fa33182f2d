import LayeredConfig.Source.Resolve
import LayeredConfig.Proofs.Schema.Reading

/-!
# Literals in a schema

A schema reads an array item by item, an object with a type as what the type says, and anything else as
it stands. So a part of a schema is a literal if none of the objects that are reached through arrays
alone has a type; what lies below an object without a type is never looked at (`Json.Literal`).

`Loader.readsAs_iff_literal` says that an argument has the value of its document if and only if it is a
literal, although the value is put together from the items in one case and read off the document in the
other. With it, a fixed source gives back the literals and nothing else
(`Loader.fixed_unchanged_iff`).
-/

namespace LayeredConfig

namespace Json

/-- What is reached from a document through arrays alone, itself included. -/
inductive Reached (node : Json) : Json → Prop where
  | whole : Reached node node
  | item {items x} : Reached node (.array items) → x ∈ items → Reached node x

/-- No object that is reached through arrays alone has a type. -/
def Literal (node : Json) : Prop :=
  ∀ members, node.Reached (.object members) → "type" ∉ Entries.keys members

/-- From an item everything is reached that is reached from the array. -/
theorem Reached.of_item {items : List Json} {x node : Json} (hx : x ∈ items)
    (h : x.Reached node) : Reached (.array items) node := by
  induction h with
  | whole => exact .item .whole hx
  | item _ hmem ih => exact .item ih hmem

/-- What is reached from an array is the array or is reached from an item. -/
theorem Reached.eq_or_of_array {items : List Json} {node : Json} (h : Reached (.array items) node) :
    node = .array items ∨ ∃ x ∈ items, x.Reached node := by
  induction h with
  | whole => exact .inl rfl
  | item _ hmem ih =>
    rcases ih with heq | ⟨x, hx, hreached⟩
    · cases heq
      exact .inr ⟨_, hmem, .whole⟩
    · exact .inr ⟨x, hx, .item hreached hmem⟩

/-- From a document that is no array, nothing else is reached. -/
theorem Reached.eq_of_not_array {node x : Json} (hnot : ∀ items, node ≠ .array items)
    (h : node.Reached x) : x = node := by
  induction h with
  | whole => rfl
  | item _ _ ih => exact absurd ih.symm (hnot _)

/-- An array is literal if its items are. -/
theorem literal_array_iff {items : List Json} :
    Literal (.array items) ↔ ∀ x ∈ items, x.Literal := by
  constructor
  · intro h x hx members hreached
    exact h members (hreached.of_item hx)
  · intro h members hreached
    rcases hreached.eq_or_of_array with heq | ⟨x, hx, hreached⟩
    · cases heq
    · exact h x hx members hreached

/-- An object is literal if it has no type; its members are not looked at. -/
theorem literal_object_iff {members : Entries Json} :
    Literal (.object members) ↔ "type" ∉ Entries.keys members := by
  constructor
  · intro h
    exact h members .whole
  · intro h others hreached
    have heq : Json.object others = .object members := hreached.eq_of_not_array nofun
    cases heq
    exact h

/-- A document without parts is a literal. -/
theorem literal_of_scalar {node : Json} (harray : ∀ items, node ≠ .array items)
    (hobject : ∀ members, node ≠ .object members) : node.Literal := by
  intro members hreached
  exact absurd (hreached.eq_of_not_array harray).symm (hobject members)

end Json

namespace Loader

variable {loader : Loader}

/-- As an argument, the node has a value. -/
def ReadsAs (loader : Loader) (node : Json) (v : Value) : Prop :=
  ∃ argument, (loader.read node).argument = .ok argument ∧ argument.toValue? = some v

/-! ## Nodes -/

/-- A node that is read as it stands is read as the value of its document. -/
theorem readsAs_of_argument {node : Json}
    (h : (loader.read node).argument = .ok (.value (Value.ofJson node))) :
    loader.ReadsAs node (Value.ofJson node) := ⟨_, h, rfl⟩

/-- A cast as an argument is no map. -/
theorem toValue?_castArgument_ne_map {change : Cast} {argument : Argument}
    (h : castArgument change = .ok argument) (entries : Entries Value) :
    argument.toValue? ≠ some (.map entries) := by
  unfold castArgument at h
  split at h
  · next literal encoding =>
    simp only [Cast.encodeText] at h
    cases hbytes : encoding.encode literal with
    | error c => simp [hbytes] at h
    | ok bytes =>
      simp only [hbytes] at h
      cases h
      simp [Argument.toValue?]
  · cases h
    simp [Argument.toValue?]

/-- An object is read as the value of its document if and only if it has no type. -/
theorem readsAs_object_iff {members : Entries Json} :
    loader.ReadsAs (.object members) (Value.ofJson (.object members)) ↔
      "type" ∉ Entries.keys members := by
  rw [← Entries.isSome_get?_iff, Option.not_isSome_iff_eq_none]
  constructor
  · rintro ⟨argument, hargument, hvalue⟩
    simp only [read_object, ofMembers] at hargument
    cases htype : typeOf (loader.readMembers members) with
    | error e => simp [htype] at hargument
    | ok name =>
      cases name with
      | none =>
        simp only [typeOf, get?_readMembers] at htype
        cases hget : Entries.get? "type" members with
        | none => rfl
        | some node => cases node <;> simp [hget] at htype
      | some typeName =>
        -- what has a type is a cast or a source, and never a map
        simp only [htype] at hargument
        split at hargument
        · obtain ⟨change, -, hchange⟩ := bind_eq_ok_iff.1 hargument
          exact absurd hvalue (toValue?_castArgument_ne_map hchange _)
        · cases hsource : loader.sourceOf (loader.readMembers members) with
          | error e => simp [hsource, Except.map] at hargument
          | ok source =>
            simp only [hsource, Except.map] at hargument
            cases hargument
            simp [Argument.toValue?] at hvalue
  · intro hnone
    refine readsAs_of_argument ?_
    simp [read_object, ofMembers, typeOf, get?_readMembers, hnone]

mutual

/-- An argument has the value of its document if and only if it is a literal. -/
theorem readsAs_iff_literal : ∀ node : Json,
    loader.ReadsAs node (Value.ofJson node) ↔ node.Literal
  | .array items => by
    rw [Json.literal_array_iff, ← readsAs_items_iff_literal items, ReadsAs]
    simp only [read, ofItems, readItems_eq_map]
    cases hcollect : collect (items.map loader.read) with
    | error e => simp [Except.map]
    | ok arguments =>
      cases hvalues : Argument.toValues? arguments <;>
        simp [Except.map, Argument.toValue?, Value.ofJson, hvalues]
  | .object members => readsAs_object_iff.trans Json.literal_object_iff.symm
  | .null => iff_of_true (readsAs_of_argument rfl) (Json.literal_of_scalar nofun nofun)
  | .bool _ => iff_of_true (readsAs_of_argument rfl) (Json.literal_of_scalar nofun nofun)
  | .number _ => iff_of_true (readsAs_of_argument rfl) (Json.literal_of_scalar nofun nofun)
  | .string _ => iff_of_true (readsAs_of_argument rfl) (Json.literal_of_scalar nofun nofun)

/-- Arguments have the values of their documents if and only if all are literals. -/
theorem readsAs_items_iff_literal : ∀ items : List Json,
    (∃ arguments, collect (items.map loader.read) = .ok arguments ∧
        Argument.toValues? arguments = some (Value.ofJsonItems items)) ↔
      ∀ item ∈ items, item.Literal
  | [] => by simp [collect, Argument.toValues?, Value.ofJsonItems]
  | item :: items => by
    rw [List.forall_mem_cons, ← readsAs_iff_literal item, ← readsAs_items_iff_literal items, ReadsAs]
    simp only [List.map_cons, collect]
    cases (loader.read item).argument with
    | error e => simp
    | ok argument =>
      cases collect (items.map loader.read) with
      | error e => simp
      | ok arguments =>
        cases hfirst : argument.toValue? <;> cases hrest : Argument.toValues? arguments <;>
          simp [Argument.toValues?, Value.ofJsonItems, hfirst, hrest]

end

/-! ## Fixed sources -/

/-- A node without a cast that is not optional is the source that its constructor builds. -/
theorem loadSource_plain_iff {members : Entries Json} {items : List Json} {typeName : String}
    {constructor : Constructor} {source : Source}
    (htype : Entries.get? "type" members = some (.string typeName)) (hcast : typeName ∉ castTypes)
    (hfound : loader.sources.find? typeName = some constructor)
    (hplaces : (Entries.get? "args" members).getD (.array []) = .array items)
    (hoptional : Entries.get? "optional" members = none)
    (hchange : Entries.get? "cast_to" members = none) :
    loader.loadSource (.object members) = .ok source ↔
      ∃ positional named, collect (items.map loader.read) = .ok positional ∧
        namedArguments (loader.readMembers members) = .ok named ∧
        construct constructor (.ofNode typeName positional named none) = .ok source := by
  have hname : requireType (loader.readMembers members) = .ok typeName :=
    requireType_eq_ok_iff.2 htype
  have hread : (loader.read (.object members)).source = loader.sourceOf (loader.readMembers members) :=
    rfl
  rw [loadSource, hread, sourceOf_eq_ok_iff]
  simp only [positionalArguments_of_items hplaces, isOptional, castTo, get?_readMembers, hoptional,
    hchange, hname, Option.map_none]
  constructor
  · rintro ⟨_, _, positional, _, _, named, inner, ⟨⟩, -, hfound', hcollect, ⟨⟩, ⟨⟩, hnamed, hinner, rfl⟩
    cases hfound.symm.trans hfound'
    exact ⟨positional, named, hcollect, hnamed, hinner⟩
  · rintro ⟨positional, named, hcollect, hnamed, hinner⟩
    exact ⟨typeName, constructor, positional, false, none, named, source, rfl, hcast, hfound, hcollect,
      rfl, rfl, hnamed, hinner, rfl⟩

/-- The schema of a fixed value, given by position. -/
def fixedByPlace (node : Json) : Json :=
  .object [("args", .array [node]), ("type", .string "StaticSource")]

/-- The schema of a fixed value, given by name. -/
def fixedByName (node : Json) : Json :=
  .object [("config", node), ("type", .string "StaticSource")]

/-- A fixed source has the value of its argument, which must have one. -/
theorem construct_static_iff {args : Arguments} {argument : Argument} {source : Source}
    (hpick : args.pick (some 0) "config" = .ok (some argument))
    (hleft : (args.without (some 0) "config").finish = .ok none) :
    construct .static args = .ok source ↔ ∃ v, argument.toValue? = some v ∧ source = .static v := by
  have hrun : Constructor.static.runOn args =
      (argument.toValue?.elim (.error (args.invalid "config" .literal)) fun v => .ok (.static v),
        args.without (some 0) "config") := by
    simp only [Constructor.static, Taking.requireValue, Taking.value, Taking.takeAs, Taking.take,
      Taking.runOn_bind, Taking.runOn_ofStep, hpick]
    cases argument.toValue? <;> rfl
  rw [construct, hrun]
  cases argument.toValue? with
  | none => simp
  | some v => simp [hleft, eq_comm]

section

variable (hstatic : loader.sources.find? "StaticSource" = some .static)
include hstatic

/-- A fixed source given by position loads where its node is read as a value. -/
theorem loadSource_fixedByPlace_iff {node : Json} {source : Source} :
    loader.loadSource (fixedByPlace node) = .ok source ↔
      ∃ v, loader.ReadsAs node v ∧ source = .static v := by
  rw [fixedByPlace, loadSource_plain_iff rfl (by decide) hstatic rfl rfl rfl]
  simp only [List.map_cons, List.map_nil, collect, ReadsAs]
  cases (loader.read node).argument with
  | error e => simp
  | ok argument =>
    simpa [readMembers, namedArguments, reservedKeys] using construct_static_iff rfl rfl

theorem loadSource_fixedByName_iff {node : Json} {source : Source} :
    loader.loadSource (fixedByName node) = .ok source ↔
      ∃ v, loader.ReadsAs node v ∧ source = .static v := by
  rw [fixedByName, loadSource_plain_iff rfl (by decide) hstatic rfl rfl rfl]
  simp only [List.map_nil, collect, ReadsAs]
  cases hargument : (loader.read node).argument with
  | error e => simp [readMembers, namedArguments, reservedKeys, hargument]
  | ok argument =>
    simpa [readMembers, namedArguments, reservedKeys, hargument] using construct_static_iff rfl rfl

/-- **Literals pass through a schema unchanged.** A fixed source that is given a document, by position or
by name, loads and has the value of that document in every world if and only if the document is a
literal. -/
theorem fixed_unchanged_iff (node : Json) :
    ((∃ source, loader.loadSource (fixedByPlace node) = .ok source ∧
        ∀ w, source.resolve w = .ok (Value.ofJson node)) ↔ node.Literal) ∧
      ((∃ source, loader.loadSource (fixedByName node) = .ok source ∧
        ∀ w, source.resolve w = .ok (Value.ofJson node)) ↔ node.Literal) := by
  rw [← @readsAs_iff_literal loader node]
  simp only [loadSource_fixedByPlace_iff hstatic, loadSource_fixedByName_iff hstatic, and_self]
  constructor
  · rintro ⟨_, ⟨v, hreads, rfl⟩, hresolve⟩
    have hvalue : v = Value.ofJson node := Except.ok.inj (hresolve .empty)
    exact hvalue ▸ hreads
  · intro hreads
    exact ⟨.static (Value.ofJson node), ⟨_, hreads, rfl⟩, fun _ => rfl⟩

end

/-- Objects that look like sources and casts, below an object without a type. -/
def lookalikes : Json := .array [
  .array [],
  .object [
    ("cast_to", .object [("type", .string "lambda")]),
    ("items", .array [.object [("type", .string "FileSource")], .object [("type", .null)]])]]

/-- Nothing below an object without a type is taken for a source or a cast. -/
theorem lookalikes_unchanged : builtins.sources.find? "StaticSource" = some .static ∧
    ∃ source, builtins.loadSource (fixedByPlace lookalikes) = .ok source ∧
      ∀ w, source.resolve w = .ok (Value.ofJson lookalikes) := by
  have hliteral : lookalikes.Literal := by
    refine Json.literal_array_iff.2 (List.forall_mem_cons.2 ⟨?_, List.forall_mem_singleton.2 ?_⟩)
    · exact Json.literal_array_iff.2 nofun
    · exact Json.literal_object_iff.2 (by decide)
  exact ⟨rfl, (fixed_unchanged_iff rfl lookalikes).1.2 hliteral⟩

end Loader

end LayeredConfig
