import LayeredConfig.Proofs.Schema.Reading
import LayeredConfig.Proofs.Schema.Signature

/-!
# No part of a schema is ignored

`Interprets` says which nodes inside a node are read, and as what: as sources, as casts, or as arguments.
If a node is accepted then so is every node that is read inside it (`Accepts.of_interprets`), and an
accepted node has only keys and places that its type has a use for, each argument once (`Accounted`). So
the loader refuses a schema with anything superfluous in it, however deep.
-/

namespace LayeredConfig

/-- As what a node of a schema is read. -/
inductive Role where
  | source
  | cast
  | argument
deriving DecidableEq, Repr

/-- The members that a type of cast has a use for. -/
def castParameters? : String → Option (List String)
  | "lambda" => some ["operation"]
  | "binary" => some ["value", "encoding"]
  | "import" => some ["module", "attribute", "cast_before"]
  | _ => none

namespace Loader

variable {loader : Loader} {role : Role} {node : Json}

/-- The nodes that are read when a node is read, with the role in which each is. A literal has no such
nodes inside, whatever its keys are. -/
inductive Interprets (role : Role) (node : Json) : Role → Json → Prop where
  | whole : Interprets role node role node
  | positional {members items item} : Interprets role node .source (.object members) →
      Entries.get? "args" members = some (.array items) → item ∈ items →
      Interprets role node .argument item
  | named {members key value} : Interprets role node .source (.object members) →
      (key, value) ∈ members → key ∉ reservedKeys → Interprets role node .argument value
  | castTo {members change} : Interprets role node .source (.object members) →
      Entries.get? "cast_to" members = some change → Interprets role node .cast change
  | castBefore {members change} : Interprets role node .cast (.object members) →
      Entries.get? "type" members = some (.string "import") →
      Entries.get? "cast_before" members = some change → Interprets role node .cast change
  | item {items item} : Interprets role node .argument (.array items) → item ∈ items →
      Interprets role node .argument item
  | cast {members typeName} : Interprets role node .argument (.object members) →
      Entries.get? "type" members = some (.string typeName) → typeName ∈ castTypes →
      Interprets role node .cast (.object members)
  | source {members typeName} : Interprets role node .argument (.object members) →
      Entries.get? "type" members = some (.string typeName) → typeName ∉ castTypes →
      Interprets role node .source (.object members)

/-- The loader can read a node in a role. -/
def Accepts (loader : Loader) : Role → Json → Prop
  | .source, node => ∃ source, loader.loadSource node = .ok source
  | .cast, node => ∃ change, loader.loadCast node = .ok change
  | .argument, node => ∃ argument, (loader.read node).argument = .ok argument

/-- Every key of a source node is reserved or the name of a parameter of its type. If its type has one
argument for each parameter, then there are not more places than parameters, and no parameter is given
both at its place and under its name. -/
structure SourceAccounted (members : Entries Json) (signature : Signature) : Prop where
  keys : ∀ key ∈ Entries.keys members, key ∈ reservedKeys ∨ key ∈ signature.names
  places : ∀ parameters items, signature = .each parameters →
    Entries.get? "args" members = some (.array items) → items.length ≤ parameters.length
  once : ∀ parameters items i name, signature = .each parameters →
    Entries.get? "args" members = some (.array items) → i < items.length →
    parameters[i]? = some name → name ∉ Entries.keys members

/-- Nothing in a node is superfluous. -/
def Accounted : Role → Json → Prop
  | .source, .object members => ∃ typeName signature,
    Entries.get? "type" members = some (.string typeName) ∧
      Signature.ofType? typeName = some signature ∧ SourceAccounted members signature
  | .cast, .object members => ∃ typeName parameters,
    Entries.get? "type" members = some (.string typeName) ∧
      castParameters? typeName = some parameters ∧
      ∀ key ∈ Entries.keys members, key = "type" ∨ key ∈ parameters
  | .argument, _ => True
  | _, _ => False

/-! ## Casts -/

/-- The members of a cast are those that its type takes, and a cast before it can be read. -/
theorem accounted_of_castOf {members : Entries Reading} {change : Cast}
    (h : loader.castOf members = .ok change) : ∃ typeName parameters,
      requireType members = .ok typeName ∧ castParameters? typeName = some parameters ∧
      (∀ key ∈ Entries.keys members, key = "type" ∨ key ∈ parameters) ∧
      (typeName = "import" → ∀ reading, Entries.get? "cast_before" members = some reading →
        ∃ before, reading.cast = .ok before) := by
  obtain ⟨typeName, rest, htype, hrun, hfinish⟩ := castOf_eq_ok_iff.1 h
  unfold castOfType at hrun
  split at hrun
  · exact ⟨"lambda", _, htype, rfl, keys_of_takes takes_expressionCast hrun hfinish,
      fun heq => absurd heq (by decide)⟩
  · exact ⟨"binary", _, htype, rfl, keys_of_takes takes_encodingCast hrun hfinish,
      fun heq => absurd heq (by decide)⟩
  · obtain ⟨_, _, _, _, -, -, -, hbefore⟩ := functionCast_eq_ok hrun
    exact ⟨"import", _, htype, rfl, keys_of_takes (takes_functionCast _) hrun hfinish, fun _ => hbefore⟩
  · cases hrun

/-! ## Nodes -/

/-- The parts of an accepted source can be read. -/
theorem parts_of_sourceOf {members : Entries Json} {source : Source}
    (h : loader.sourceOf (loader.readMembers members) = .ok source) :
    (∀ items item, Entries.get? "args" members = some (.array items) → item ∈ items →
        loader.Accepts .argument item) ∧
      (∀ key value, (key, value) ∈ members → key ∉ reservedKeys → loader.Accepts .argument value) ∧
      ∀ change, Entries.get? "cast_to" members = some change → loader.Accepts .cast change := by
  obtain ⟨typeName, _, arguments, _, change, named, _, _, _, _, hpositional, _, hchange, hnamed, -⟩ :=
    sourceOf_eq_ok_iff.1 h
  refine ⟨fun items item hargs hitem => ?_, fun key value hmem hkey => ?_, fun node hget => ?_⟩
  · rw [positionalArguments_of_items (by rw [hargs, Option.getD_some])] at hpositional
    exact exists_collect_iff.1 ⟨arguments, hpositional⟩ _ (List.mem_map_of_mem hitem)
  · refine exists_namedArguments_iff.1 ⟨named, hnamed⟩ (key, loader.read value) ?_ hkey
    rw [readMembers_eq_map]
    exact List.mem_map_of_mem (f := fun entry => (entry.1, loader.read entry.2)) hmem
  · simp only [Loader.castTo, get?_readMembers, hget, Option.map_some] at hchange
    cases hcast : (loader.read node).cast with
    | error e => simp [hcast, Except.map] at hchange
    | ok c => exact ⟨c, hcast⟩

/-- A node with a type that is accepted as an argument is accepted as what its type says. -/
theorem accepts_of_argument {members : Entries Json} {typeName : String}
    (h : loader.Accepts .argument (.object members))
    (htype : Entries.get? "type" members = some (.string typeName)) :
    loader.Accepts (if typeName ∈ castTypes then .cast else .source) (.object members) := by
  obtain ⟨argument, hargument⟩ := h
  simp only [read_object, ofMembers, typeOf_eq_some_iff.2 htype] at hargument
  by_cases hcast : typeName ∈ castTypes
  · simp only [hcast, List.contains_eq_mem, decide_true, if_true] at hargument ⊢
    obtain ⟨change, hchange, -⟩ := bind_eq_ok_iff.1 hargument
    exact ⟨change, hchange⟩
  · simp only [hcast, List.contains_eq_mem, decide_false, Bool.false_eq_true, if_false] at hargument ⊢
    cases hsource : loader.sourceOf (loader.readMembers members) with
    | error e => simp [hsource, Except.map] at hargument
    | ok source => exact ⟨source, hsource⟩

/-- What is read inside an accepted node is accepted. -/
theorem Accepts.of_interprets {role' : Role} {part : Json} (h : Interprets role node role' part)
    (haccepts : loader.Accepts role node) : loader.Accepts role' part := by
  induction h with
  | whole => exact haccepts
  | positional _ hargs hitem ih =>
    obtain ⟨source, hsource⟩ := ih
    exact (parts_of_sourceOf hsource).1 _ _ hargs hitem
  | named _ hmem hkey ih =>
    obtain ⟨source, hsource⟩ := ih
    exact (parts_of_sourceOf hsource).2.1 _ _ hmem hkey
  | castTo _ hget ih =>
    obtain ⟨source, hsource⟩ := ih
    exact (parts_of_sourceOf hsource).2.2 _ hget
  | castBefore _ htype hget ih =>
    obtain ⟨change, hchange⟩ := ih
    obtain ⟨typeName, _, hrequire, _, _, hbefore⟩ := accounted_of_castOf hchange
    have hname : typeName = "import" := by
      have heq := (requireType_eq_ok_iff.1 hrequire).symm.trans htype
      simpa using heq
    refine hbefore hname _ ?_
    rw [get?_readMembers, hget, Option.map_some]
  | @item items item _ hitem ih =>
    obtain ⟨argument, hargument⟩ := ih
    simp only [read, ofItems, readItems_eq_map] at hargument
    cases hcollect : collect (items.map loader.read) with
    | error e => simp [hcollect, Except.map] at hargument
    | ok arguments => exact exists_collect_iff.1 ⟨arguments, hcollect⟩ _ (List.mem_map_of_mem hitem)
  | cast _ htype hcast ih => simpa [hcast] using accepts_of_argument ih htype
  | source _ htype hcast ih => simpa [hcast] using accepts_of_argument ih htype

/-- An accepted cast has nothing superfluous in it. -/
theorem accounted_of_accepts_cast (h : loader.Accepts .cast node) : Accounted .cast node := by
  obtain ⟨change, hchange⟩ := h
  cases node with
  | object members =>
    obtain ⟨typeName, parameters, htype, hparameters, hkeys, -⟩ := accounted_of_castOf hchange
    rw [keys_readMembers] at hkeys
    exact ⟨typeName, parameters, requireType_eq_ok_iff.1 htype, hparameters, hkeys⟩
  | null | bool | number | string | array => cases hchange

/-- An accepted source of a type of this library has nothing superfluous in it. -/
theorem accounted_of_accepts_source (hsources : loader.sources = .builtins)
    (h : loader.Accepts .source node) : Accounted .source node := by
  obtain ⟨source, hsource⟩ := h
  cases node with
  | object members =>
    obtain ⟨typeName, constructor, arguments, _, change, named, inner, htype, _, hfound, hpositional, _,
      _, hnamed, hinner, -⟩ := sourceOf_eq_ok_iff.1 hsource
    rw [hsources] at hfound
    obtain ⟨signature, hsignature, hfollows⟩ := SourceTable.follows_builtins hfound
    obtain ⟨hcovers, hsingle⟩ := given_of_construct hfollows hinner
    have hplace {items : List Json} (hargs : Entries.get? "args" members = some (.array items)) :
        arguments.length = items.length := by
      rw [positionalArguments_of_items (by rw [hargs, Option.getD_some])] at hpositional
      rw [length_of_collect hpositional, List.length_map]
    have hgiven {key : String} (hkey : key ∈ Entries.keys members) (hreserved : key ∉ reservedKeys) :
        (Entries.get? key named).isSome := by
      rwa [isSome_get?_namedArguments hnamed hreserved, keys_readMembers]
    refine ⟨typeName, signature, requireType_eq_ok_iff.1 htype, hsignature, ?_, ?_, ?_⟩
    · intro key hkey
      by_cases hreserved : key ∈ reservedKeys
      · exact .inl hreserved
      · exact .inr (Signature.covers_name_iff.1 (hcovers (.name key) (hgiven hkey hreserved)))
    · intro parameters items hsig hargs
      refine Nat.le_of_not_lt fun hlt => ?_
      -- the argument right after the last parameter is for no parameter
      have hcovered := hcovers (.place parameters.length) (by simp [hplace hargs, hlt])
      exact Nat.lt_irrefl _ (Signature.covers_place_iff.1 hcovered parameters hsig)
    · intro parameters items i name hsig hargs hi hparameter hkey
      subst hsig
      have hmem : name ∈ (Signature.each parameters).names := List.mem_of_getElem? hparameter
      have hname := hgiven hkey (Signature.not_reserved_of_mem_names hsignature name hmem)
      rcases hsingle _ (Signature.mem_accesses_each.2 ⟨i, name, hparameter, rfl⟩) with hnone | hnone
      · have hat := Arguments.at?_ofNode_place typeName arguments named change i
        rw [Arguments.at?, hnone, List.getElem?_eq_getElem (by rw [hplace hargs]; exact hi)] at hat
        cases hat
      · rw [show Entries.get? name named = none from hnone] at hname
        cases hname
  | null | bool | number | string | array => cases hsource

/-- Whatever is read inside an accepted node has nothing superfluous in it. -/
theorem accounted_of_interprets (hsources : loader.sources = .builtins)
    (haccepts : loader.Accepts role node) {role' : Role} {part : Json}
    (h : Interprets role node role' part) : Accounted role' part := by
  have hpart := Accepts.of_interprets h haccepts
  cases role' with
  | source => exact accounted_of_accepts_source hsources hpart
  | cast => exact accounted_of_accepts_cast hpart
  | argument => cases part <;> trivial

/-! ## Schemas -/

/-- The sources of a list of nodes are there only if each node is one. -/
theorem accepts_of_loadSources {nodes : List Json} {sources : List Source}
    (h : loader.loadSources nodes = .ok sources) : ∀ node ∈ nodes, loader.Accepts .source node := by
  induction nodes generalizing sources with
  | nil => nofun
  | cons first nodes ih =>
    simp only [loadSources] at h
    split at h
    · cases h
    · next source hsource =>
      split at h
      · cases h
      · next rest hrest =>
        rintro node (_ | ⟨_, hmem⟩)
        · exact ⟨source, hsource⟩
        · exact ih hrest node hmem

/-- Every node of a list that loads is accepted as a source. -/
theorem accepts_of_loadList {nodes : List Json} {source : Source}
    (h : loader.loadList nodes = .ok source) : ∀ node ∈ nodes, loader.Accepts .source node := by
  unfold loadList at h
  cases hsources : loader.loadSources nodes with
  | error e => simp [hsources, Except.map] at h
  | ok sources => exact accepts_of_loadSources hsources

/-- The nodes of a schema text: those of an array, or the one that it is. -/
def schemaNodes : Json → List Json
  | .array nodes => nodes
  | node => [node]

/-- A text that loads is a document whose nodes are accepted as sources. -/
theorem accepts_of_loadText {text : String} {source : Source}
    (h : loader.loadText text = .ok source) : ∃ document, Json.read? text = some document ∧
      ∀ node ∈ schemaNodes document, loader.Accepts .source node := by
  unfold loadText at h
  split at h
  · cases h
  · next nodes hread => exact ⟨_, hread, accepts_of_loadList h⟩
  · next document hnot hread =>
    refine ⟨_, hread, ?_⟩
    cases document with
    | array nodes => exact (hnot nodes rfl).elim
    | null | bool | number | string | object =>
      intro node hnode
      cases List.mem_singleton.1 hnode
      exact ⟨source, h⟩

/-- Nothing that is read inside a schema node is superfluous. -/
def FullyAccounted (node : Json) : Prop :=
  ∀ role part, Interprets .source node role part → Accounted role part

/-- **No part of a schema is ignored.** In a schema that is accepted, given as a node, as a list of nodes
or as a text, every key and every place of every node that is read has a use and only one; a node with
anything else in it is refused. -/
theorem fullyAccounted_of_load :
    (∀ node source, builtins.loadSource node = .ok source → FullyAccounted node) ∧
      (∀ nodes source, builtins.loadList nodes = .ok source → ∀ node ∈ nodes, FullyAccounted node) ∧
      (∀ text source, builtins.loadText text = .ok source → ∃ document,
        Json.read? text = some document ∧ ∀ node ∈ schemaNodes document, FullyAccounted node) ∧
      ∀ node, ¬ FullyAccounted node → ∃ e, builtins.loadSource node = .error e := by
  have haccounted {node : Json} (h : builtins.Accepts .source node) : FullyAccounted node :=
    fun _ _ hpart => accounted_of_interprets rfl h hpart
  refine ⟨fun node source h => haccounted ⟨source, h⟩,
    fun nodes source h node hnode => haccounted (accepts_of_loadList h node hnode),
    fun text source h => ?_, fun node hnot => ?_⟩
  · obtain ⟨document, hread, haccepts⟩ := accepts_of_loadText h
    exact ⟨document, hread, fun node hnode => haccounted (haccepts node hnode)⟩
  · cases hload : builtins.loadSource node with
    | error e => exact ⟨e, rfl⟩
    | ok source => exact (hnot (haccounted ⟨source, hload⟩)).elim

/-- An expression with a member that has no use, as the cast before a cast of a nested source. -/
def superfluous : Json := .object [
  ("args", .array [.object [
    ("args", .array [.string "PORT"]),
    ("cast_to", .object [
      ("attribute", .string "int"),
      ("cast_before", .object [
        ("note", .string "trimmed"), ("operation", .string "strip(x)"), ("type", .string "lambda")]),
      ("module", .string "builtins"),
      ("type", .string "import")]),
    ("type", .string "EnvironmentSource")]]),
  ("type", .string "OptionalSource")]

/-- A superfluous member is found however deep it is. -/
theorem superfluous_refused : ∃ e, builtins.loadSource superfluous = .error e := by
  refine fullyAccounted_of_load.2.2.2 superfluous fun h => ?_
  -- from the schema to its argument, to the cast of that, to the cast before it
  have hwhole : Interprets .source superfluous .source superfluous := .whole
  have hargument := hwhole.positional rfl (List.mem_singleton_self _)
  have hcast := (hargument.source rfl (by decide)).castTo rfl
  obtain ⟨typeName, parameters, htype, hparameters, hkeys⟩ := h _ _ (hcast.castBefore rfl rfl)
  cases htype
  cases hparameters
  rcases hkeys "note" (by decide) with hnote | hnote
  · exact absurd hnote (by decide)
  · exact absurd hnote (by decide)

end Loader

end LayeredConfig
