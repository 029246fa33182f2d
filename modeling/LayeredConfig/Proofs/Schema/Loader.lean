import LayeredConfig.Proofs.Schema.Constructors
import LayeredConfig.Proofs.Schema.Reading

/-!
# What a loaded source can fail with

Every cast of a loaded source was read from a part of its schema, with functions that the table holds
(`Loader.allCasts_loadSource`). So resolving it never meets an unknown function. A literal that its
encoding has no bytes for is refused where it is an argument, but not where it is a cast: there the
failure waits for the source to be resolved (`Loader.schemaFault_free_iff`).
-/

namespace LayeredConfig

/-- A node is a part of itself, and the parts of its items and members are parts of it. -/
inductive Json.Part (part : Json) : Json → Prop where
  | self : Part part part
  | item {x : Json} {items : List Json} : x ∈ items → Part part x → Part part (.array items)
  | member {key : String} {x : Json} {members : List (String × Json)} :
      (key, x) ∈ members → Part part x → Part part (.object members)

/-- No function of the table itself says that a function is unknown. -/
def FunctionTable.NeverUnknown (functions : FunctionTable) : Prop :=
  ∀ module member f, functions.find? module member = some f →
    ∀ v home name, f v ≠ .error (.unknownFunction home name)

namespace FunctionTable

/-- A table stays so when a function of that kind is added. -/
theorem NeverUnknown.register {functions : FunctionTable} (h : functions.NeverUnknown)
    {f : Function} (hf : ∀ v home name, f v ≠ .error (.unknownFunction home name))
    (module member : String) : (functions.register module member f).NeverUnknown := by
  intro home name g hfound
  rw [find?_register] at hfound
  split at hfound
  · cases hfound
    exact hf
  · exact h home name g hfound

/-- The empty table has no function that could say so. -/
theorem neverUnknown_empty : empty.NeverUnknown := by
  intro module member f hfound
  cases hfound

/-- The conversions to scalars fail for their own reasons only. -/
theorem neverUnknown_builtins : builtins.NeverUnknown := by
  have hfailed (member reason home name : String) :
      Function.failed member reason ≠ .error (.unknownFunction home name) := by
    intro h
    cases h
  refine (((neverUnknown_empty.register ?_ _ _).register ?_ _ _).register ?_ _ _).register ?_ _ _
  · intro v home name h
    unfold Function.toInteger at h
    repeat' split at h
    all_goals first | exact hfailed _ _ _ _ h | cases h
  · intro v home name h
    unfold Function.toFloat at h
    repeat' split at h
    all_goals first | exact hfailed _ _ _ _ h | cases h
  · intro v home name h
    cases h
  · intro v home name h
    simp only [Function.toBool] at h
    repeat' split at h
    all_goals first | exact hfailed _ _ _ _ h | cases h

end FunctionTable

namespace Cast

/-- The functions that the cast calls are in the table under their names. -/
def Registered (functions : FunctionTable) : Cast → Prop
  | call module member f none => functions.find? module member = some f
  | call module member f (some before) =>
    functions.find? module member = some f ∧ before.Registered functions
  | _ => True

/-- A cast whose functions are in the table meets no unknown function. -/
theorem Registered.apply_ne_unknownFunction {functions : FunctionTable}
    (hfunctions : functions.NeverUnknown) {v : Value} {home name : String} :
    ∀ {c : Cast}, c.Registered functions → c.apply v ≠ .error (.unknownFunction home name)
  | expression expr, _, h => by
    simp only [apply] at h
    split at h <;> cases h
  | encode (some literal) encoding, _, h => by
    simp only [apply, encodeText] at h
    split at h <;> cases h
  | encode none encoding, _, h => by
    simp only [apply, encodeValue, encodeText] at h
    repeat' split at h
    all_goals cases h
  | call _ _ f none, hc, h => hfunctions _ _ f hc v home name h
  | call _ _ f (some before), ⟨hf, hbefore⟩, h => by
    simp only [apply] at h
    split at h
    · next w _ => exact hfunctions _ _ f hf w home name h
    · next e he =>
      cases h
      exact hbefore.apply_ne_unknownFunction hfunctions he

end Cast

namespace Loader

variable {loader : Loader} {P Q : Cast → Prop}

/-! ## Casts -/

/-- A loaded cast has functions of the table if the casts of its members do. -/
theorem registered_of_castOf {members : Entries Reading} {c : Cast}
    (hmembers : ∀ entry ∈ members, ∀ b, entry.2.cast = .ok b → b.Registered loader.functions)
    (h : loader.castOf members = .ok c) : c.Registered loader.functions := by
  obtain ⟨typeName, rest, -, hrun, -⟩ := castOf_eq_ok_iff.1 h
  unfold castOfType at hrun
  split at hrun
  · obtain ⟨operation, _, -, hrun⟩ := Using.run_bind_eq_ok_iff.1 hrun
    split at hrun
    · cases hrun
    · cases hrun
      trivial
  · obtain ⟨literal, _, -, hrun⟩ := Using.run_bind_eq_ok_iff.1 hrun
    obtain ⟨name, _, -, hrun⟩ := Using.run_bind_eq_ok_iff.1 hrun
    split at hrun
    · cases hrun
      trivial
    · split at hrun
      · cases hrun
      · cases hrun
        trivial
  · obtain ⟨module, member, f, before, rfl, hf, hbefore, -⟩ := functionCast_eq_ok hrun
    cases before with
    | none => exact hf
    | some b =>
      obtain ⟨reading, hget, hb⟩ := hbefore b rfl
      exact ⟨hf, hmembers _ (Entries.mem_of_get? hget) b hb⟩
  · cases hrun

/-! ## Readings -/

/-- All casts in the meanings of a node have a property. -/
structure Reading.AllCasts (P : Cast → Prop) (reading : Reading) : Prop where
  source : ∀ s, reading.source = .ok s → s.AllCasts P
  cast : ∀ c, reading.cast = .ok c → P c
  argument : ∀ a, reading.argument = .ok a → a.AllCasts P
  items : ∀ arguments, reading.items = some (.ok arguments) → ∀ a ∈ arguments, a.AllCasts P

/-- A weaker property holds of the casts as well. -/
theorem Reading.AllCasts.mono {reading : Reading} (h : reading.AllCasts P)
    (hpq : ∀ c, P c → Q c) : reading.AllCasts Q where
  source s hs c hc := hpq c (h.source s hs c hc)
  cast c hc := hpq c (h.cast c hc)
  argument a ha c hc := hpq c (h.argument a ha c hc)
  items arguments harguments a ha c hc := hpq c (h.items arguments harguments a ha c hc)

theorem allCasts_ofScalar (node : Json) : (ofScalar node).AllCasts P where
  source s hs := by cases hs
  cast c hc := by cases hc
  argument a ha := by cases ha; intro c hc; cases hc
  items arguments h := by cases h

/-- Arguments collected from readings have the casts of these. -/
theorem allCasts_of_collect {readings : List Reading} {arguments : List Argument}
    (hreadings : ∀ reading ∈ readings, reading.AllCasts P) (h : collect readings = .ok arguments) :
    ∀ a ∈ arguments, a.AllCasts P := by
  intro a ha
  obtain ⟨reading, hreading, hargument⟩ := exists_reading_of_collect h ha
  exact (hreadings reading hreading).argument a hargument

/-- The meanings of an array have the casts of its items. -/
theorem allCasts_ofItems {node : Json} {readings : List Reading}
    (hreadings : ∀ reading ∈ readings, reading.AllCasts P) :
    (ofItems node readings).AllCasts P where
  source s hs := by cases hs
  cast c hc := by cases hc
  argument a ha := by
    cases hcollect : collect readings with
    | error e => simp [ofItems, hcollect, Except.map] at ha
    | ok arguments =>
      simp only [ofItems, hcollect, Except.map, Except.ok.injEq] at ha
      subst ha
      exact Argument.allCasts_list.2 (allCasts_of_collect hreadings hcollect)
  items arguments h := allCasts_of_collect hreadings (Option.some.inj h)

/-! ## Sources -/

/-- Positional arguments have the casts of the member that lists them. -/
theorem allCasts_of_positionalArguments {typeName : String} {members : Entries Reading}
    {arguments : List Argument} (hmembers : ∀ entry ∈ members, entry.2.AllCasts P)
    (h : positionalArguments typeName members = .ok arguments) :
    ∀ a ∈ arguments, a.AllCasts P := by
  unfold positionalArguments at h
  split at h
  · cases h
    intro a ha
    cases ha
  · next reading hget =>
    split at h
    · next items hitems =>
      subst h
      exact (hmembers _ (Entries.mem_of_get? hget)).items arguments hitems
    · cases h

/-- Named arguments have the casts of their members. -/
theorem allCasts_of_namedArguments {members : Entries Reading} {arguments : Entries Argument}
    (hmembers : ∀ entry ∈ members, entry.2.AllCasts P)
    (h : namedArguments members = .ok arguments) : ∀ entry ∈ arguments, entry.2.AllCasts P := by
  intro entry hentry
  obtain ⟨reading, hreading, hargument⟩ := mem_of_mem_namedArguments h entry hentry
  exact (hmembers _ hreading).argument entry.2 hargument

/-- The cast for a source is the one that its member means. -/
theorem all_of_castTo {members : Entries Reading} {change : Option Cast}
    (hmembers : ∀ entry ∈ members, entry.2.AllCasts P) (h : castTo members = .ok change) :
    ∀ c ∈ change, P c := by
  unfold castTo at h
  split at h
  · cases h
    intro c hc
    cases hc
  · next reading hget =>
    cases hcast : reading.cast with
    | error e => simp [hcast, Except.map] at h
    | ok c =>
      simp only [hcast, Except.map, Except.ok.injEq] at h
      subst h
      rintro _ ⟨⟩
      exact (hmembers _ (Entries.mem_of_get? hget)).cast c hcast

/-- A source that is constructed has the casts of its arguments: nothing but the cast for it is added. -/
theorem allCasts_of_construct {constructor : Constructor} (hconstructor : constructor.Conserves)
    {args : Arguments} (hargs : args.AllCasts P) {source : Source}
    (h : construct constructor args = .ok source) : source.AllCasts P := by
  unfold construct at h
  split at h
  · cases h
  · next inner rest hrun =>
    obtain ⟨hinner, hrest⟩ := hconstructor P args inner rest hargs hrun
    split at h
    · cases h
    · cases h
      exact hinner
    · next change hfinish =>
      cases h
      -- the cast that the constructor has left is applied to its source
      have hchange : change ∈ rest.castTo := by
        unfold Arguments.finish at hfinish
        split at hfinish
        · cases hfinish
        · cases hfinish
        · exact Except.ok.inj hfinish
      rintro c (_ | ⟨_, hc⟩)
      · exact hrest.castTo change hchange
      · exact hinner c hc

/-- A loaded source has the casts of the meanings of its members. -/
theorem allCasts_of_sourceOf (hsources : loader.sources.Conserves) {members : Entries Reading}
    (hmembers : ∀ entry ∈ members, entry.2.AllCasts P) {source : Source}
    (h : loader.sourceOf members = .ok source) : source.AllCasts P := by
  obtain ⟨typeName, constructor, positional, optional, change, named, inner, -, -, hfound, hpositional,
    -, hchange, hnamed, hinner, rfl⟩ := sourceOf_eq_ok_iff.1 h
  have hargs : (Arguments.ofNode typeName positional named change).AllCasts P := by
    refine ⟨fun argument hargument => ?_, allCasts_of_namedArguments hmembers hnamed,
      all_of_castTo hmembers hchange⟩
    obtain ⟨a, ha, heq⟩ := List.mem_map.1 hargument
    cases heq
    exact allCasts_of_positionalArguments hmembers hpositional _ ha
  have hall := allCasts_of_construct (hsources typeName constructor hfound) hargs hinner
  -- the default behind which an optional source stands has no casts
  split
  · exact hall
  · exact hall

/-! ## Nodes -/

/-- As an argument, a cast is either itself or a value without casts. -/
theorem allCasts_of_castArgument {c : Cast} (hc : P c) {argument : Argument}
    (h : castArgument c = .ok argument) : argument.AllCasts P := by
  unfold castArgument at h
  split at h
  · split at h
    · cases h
      intro c hc
      cases hc
    · cases h
  · cases h
    intro c hmem
    cases List.mem_singleton.1 hmem
    exact hc

/-- If the members of a node have only casts with the property, and so has the node when it is read as a
cast, then the node has only such casts however it is read. -/
theorem allCasts_ofMembers (hsources : loader.sources.Conserves) {node : Json}
    {members : Entries Reading} (hmembers : ∀ entry ∈ members, entry.2.AllCasts P)
    (hcast : ∀ c, loader.castOf members = .ok c → P c) :
    (loader.ofMembers node members).AllCasts P where
  source s hs := allCasts_of_sourceOf hsources hmembers hs
  cast c hc := hcast c hc
  argument a ha := by
    simp only [ofMembers] at ha
    split at ha
    · cases ha
    · cases ha
      intro c hc
      cases hc
    · split at ha
      · obtain ⟨c, hc, harg⟩ := bind_eq_ok_iff.1 ha
        exact allCasts_of_castArgument (hcast c hc) harg
      · cases hs : loader.sourceOf members with
        | error e => simp [hs, Except.map] at ha
        | ok s =>
          simp only [hs, Except.map, Except.ok.injEq] at ha
          subst ha
          exact allCasts_of_sourceOf hsources hmembers hs
  items arguments h := by cases h

/-- The cast was loaded from a part of the node, with functions of the table. -/
def Loads (loader : Loader) (node : Json) (c : Cast) : Prop :=
  c.Registered loader.functions ∧ ∃ part, Json.Part part node ∧ loader.loadCast part = .ok c

/-! What was loaded from a part was loaded from the whole. -/

theorem Loads.item {x : Json} {items : List Json} {c : Cast} (hx : x ∈ items)
    (h : loader.Loads x c) : loader.Loads (.array items) c := by
  obtain ⟨hregistered, part, hpart, hload⟩ := h
  exact ⟨hregistered, part, .item hx hpart, hload⟩

theorem Loads.member {key : String} {x : Json} {members : List (String × Json)} {c : Cast}
    (hx : (key, x) ∈ members) (h : loader.Loads x c) : loader.Loads (.object members) c := by
  obtain ⟨hregistered, part, hpart, hload⟩ := h
  exact ⟨hregistered, part, .member hx hpart, hload⟩

mutual

/-- The casts in the meanings of a node were loaded from its parts. -/
theorem allCasts_read (hsources : loader.sources.Conserves) : ∀ node : Json,
    (loader.read node).AllCasts (loader.Loads node)
  | .array items => allCasts_ofItems fun reading hreading => by
    obtain ⟨x, hx, hall⟩ := allCasts_readItems hsources items reading hreading
    exact hall.mono fun c => Loads.item hx
  | .object members => by
    have hmembers : ∀ entry ∈ loader.readMembers members,
        entry.2.AllCasts (loader.Loads (.object members)) := by
      intro entry hentry
      obtain ⟨x, hx, hall⟩ := allCasts_readMembers hsources members entry hentry
      exact hall.mono fun c => Loads.member hx
    refine allCasts_ofMembers hsources hmembers fun c hc => ⟨?_, _, .self, hc⟩
    exact registered_of_castOf (fun entry hentry b hb => ((hmembers entry hentry).cast b hb).1) hc
  | .null => allCasts_ofScalar _
  | .bool _ => allCasts_ofScalar _
  | .number _ => allCasts_ofScalar _
  | .string _ => allCasts_ofScalar _

/-- The casts in the meanings of an item were loaded from its parts. -/
theorem allCasts_readItems (hsources : loader.sources.Conserves) : ∀ items : List Json,
    ∀ reading ∈ loader.readItems items, ∃ x ∈ items, reading.AllCasts (loader.Loads x)
  | [], _, h => nomatch h
  | x :: items, reading, h => by
    rcases List.mem_cons.1 h with rfl | h
    · exact ⟨x, List.mem_cons_self, allCasts_read hsources x⟩
    · obtain ⟨y, hy, hall⟩ := allCasts_readItems hsources items reading h
      exact ⟨y, List.mem_cons_of_mem _ hy, hall⟩

theorem allCasts_readMembers (hsources : loader.sources.Conserves) :
    ∀ members : List (String × Json), ∀ entry ∈ loader.readMembers members,
      ∃ x, (entry.1, x) ∈ members ∧ entry.2.AllCasts (loader.Loads x)
  | [], _, h => nomatch h
  | (key, x) :: members, entry, h => by
    rcases List.mem_cons.1 h with rfl | h
    · exact ⟨x, List.mem_cons_self, allCasts_read hsources x⟩
    · obtain ⟨y, hy, hall⟩ := allCasts_readMembers hsources members entry h
      exact ⟨y, List.mem_cons_of_mem _ hy, hall⟩

end

/-! ## Loading and resolving -/

/-- Every cast of a loaded source was loaded from a part of its schema. -/
theorem allCasts_loadSource (hsources : loader.sources.Conserves) {node : Json} {source : Source}
    (hload : loader.loadSource node = .ok source) : source.AllCasts (loader.Loads node) :=
  (allCasts_read hsources node).source source hload

/-- **When a loaded source is free of schema faults.** The cast failures in the error of a loaded
source are those of casts that parts of the schema gave, and none is an unknown function. The schema
decides none of them if and only if every cast that failed starts from a literal with bytes, or from
none; a cast whose literal has no bytes fails in the same way on every value. -/
theorem schemaFault_free_iff (hfunctions : loader.functions.NeverUnknown)
    (hsources : loader.sources.Conserves) {node : Json} {source : Source}
    (hload : loader.loadSource node = .ok source) (w : World) {e : ResolveError}
    (herror : source.resolve w = .error e) :
    e.castCauses = (source.castFailures w).map (·.error) ∧
      (∀ failure ∈ source.castFailures w,
        (∃ part, Json.Part part node ∧ loader.loadCast part = .ok failure.cast) ∧
          ∃ v, failure.cast.apply v = .error failure.error) ∧
      (∀ module member, .unknownFunction module member ∉ e.castCauses) ∧
      ((∀ failure ∈ source.castFailures w, ¬ failure.SchemaFault) ↔
        ∀ failure ∈ source.castFailures w, failure.cast.Encodes) ∧
      ∀ change ∈ source.casts, ¬ change.Encodes →
        ∃ fault, change.LiteralFault fault ∧ ∀ v, change.apply v = .error fault := by
  have hcauses : (source.castFailures w).map (·.error) = e.castCauses := by
    rw [Source.castFailures_error, herror]
    rfl
  have hknown (failure : Source.CastFailure) (hmem : failure ∈ source.castFailures w)
      (module member : String) : failure.error ≠ .unknownFunction module member := by
    obtain ⟨hcast, v, hfail⟩ := Source.among_of_mem_castFailures hmem
    intro heq
    rw [heq] at hfail
    exact (allCasts_loadSource hsources hload _ hcast).1.apply_ne_unknownFunction hfunctions hfail
  refine ⟨hcauses.symm, fun failure hmem => ?_, fun module member hmem => ?_, ?_,
    fun change _ hnot => ?_⟩
  · obtain ⟨hcast, happly⟩ := Source.among_of_mem_castFailures hmem
    exact ⟨(allCasts_loadSource hsources hload _ hcast).2, happly⟩
  · rw [← hcauses] at hmem
    obtain ⟨failure, hfailure, heq⟩ := List.mem_map.1 hmem
    exact hknown failure hfailure module member heq
  · refine forall₂_congr fun failure hmem => ?_
    obtain ⟨-, v, hfail⟩ := Source.among_of_mem_castFailures hmem
    -- the schema cannot be at fault for the name of a function any more
    have hliteral : failure.SchemaFault ↔ failure.cast.LiteralFault failure.error := by
      refine or_iff_right ?_
      rintro ⟨module, member, heq⟩
      exact hknown failure hmem module member heq
    rw [hliteral, Cast.literalFault_iff_not_encodes hfail, Classical.not_not]
  · obtain ⟨fault, hfault⟩ := Cast.exists_literalFault hnot
    exact ⟨fault, hfault, hfault.apply⟩

/-- A schema with a literal that has no bytes in ASCII, as a cast. -/
def refusedLate : Json := .object [
  ("args", .array [.string "x"]),
  ("cast_to", .object [("type", .string "binary"), ("value", .string "é")]),
  ("type", .string "StaticSource")]

theorem loadSource_refusedLate : builtins.loadSource refusedLate =
    .ok (.cast (.static (.string "x")) (.encode (some "é") .ascii)) := rfl

/-- Its literal is at fault all the same. -/
theorem literalFault_refusedLate :
    (Cast.encode (some "é") .ascii).LiteralFault (.unencodable .ascii 'é') := .encode rfl

/-- The literal is not refused by the loader, and its fault is found in the error. -/
theorem schemaFault_refusedLate :
    ∃ source e, builtins.loadSource refusedLate = .ok source ∧
      source.resolve .empty = .error e ∧ builtins.functions.NeverUnknown ∧
      builtins.sources.Conserves ∧ (∀ home name, .unknownFunction home name ∉ e.castCauses) ∧
      ¬ ∀ failure ∈ source.castFailures .empty, ¬ failure.SchemaFault := by
  have herror : (Source.cast (.static (.string "x")) (.encode (some "é") .ascii)).resolve .empty =
      .error (.cast (.unencodable .ascii 'é')) := rfl
  obtain ⟨-, -, hknown, hiff, -⟩ := schemaFault_free_iff FunctionTable.neverUnknown_builtins
    SourceTable.conserves_builtins loadSource_refusedLate .empty herror
  refine ⟨_, _, loadSource_refusedLate, herror, FunctionTable.neverUnknown_builtins,
    SourceTable.conserves_builtins, hknown, fun hfree => ?_⟩
  exact literalFault_refusedLate.not_encodes (hiff.1 hfree ⟨_, _⟩ (List.mem_singleton_self _))

/-- Not every schema that loads is free of faults when it is resolved. -/
theorem not_forall_loaded_schemaFault_free :
    ¬ ∀ (loader : Loader) (node : Json) (source : Source),
      loader.functions.NeverUnknown → loader.sources.Conserves →
      loader.loadSource node = .ok source →
      ∀ w, ∀ failure ∈ source.castFailures w, ¬ failure.SchemaFault := by
  intro h
  refine h builtins refusedLate _ FunctionTable.neverUnknown_builtins
    SourceTable.conserves_builtins loadSource_refusedLate .empty
    ⟨.encode (some "é") .ascii, .unencodable .ascii 'é'⟩ (List.mem_singleton_self _) ?_
  exact .inr literalFault_refusedLate

end Loader

end LayeredConfig
