import LayeredConfig.Schema.SourceTable
import LayeredConfig.Proofs.Source.Casts

/-!
# Constructors pass on the casts that they are given

An operation on the arguments of a node keeps a property of casts (`Taking.Keeps`) if from arguments
whose casts have the property it makes only results, and leaves only arguments, whose casts have it. The
rules follow the operations of `Taking`; with them, every constructor of this library builds its source
from the casts that it was given and no others (`SourceTable.conserves_builtins`).
-/

namespace LayeredConfig

variable {α β : Type} {P : Cast → Prop}

/-- All casts of a source have a property. -/
def Source.AllCasts (P : Cast → Prop) (source : Source) : Prop := ∀ change ∈ source.casts, P change

namespace Argument

mutual

/-- The casts of an argument. -/
def casts : Argument → List Cast
  | value _ => []
  | source s => s.casts
  | cast c => [c]
  | list items => castsAll items

/-- The casts of some arguments. -/
def castsAll : List Argument → List Cast
  | [] => []
  | item :: items => casts item ++ castsAll items

end

theorem castsAll_eq_flatMap (items : List Argument) : castsAll items = items.flatMap casts := by
  induction items with
  | nil => rfl
  | cons item items ih => simp [castsAll, ih]

/-- All casts of an argument have a property. -/
def AllCasts (P : Cast → Prop) (argument : Argument) : Prop := ∀ change ∈ argument.casts, P change

theorem allCasts_list {items : List Argument} :
    (list items).AllCasts P ↔ ∀ item ∈ items, item.AllCasts P := by
  simp only [AllCasts, casts, castsAll_eq_flatMap, List.mem_flatMap]
  exact ⟨fun h item hitem change hchange => h change ⟨item, hitem, hchange⟩,
    fun h change ⟨item, hitem, hchange⟩ => h item hitem change hchange⟩

/-- Spreading an argument over several adds no cast. -/
theorem AllCasts.spread {argument : Argument} (h : argument.AllCasts P) :
    ∀ item ∈ argument.spread, item.AllCasts P := by
  cases argument with
  | list items => exact allCasts_list.1 h
  | value v | source s | cast c =>
    intro item hitem
    cases List.mem_singleton.1 hitem
    exact h

/-- The source of an argument has the casts of the argument. -/
theorem AllCasts.source? {argument : Argument} {s : Source} (h : argument.AllCasts P)
    (hs : argument.source? = some s) : s.AllCasts P := by
  cases argument with
  | source s' => cases hs; exact h
  | value _ | cast _ | list _ => cases hs

end Argument

/-- All casts of some arguments have a property. -/
structure Arguments.AllCasts (P : Cast → Prop) (args : Arguments) : Prop where
  positional : ∀ argument, some argument ∈ args.positional → argument.AllCasts P
  named : ∀ entry ∈ args.named, entry.2.AllCasts P
  castTo : ∀ change ∈ args.castTo, P change

namespace Arguments

variable {args : Arguments}

/-! What an operation takes out of some arguments, and what it leaves, has their casts. -/

/-- A slot holds one of the positional arguments. -/
theorem AllCasts.slot? (h : args.AllCasts P) {index : Option Nat} {argument : Argument}
    (hslot : args.slot? index = some argument) : argument.AllCasts P := by
  cases index with
  | none => cases hslot
  | some index =>
    obtain hplace := Option.join_eq_some_iff.1 hslot
    exact h.positional _ (List.mem_of_getElem? hplace)

theorem AllCasts.get? (h : args.AllCasts P) {name : String} {argument : Argument}
    (hget : Entries.get? name args.named = some argument) : argument.AllCasts P :=
  h.named _ (Entries.mem_of_get? hget)

/-- What is picked for one argument came from its slot or its name. -/
theorem AllCasts.pick (h : args.AllCasts P) {index : Option Nat} {name : String}
    {argument : Argument} (hpick : args.pick index name = .ok (some argument)) :
    argument.AllCasts P := by
  unfold Arguments.pick at hpick
  split at hpick
  · cases hpick
  · next hslot _ => cases hpick; exact h.slot? hslot
  · next hget => exact h.get? (Except.ok.inj hpick)

theorem AllCasts.without (h : args.AllCasts P) (index : Option Nat) (name : String) :
    (args.without index name).AllCasts P where
  positional argument hmem := by
    cases index with
    | none => exact h.positional argument hmem
    | some index =>
      rcases List.mem_or_eq_of_mem_set hmem with hmem | hnone
      · exact h.positional argument hmem
      · cases hnone
  named entry hmem := h.named entry (Entries.mem_of_mem_erase hmem)
  castTo := h.castTo

/-- What is picked from a place on came from the slots or was spread from the name. -/
theorem AllCasts.pickFrom (h : args.AllCasts P) (start : Nat) (name : String) :
    ∀ argument ∈ args.pickFrom start name, argument.AllCasts P := by
  intro argument hmem
  rcases List.mem_append.1 hmem with hmem | hmem
  · obtain ⟨place, hplace, rfl⟩ := List.mem_filterMap.1 hmem
    exact h.positional argument (List.mem_of_mem_drop hplace)
  · cases hget : Entries.get? name args.named with
    | none => simp [hget] at hmem
    | some found =>
      simp only [hget, Option.map_some, Option.getD_some] at hmem
      exact (h.get? hget).spread argument hmem

theorem AllCasts.withoutFrom (h : args.AllCasts P) (start : Nat) (name : String) :
    (args.withoutFrom start name).AllCasts P where
  positional argument hmem := by
    rcases List.mem_append.1 hmem with hmem | hmem
    · exact h.positional argument (List.mem_of_mem_take hmem)
    · obtain ⟨_, _, hnone⟩ := List.mem_map.1 hmem
      cases hnone
  named entry hmem := h.named entry (Entries.mem_of_mem_erase hmem)
  castTo := h.castTo

end Arguments

/-! ## Operations on arguments -/

namespace Taking

/-- From arguments whose casts have the property `P`, the operation gives only results of which `post`
holds, and leaves only arguments whose casts have the property. -/
def Keeps (P : Cast → Prop) (post : α → Prop) (operation : Taking α) : Prop :=
  ∀ args a rest, args.AllCasts P → operation.runOn args = (.ok a, rest) →
    post a ∧ rest.AllCasts P

/-! The rules follow the operations: one for each step, and `Keeps.bind` to put steps together. -/

theorem keeps_pure {post : α → Prop} {a : α} (h : post a) : Keeps P post (pure a : Taking α) := by
  intro args b rest hargs hrun
  cases hrun
  exact ⟨h, hargs⟩

theorem keeps_throw {post : α → Prop} (e : SchemaError) :
    Keeps P post (throw e : Taking α) := by
  intro args b rest hargs hrun
  cases hrun

/-- What holds after the first step is enough for the next one. -/
theorem Keeps.bind {held : α → Prop} {post : β → Prop} {first : Taking α} {next : α → Taking β}
    (hfirst : Keeps P held first) (hnext : ∀ a, held a → Keeps P post (next a)) :
    Keeps P post (first >>= next) := by
  intro args b rest hargs hrun
  rw [runOn_bind] at hrun
  split at hrun
  · next a middle hmiddle =>
    obtain ⟨ha, hleft⟩ := hfirst args a middle hargs hmiddle
    exact hnext a ha middle b rest hleft hrun
  · cases hrun

/-- A single step keeps the casts if its result and what it leaves do. -/
theorem keeps_ofStep {post : α → Prop} {result : Arguments → Except SchemaError α}
    {rest : Arguments → Arguments}
    (hresult : ∀ args a, args.AllCasts P → result args = .ok a → post a)
    (hrest : ∀ args, args.AllCasts P → (rest args).AllCasts P) :
    Keeps P post (ofStep result rest) := by
  intro args a left hargs hrun
  rw [runOn_ofStep] at hrun
  obtain ⟨ha, rfl⟩ := Prod.mk.inj hrun
  exact ⟨hresult args a hargs ha, hrest args hargs⟩

theorem keeps_failMissing {post : α → Prop} (name : String) :
    Keeps P post (failMissing name : Taking α) :=
  keeps_ofStep (fun _ _ _ h => by cases h) fun _ h => h

theorem keeps_failInvalid {post : α → Prop} (name : String) (expected : Expectation) :
    Keeps P post (failInvalid name expected : Taking α) :=
  keeps_ofStep (fun _ _ _ h => by cases h) fun _ h => h

theorem keeps_take (index : Option Nat) (name : String) :
    Keeps P (fun found => ∀ argument ∈ found, argument.AllCasts P) (take index name) := by
  refine keeps_ofStep (fun args found hargs hpick argument hmem => ?_)
    fun args hargs => hargs.without index name
  cases hmem
  exact hargs.pick hpick

/-- Insisting on something found changes nothing about it. -/
theorem keeps_needed {post : α → Prop} {name : String} {found : Option α}
    (h : ∀ a ∈ found, post a) : Keeps P post (needed name found) := by
  cases found with
  | none => exact keeps_failMissing name
  | some a => exact keeps_pure (h a rfl)

theorem keeps_takeRest (start : Nat) (name : String) :
    Keeps P (fun found => ∀ argument ∈ found, argument.AllCasts P) (takeRest start name) := by
  refine keeps_ofStep (fun args found hargs hfound => ?_) fun args hargs => hargs.withoutFrom start name
  cases hfound
  exact hargs.pickFrom start name

theorem keeps_takeCastTo : Keeps P (fun change => ∀ c ∈ change, P c) takeCastTo := by
  refine keeps_ofStep (fun args change hargs hchange => ?_) fun args hargs => ?_
  · cases hchange
    exact hargs.castTo
  · exact ⟨hargs.positional, hargs.named, fun _ h => by cases h⟩

/-- If a view keeps the property of an argument, so does taking an argument through it. -/
theorem keeps_takeAs {post : α → Prop} {view : Argument → Option α}
    (hview : ∀ argument a, argument.AllCasts P → view argument = some a → post a)
    (expected : Expectation) (index : Option Nat) (name : String) :
    Keeps P (fun found => ∀ a ∈ found, post a) (takeAs view expected index name) := by
  refine (keeps_take index name).bind fun found hfound => ?_
  cases found with
  | none => exact keeps_pure fun _ h => by cases h
  | some argument =>
    cases ha : view argument with
    | none => simpa [ha] using keeps_failInvalid name expected
    | some a =>
      simp only [ha]
      refine keeps_pure fun b hb => ?_
      cases hb
      exact hview argument a (hfound argument rfl) ha

/-- An argument of a kind without casts may be taken whatever the property is. -/
theorem keeps_takeAny (view : Argument → Option α) (expected : Expectation) (index : Option Nat)
    (name : String) : Keeps P (fun _ => True) (takeAs view expected index name) := by
  have htake : Keeps P (fun found => ∀ a ∈ found, True) (takeAs view expected index name) :=
    keeps_takeAs (fun _ _ _ _ => trivial) expected index name
  exact fun args a rest hargs hrun => ⟨trivial, (htake args a rest hargs hrun).2⟩

theorem keeps_text (index : Option Nat) (name : String) : Keeps P (fun _ => True) (text index name) :=
  keeps_takeAny _ _ index name

theorem keeps_bool (index : Option Nat) (name : String) : Keeps P (fun _ => True) (bool index name) :=
  keeps_takeAny _ _ index name

theorem keeps_value (index : Option Nat) (name : String) :
    Keeps P (fun _ => True) (value index name) :=
  keeps_takeAny _ _ index name

theorem keeps_requireText (index : Option Nat) (name : String) :
    Keeps P (fun _ => True) (requireText index name) :=
  (keeps_text index name).bind fun _ _ => keeps_needed fun _ _ => trivial

theorem keeps_requireValue (index : Option Nat) (name : String) :
    Keeps P (fun _ => True) (requireValue index name) :=
  (keeps_value index name).bind fun _ _ => keeps_needed fun _ _ => trivial

/-- A source that is required has only such casts. -/
theorem keeps_requireSource (index : Option Nat) (name : String) :
    Keeps P (Source.AllCasts P) (requireSource index name) :=
  (keeps_takeAs (fun _ _ hargument hs => hargument.source? hs) _ index name).bind
    fun _ hfound => keeps_needed hfound

/-- The sources of some arguments have only the casts of the arguments. -/
theorem allCasts_of_mapM_source? {arguments : List Argument} {sources : List Source}
    (h : arguments.mapM Argument.source? = some sources)
    (harguments : ∀ argument ∈ arguments, argument.AllCasts P) :
    ∀ s ∈ sources, s.AllCasts P := by
  induction arguments generalizing sources with
  | nil => cases h; intro s hs; cases hs
  | cons argument rest ih =>
    simp only [List.mapM_cons, Option.bind_eq_bind, Option.bind_eq_some_iff] at h
    obtain ⟨s, hs, ss, hss, heq⟩ := h
    cases heq
    rintro t (_ | ⟨_, ht⟩)
    · exact (harguments argument List.mem_cons_self).source? hs
    · exact ih hss (fun a ha => harguments a (List.mem_cons_of_mem _ ha)) t ht

/-- Sources that are taken have only such casts. -/
theorem keeps_sources (start : Nat) (name : String) :
    Keeps P (fun found => ∀ s ∈ found, s.AllCasts P) (sources start name) := by
  refine (keeps_takeRest start name).bind fun found hfound => ?_
  cases hs : found.mapM Argument.source? with
  | none => simpa [hs] using keeps_failInvalid name .sources
  | some sources => exact keeps_pure (allCasts_of_mapM_source? hs hfound)

theorem keeps_texts (start : Nat) (name : String) :
    Keeps P (fun _ => True) (texts start name) := by
  refine (keeps_takeRest start name).bind fun found _ => ?_
  split
  · exact keeps_pure trivial
  · exact keeps_failInvalid name .texts

end Taking

/-! ## Constructors -/

namespace Constructor

open Taking

/-- A constructor makes sources only of the casts that it is given. -/
def Conserves (constructor : Constructor) : Prop :=
  ∀ P : Cast → Prop, Keeps P (Source.AllCasts P) constructor

/-- The encoding of a file has no cast. -/
theorem keeps_encoding (index : Option Nat) : Keeps P (fun _ => True) (encoding index) := by
  refine (keeps_text index "encoding").bind fun found _ => ?_
  split
  · exact keeps_pure trivial
  · split
    · exact keeps_pure trivial
    · exact keeps_throw _

theorem keeps_formats (index : Option Nat) : Keeps P (fun _ => True) (formats index) := by
  refine (keeps_value index "formats").bind fun found _ => ?_
  split
  · exact keeps_pure trivial
  · split
    · exact keeps_pure trivial
    · exact keeps_failInvalid "formats" .formatNames

theorem keeps_onFail (index : Option Nat) : Keeps P (fun _ => True) (onFail index) := by
  refine (keeps_text index "on_fail").bind fun found _ => ?_
  split
  · exact keeps_pure trivial
  · split
    · exact keeps_pure trivial
    · exact keeps_failInvalid "on_fail" .policy

theorem conserves_static : static.Conserves := fun _ =>
  (keeps_requireValue _ _).bind fun _ _ => keeps_pure (by simp [Source.AllCasts, Source.casts])

/-- The cast of a variable is the one that is taken with it. -/
theorem conserves_environment : environment.Conserves := fun P =>
  (keeps_requireText _ _).bind fun _ _ =>
  (keeps_text _ _).bind fun _ _ =>
  (keeps_value _ _).bind fun _ _ =>
  keeps_takeCastTo.bind fun change hchange =>
  keeps_pure (by simpa [Source.AllCasts, Source.casts] using hchange)

theorem conserves_environmentMap : environmentMap.Conserves := fun P =>
  (keeps_texts _ _).bind fun _ _ =>
  keeps_takeCastTo.bind fun change hchange =>
  keeps_pure (by simpa [Source.AllCasts, Source.casts] using hchange)

theorem conserves_file : file.Conserves := fun _ =>
  (keeps_requireText _ _).bind fun _ _ =>
  (keeps_encoding _).bind fun _ _ =>
  (keeps_formats _).bind fun _ _ =>
  keeps_pure (by simp [Source.AllCasts, Source.casts])

/-- A directory source has no casts, whatever its five arguments are. -/
theorem conserves_directory : directory.Conserves := fun _ =>
  (keeps_requireText _ _).bind fun _ _ =>
  (keeps_encoding _).bind fun _ _ =>
  (keeps_formats _).bind fun _ _ =>
  (keeps_onFail _).bind fun _ _ =>
  (keeps_bool _ _).bind fun _ _ =>
  keeps_pure (by simp [Source.AllCasts, Source.casts])

/-- The casts of several sources are those of each. -/
theorem allCasts_castsAll {sources : List Source} (h : ∀ s ∈ sources, s.AllCasts P) :
    ∀ change ∈ Source.castsAll sources, P change := by
  intro change hchange
  rw [Source.castsAll_eq_flatMap] at hchange
  obtain ⟨s, hs, hmem⟩ := List.mem_flatMap.1 hchange
  exact h s hs change hmem

theorem conserves_alternatives : alternatives.Conserves := fun _ =>
  (keeps_sources _ _).bind fun _ hsources => keeps_pure (allCasts_castsAll hsources)

theorem conserves_optional : optional.Conserves := fun _ =>
  (keeps_requireSource _ _).bind fun _ hsource =>
  (keeps_value _ _).bind fun _ _ => keeps_pure hsource

theorem conserves_merging : merging.Conserves := fun _ =>
  (keeps_onFail _).bind fun _ _ =>
  (keeps_sources _ _).bind fun _ hsources => keeps_pure (allCasts_castsAll hsources)

theorem conserves_nested : nested.Conserves := fun _ =>
  (keeps_requireText _ _).bind fun _ _ =>
  (keeps_requireSource _ _).bind fun _ hsource => keeps_pure hsource

theorem conserves_inFormat (format : Format) : (inFormat format).Conserves := fun _ =>
  (keeps_requireText _ _).bind fun _ _ => keeps_pure (by simp [Source.AllCasts, Source.casts])

end Constructor

namespace SourceTable

/-- Every constructor of the table makes sources only of the casts that it is given. -/
def Conserves (table : SourceTable) : Prop :=
  ∀ name constructor, table.find? name = some constructor → constructor.Conserves

/-- A table stays so when a constructor of that kind is added. -/
theorem Conserves.register {table extended : SourceTable} (h : table.Conserves) {name : String}
    {constructor : Constructor} (hconstructor : constructor.Conserves)
    (hregister : table.register name constructor = .ok extended) : extended.Conserves := by
  intro other found hfound
  unfold SourceTable.register at hregister
  split at hregister
  · cases hregister
  · cases hregister
    rw [find?, Entries.get?_insert] at hfound
    split at hfound
    · cases hfound
      exact hconstructor
    · exact h other found hfound

/-- The constructors of this library make sources only of the casts that they are given. -/
theorem conserves_builtins : builtins.Conserves := by
  intro name constructor hfound
  -- the constructor is one of the twelve of the table
  have hmem := Entries.mem_of_mem_ofList (Entries.mem_of_get? hfound)
  simp only [List.mem_cons, Prod.mk.injEq, List.not_mem_nil, or_false] at hmem
  rcases hmem with ⟨-, rfl⟩ | ⟨-, rfl⟩ | ⟨-, rfl⟩ | ⟨-, rfl⟩ | ⟨-, rfl⟩ | ⟨-, rfl⟩ | ⟨-, rfl⟩ |
    ⟨-, rfl⟩ | ⟨-, rfl⟩ | ⟨-, rfl⟩ | ⟨-, rfl⟩ | ⟨-, rfl⟩
  · exact Constructor.conserves_static
  · exact Constructor.conserves_environment
  · exact Constructor.conserves_environmentMap
  · exact Constructor.conserves_file
  · exact Constructor.conserves_directory
  · exact Constructor.conserves_alternatives
  · exact Constructor.conserves_optional
  · exact Constructor.conserves_merging
  · exact Constructor.conserves_nested
  · exact Constructor.conserves_inFormat .json
  · exact Constructor.conserves_inFormat .yaml
  · exact Constructor.conserves_inFormat .toml

end SourceTable

end LayeredConfig
