import LayeredConfig.Source.Resolve
import LayeredConfig.Proofs.Entries
import LayeredConfig.Proofs.Schema.Reading
import LayeredConfig.Proofs.Schema.Signature

/-!
# Arguments by position or by name

A node may give the arguments from some place on under the names of their parameters, or as a list under
the name of the parameter for all places (`Signature.nameFrom`). A node of a type of this library loads
in the one form if and only if it loads in the other, as the same source
(`Loader.loadSource_nameFrom`).
-/

namespace LayeredConfig

namespace Signature

/-- The members that give the arguments from a place on. -/
def moved : Signature → Nat → List Json → List (String × Json)
  | each parameters, start, items => (parameters.zip items).drop start
  | several parameter _, start, items => [(parameter, .array (items.drop start))]

/-- Whether that many arguments have places. -/
def Admits : Signature → Nat → Prop
  | each parameters, count => count ≤ parameters.length
  | several _ _, _ => True

/-- The members of a node with the arguments from a place on given by name. -/
def nameFrom (signature : Signature) (start : Nat) (items : List Json) (members : Entries Json) :
    Entries Json :=
  Entries.insert "args" (.array (items.take start))
    (Entries.insertAll (signature.moved start items) members)

variable {signature : Signature} {start : Nat} {items : List Json}

/-- Each argument from the place on becomes a member under the name of its parameter. -/
theorem mem_moved_each {parameters : List String} {pair : String × Json} :
    pair ∈ (each parameters).moved start items ↔
      ∃ i, start ≤ i ∧ parameters[i]? = some pair.1 ∧ items[i]? = some pair.2 := by
  simp only [moved, List.mem_iff_getElem?, List.getElem?_drop, List.getElem?_zip_eq_some]
  constructor
  · rintro ⟨i, hi⟩
    exact ⟨start + i, Nat.le_add_right start i, hi⟩
  · rintro ⟨i, hstart, hi⟩
    exact ⟨i - start, by rwa [Nat.add_sub_cancel' hstart]⟩

/-- Pairing names with items drops names from the end only. -/
theorem names_zip_sublist (parameters : List String) (items : List Json) :
    ((parameters.zip items).map Prod.fst).Sublist parameters := by
  induction parameters generalizing items with
  | nil => exact List.Sublist.slnil
  | cons parameter parameters ih =>
    cases items with
    | nil => exact List.nil_sublist _
    | cons item items => exact (ih items).cons_cons parameter

/-- The names that arguments are moved to are parameters, in order. -/
theorem names_moved_sublist : ((signature.moved start items).map Prod.fst).Sublist signature.names := by
  cases signature with
  | each parameters =>
    exact ((List.drop_sublist start (parameters.zip items)).map Prod.fst).trans
      (names_zip_sublist parameters items)
  | several parameter others => exact (List.nil_sublist others).cons_cons parameter

/-- The members of a node, with some of its arguments moved from their places to names. -/
structure Moves (signature : Signature) (start : Nat) (items : List Json)
    (members members' : Entries Json) : Prop where
  admits : signature.Admits items.length
  nodup : signature.names.Nodup
  reserved : ∀ name ∈ signature.names, name ∉ Loader.reservedKeys
  sorted : members.Sorted
  sorted' : members'.Sorted
  places : (Entries.get? "args" members).getD (.array []) = .array items
  places' : Entries.get? "args" members' = some (.array (items.take start))
  free : ∀ pair ∈ signature.moved start items, Entries.get? pair.1 members = none
  named : ∀ pair ∈ signature.moved start items, Entries.get? pair.1 members' = some pair.2
  others : ∀ key, key ≠ "args" → key ∉ (signature.moved start items).map Prod.fst →
    Entries.get? key members' = Entries.get? key members

theorem mem_names_of_mem_moved {pair : String × Json} (h : pair ∈ signature.moved start items) :
    pair.1 ∈ signature.names :=
  names_moved_sublist.subset (List.mem_map_of_mem h)

/-- Naming the arguments from a place on moves them, if there are parameters enough and their names are
free. -/
theorem moves_nameFrom {typeName : String} (hsignature : ofType? typeName = some signature)
    {members : Entries Json} (hadmits : signature.Admits items.length) (hsorted : members.Sorted)
    (hplaces : (Entries.get? "args" members).getD (.array []) = .array items)
    (hfree : ∀ pair ∈ signature.moved start items, Entries.get? pair.1 members = none) :
    signature.Moves start items members (signature.nameFrom start items members) where
  admits := hadmits
  nodup := nodup_names hsignature
  reserved := not_reserved_of_mem_names hsignature
  sorted := hsorted
  sorted' := (Entries.sorted_insertAll hsorted).insert _ _
  places := hplaces
  places' := Entries.get?_insert_self _ _ _
  free := hfree
  named pair hmem := by
    have hne : pair.1 ≠ "args" := by
      intro heq
      exact not_reserved_of_mem_names hsignature pair.1 (mem_names_of_mem_moved hmem)
        (by rw [heq]; decide)
    rw [nameFrom, Entries.get?_insert_of_ne hne]
    exact Entries.get?_insertAll_of_mem (names_moved_sublist.nodup (nodup_names hsignature)) hmem
  others key hne hnot := by
    rw [nameFrom, Entries.get?_insert_of_ne hne]
    exact Entries.get?_insertAll_of_not_mem hnot

namespace Moves

variable {members members' : Entries Json}

/-- A reserved key is untouched, but for the list of places. -/
theorem get?_of_reserved (h : signature.Moves start items members members') {key : String}
    (hkey : key ∈ Loader.reservedKeys) (hne : key ≠ "args") :
    Entries.get? key members' = Entries.get? key members := by
  refine h.others key hne fun hmem => ?_
  exact h.reserved key (names_moved_sublist.subset hmem) hkey

/-- What is moved to the name of a parameter comes from its place. -/
theorem place_of_moved {parameters : List String}
    (h : (each parameters).Moves start items members members') {i : Nat} {pair : String × Json}
    (hi : parameters[i]? = some pair.1) (hpair : pair ∈ (each parameters).moved start items) :
    start ≤ i ∧ items[i]? = some pair.2 := by
  obtain ⟨j, hstart, hj, hitem⟩ := mem_moved_each.1 hpair
  -- no two parameters have the same name
  have hlt : i < parameters.length := (List.getElem?_eq_some_iff.1 hi).1
  obtain rfl : i = j := (List.getElem?_inj hlt h.nodup).1 (hi.trans hj.symm)
  exact ⟨hstart, hitem⟩

end Moves

end Signature

namespace Loader

variable {loader : Loader} {signature : Signature} {start : Nat} {items : List Json}
  {members members' : Entries Json}

/-- The node can be read as an argument. -/
def ReadsArgument (loader : Loader) (node : Json) : Prop :=
  ∃ argument, (loader.read node).argument = .ok argument

/-- An array is an argument if its items are. -/
theorem argument_array (loader : Loader) (items : List Json) :
    (loader.read (.array items)).argument = (collect (items.map loader.read)).map .list := by
  rw [read, readItems_eq_map]
  rfl

/-- An array can be read as an argument if each of its items can. -/
theorem readsArgument_array_iff :
    loader.ReadsArgument (.array items) ↔ ∀ item ∈ items, loader.ReadsArgument item := by
  have hcollect := @exists_collect_iff (items.map loader.read)
  rw [List.forall_mem_map] at hcollect
  refine Iff.trans ?_ hcollect
  rw [ReadsArgument, argument_array]
  cases collect (items.map loader.read) <;> simp [Except.map]

theorem ne_args_of_not_reserved {key : String} (h : key ∉ reservedKeys) : key ≠ "args" := by
  rintro rfl
  exact h (by decide)

/-- The members that give arguments by name can be read if and only if the arguments can. -/
theorem readsArgument_moved_iff (hadmits : signature.Admits items.length) :
    (∀ pair ∈ signature.moved start items, loader.ReadsArgument pair.2) ↔
      ∀ item ∈ items.drop start, loader.ReadsArgument item := by
  cases signature with
  | each parameters =>
    constructor
    · intro h item hitem
      obtain ⟨i, hi⟩ := List.mem_iff_getElem?.1 hitem
      rw [List.getElem?_drop] at hi
      have hlt : start + i < items.length := (List.getElem?_eq_some_iff.1 hi).1
      have hplace : start + i < parameters.length := Nat.lt_of_lt_of_le hlt hadmits
      exact h (parameters[start + i], item) (Signature.mem_moved_each.2
        ⟨start + i, Nat.le_add_right start i, List.getElem?_eq_getElem hplace, hi⟩)
    · intro h pair hpair
      obtain ⟨i, hstart, -, hi⟩ := Signature.mem_moved_each.1 hpair
      refine h pair.2 (List.mem_of_getElem? (i := i - start) ?_)
      rwa [List.getElem?_drop, Nat.add_sub_cancel' hstart]
  | several parameter others =>
    simp only [Signature.moved, List.mem_singleton, forall_eq]
    exact readsArgument_array_iff

/-- There are named arguments where every member that is not reserved can be read as one. -/
theorem exists_namedArguments_members_iff (hsorted : members.Sorted) :
    (∃ named, namedArguments (loader.readMembers members) = .ok named) ↔
      ∀ key value, Entries.get? key members = some value → key ∉ reservedKeys →
        loader.ReadsArgument value := by
  rw [exists_namedArguments_iff, readMembers_eq_map, List.forall_mem_map]
  constructor
  · intro h key value hget hkey
    exact h (key, value) (Entries.mem_of_get? hget) hkey
  · rintro h ⟨key, value⟩ hmem hkey
    exact h key value (Entries.get?_of_mem hsorted hmem) hkey

/-- A place keeps its argument if it is not one of those that are moved. -/
theorem getElem?_of_kept {arguments : List Argument}
    (hcollect : collect (items.map loader.read) = .ok arguments) {i : Nat}
    (hi : i < start ∨ items.length ≤ i) : arguments[i]? = (arguments.take start)[i]? := by
  have hlength : arguments.length = items.length :=
    (length_of_collect hcollect).trans (List.length_map loader.read)
  rw [List.getElem?_take]
  split
  · rfl
  · next hstart => exact List.getElem?_eq_none (hlength ▸ hi.resolve_left hstart)

section

variable (h : signature.Moves start items members members')
include h

/-- The arguments of a node can be read if and only if they can be where they are moved to. -/
theorem exists_arguments_moved_iff :
    ((∃ arguments, collect (items.map loader.read) = .ok arguments) ∧
        ∃ named, namedArguments (loader.readMembers members) = .ok named) ↔
      (∃ arguments, collect ((items.take start).map loader.read) = .ok arguments) ∧
        ∃ named, namedArguments (loader.readMembers members') = .ok named := by
  rw [exists_collect_iff, exists_collect_iff, exists_namedArguments_members_iff h.sorted,
    exists_namedArguments_members_iff h.sorted', List.forall_mem_map, List.forall_mem_map]
  constructor
  · rintro ⟨hitems, hmembers⟩
    have hmoved : ∀ pair ∈ signature.moved start items, loader.ReadsArgument pair.2 :=
      (readsArgument_moved_iff h.admits).2 fun item hitem => hitems item (List.mem_of_mem_drop hitem)
    refine ⟨fun item hitem => hitems item (List.mem_of_mem_take hitem), fun key value hget hkey => ?_⟩
    by_cases hmem : key ∈ (signature.moved start items).map Prod.fst
    · obtain ⟨pair, hpair, rfl⟩ := List.mem_map.1 hmem
      obtain rfl : pair.2 = value := Option.some.inj ((h.named pair hpair).symm.trans hget)
      exact hmoved pair hpair
    · exact hmembers key value ((h.others key (ne_args_of_not_reserved hkey) hmem).symm.trans hget) hkey
  · rintro ⟨hitems, hmembers⟩
    have hdropped : ∀ item ∈ items.drop start, loader.ReadsArgument item :=
      (readsArgument_moved_iff h.admits).1 fun pair hpair =>
        hmembers pair.1 pair.2 (h.named pair hpair)
          (h.reserved pair.1 (Signature.mem_names_of_mem_moved hpair))
    refine ⟨fun item hitem => ?_, fun key value hget hkey => ?_⟩
    · rw [← List.take_append_drop start items, List.mem_append] at hitem
      exact hitem.elim (hitems item) (hdropped item)
    · -- a name that arguments are moved to was free, so only the other members need to be looked at
      by_cases hmem : key ∈ (signature.moved start items).map Prod.fst
      · obtain ⟨pair, hpair, rfl⟩ := List.mem_map.1 hmem
        cases (h.free pair hpair).symm.trans hget
      · exact hmembers key value ((h.others key (ne_args_of_not_reserved hkey) hmem).trans hget) hkey

variable {arguments : List Argument} {named named' : Entries Argument}
  (hcollect : collect (items.map loader.read) = .ok arguments)
  (hnamed : namedArguments (loader.readMembers members) = .ok named)
  (hnamed' : namedArguments (loader.readMembers members') = .ok named')
include hnamed hnamed'

/-- A name that nothing is moved to keeps its argument. -/
theorem get?_named_of_not_moved {key : String}
    (hkey : key ∉ (signature.moved start items).map Prod.fst) :
    Entries.get? key named = Entries.get? key named' := by
  refine eq_of_map_ok ?_
  rw [get?_namedArguments hnamed, get?_namedArguments hnamed', get?_readMembers, get?_readMembers]
  by_cases hreserved : key ∈ reservedKeys
  · rw [if_pos hreserved, if_pos hreserved]
  · rw [h.others key (ne_args_of_not_reserved hreserved) hkey]

/-- A name that an argument is moved to had none, and then has that of the node. -/
theorem get?_named_of_moved {pair : String × Json} (hpair : pair ∈ signature.moved start items) :
    Entries.get? pair.1 named = none ∧
      (Entries.get? pair.1 named').map Except.ok = some (loader.read pair.2).argument := by
  have hreserved := h.reserved pair.1 (Signature.mem_names_of_mem_moved hpair)
  constructor
  · have hget := get?_namedArguments hnamed pair.1
    rw [if_neg hreserved, get?_readMembers, h.free pair hpair] at hget
    exact Option.map_eq_none_iff.1 hget
  · rw [get?_namedArguments hnamed', if_neg hreserved, get?_readMembers, h.named pair hpair]
    rfl

include hcollect

/-- A parameter sees the same argument whether it has its place or its name. -/
theorem same_moved (typeName : String) (change : Option Cast) :
    ∀ access ∈ signature.accesses, access.Same (.ofNode typeName arguments named change)
      (.ofNode typeName (arguments.take start) named' change) := by
  intro access haccess
  cases signature with
  | each parameters =>
    obtain ⟨i, name, hi, rfl⟩ := Signature.mem_accesses_each.1 haccess
    by_cases hmem : name ∈ ((Signature.each parameters).moved start items).map Prod.fst
    · -- the argument has its name instead of its place
      obtain ⟨pair, hpair, rfl⟩ := List.mem_map.1 hmem
      obtain ⟨hstart, hitem⟩ := h.place_of_moved hi hpair
      obtain ⟨hfree, hmoved⟩ := get?_named_of_moved h hnamed hnamed' hpair
      have hplace : arguments[i]? = Entries.get? pair.1 named' := by
        refine eq_of_map_ok ?_
        rw [hmoved, getElem?_of_collect hcollect, List.getElem?_map, hitem]
        rfl
      have hgone : (arguments.take start)[i]? = none := by
        rw [List.getElem?_take, if_neg (Nat.not_lt.2 hstart)]
      simp only [Access.Same, Arguments.pick, Arguments.slot?_ofNode, hplace, hgone]
      simp only [Arguments.ofNode, hfree]
      cases Entries.get? pair.1 named' <;> rfl
    · -- the argument has stayed where it was, so both see the same at its place and under its name
      refine Arguments.same_of_at? rfl (fun hcast => by cases hcast) fun location hcovers => ?_
      cases location with
      | place j =>
        obtain rfl : i = j := Option.some.inj (Access.covers_one_place.1 hcovers)
        rw [Arguments.at?_ofNode_place, Arguments.at?_ofNode_place]
        refine getElem?_of_kept hcollect ?_
        refine Decidable.byContradiction fun hnot => hmem ?_
        rw [not_or, Nat.not_lt, Nat.not_le] at hnot
        obtain ⟨hstart, hlt⟩ := hnot
        refine List.mem_map.2 ⟨(name, items[i]), ?_, rfl⟩
        exact Signature.mem_moved_each.2 ⟨i, hstart, hi, List.getElem?_eq_getElem hlt⟩
      | name n =>
        obtain rfl : n = name := Access.covers_one_name.1 hcovers
        exact get?_named_of_not_moved h hnamed hnamed' hmem
  | several parameter others =>
    rcases Signature.mem_accesses_several.1 haccess with rfl | ⟨name, hname, rfl⟩
    · -- the list under the name continues the places
      obtain ⟨hfree, hmoved⟩ := get?_named_of_moved h hnamed hnamed' (List.mem_singleton_self _)
      have hlist : Entries.get? parameter named' = some (.list (arguments.drop start)) := by
        refine eq_of_map_ok ?_
        rw [hmoved, argument_array, List.map_drop, collect_drop hcollect]
        rfl
      have hnone : Entries.get? parameter named = none := hfree
      simp only [Access.Same, Arguments.pickFrom_ofNode, hnone, hlist, List.drop_zero, Option.map_some,
        Option.map_none, Option.getD_some, Option.getD_none, Argument.spread, List.append_nil,
        List.take_append_drop]
    · -- the other parameters have names only, and no argument is moved to these
      refine Arguments.same_of_at? rfl (fun hcast => by cases hcast) fun location hcovers => ?_
      cases location with
      | place j => cases Access.covers_one_place.1 hcovers
      | name n =>
        obtain rfl : n = name := Access.covers_one_name.1 hcovers
        refine get?_named_of_not_moved h hnamed hnamed' fun hmem => ?_
        obtain rfl : n = parameter := by simpa [Signature.moved] using hmem
        exact (List.nodup_cons.1 h.nodup).1 hname

/-- A constructor that follows the signature builds the same of the arguments. -/
theorem construct_moved {typeName : String} {change : Option Cast} {constructor : Constructor}
    (hfollows : constructor.Follows signature) :
    construct constructor (.ofNode typeName arguments named change) =
      construct constructor (.ofNode typeName (arguments.take start) named' change) := by
  refine construct_congr hfollows (sorted_namedArguments (sorted_readMembers h.sorted) hnamed)
    (sorted_namedArguments (sorted_readMembers h.sorted') hnamed') rfl rfl
    (same_moved h hcollect hnamed hnamed' typeName change) fun location hnot => ?_
  cases location with
  | place i =>
    rw [Arguments.at?_ofNode_place, Arguments.at?_ofNode_place]
    refine getElem?_of_kept hcollect (.inr ?_)
    refine Nat.le_of_not_lt fun hlt => hnot (Signature.covers_place_iff.2 ?_)
    rintro parameters rfl
    exact Nat.lt_of_lt_of_le hlt h.admits
  | name name =>
    rw [Arguments.at?_ofNode_name, Arguments.at?_ofNode_name]
    refine get?_named_of_not_moved h hnamed hnamed' fun hmem => hnot ?_
    exact Signature.covers_name_iff.2 (Signature.names_moved_sublist.subset hmem)

end

/-- What a node says besides its arguments is the same. -/
theorem get?_readMembers_moved (h : signature.Moves start items members members') {key : String}
    (hkey : key ∈ reservedKeys) (hne : key ≠ "args") :
    Entries.get? key (loader.readMembers members') = Entries.get? key (loader.readMembers members) := by
  rw [get?_readMembers, get?_readMembers, h.get?_of_reserved hkey hne]

/-- A node is a source if and only if it is the same source with the arguments moved. -/
theorem sourceOf_moved_iff (h : signature.Moves start items members members')
    (hsignature : ∀ typeName constructor,
      requireType (loader.readMembers members) = .ok typeName →
      loader.sources.find? typeName = some constructor → constructor.Follows signature)
    {source : Source} :
    loader.sourceOf (loader.readMembers members) = .ok source ↔
      loader.sourceOf (loader.readMembers members') = .ok source := by
  have htype : requireType (loader.readMembers members') = requireType (loader.readMembers members) := by
    rw [requireType, requireType, typeOf, typeOf, get?_readMembers_moved h (by decide) (by decide)]
  have hoptional (typeName : String) : isOptional typeName (loader.readMembers members') =
      isOptional typeName (loader.readMembers members) := by
    rw [isOptional, isOptional, get?_readMembers_moved h (by decide) (by decide)]
  have hchange : castTo (loader.readMembers members') = castTo (loader.readMembers members) := by
    rw [castTo, castTo, get?_readMembers_moved h (by decide) (by decide)]
  have hplaces (typeName : String) : positionalArguments typeName (loader.readMembers members) =
      collect (items.map loader.read) := positionalArguments_of_items h.places
  have hplaces' (typeName : String) : positionalArguments typeName (loader.readMembers members') =
      collect ((items.take start).map loader.read) :=
    positionalArguments_of_items (by rw [h.places', Option.getD_some])
  -- the two nodes differ in their arguments only
  simp only [sourceOf_eq_ok_iff, htype, hoptional, hchange, hplaces, hplaces']
  constructor
  · rintro ⟨typeName, constructor, arguments, optional, change, named, inner, hname, hcast, hfound,
      hcollect, hopt, hto, hnamed, hinner, hsource⟩
    obtain ⟨-, named', hnamed'⟩ := (exists_arguments_moved_iff h).1 ⟨⟨arguments, hcollect⟩, named, hnamed⟩
    refine ⟨typeName, constructor, arguments.take start, optional, change, named', inner, hname, hcast,
      hfound, ?_, hopt, hto, hnamed', ?_, hsource⟩
    · rw [List.map_take]
      exact collect_take hcollect start
    · rw [← construct_moved h hcollect hnamed hnamed' (hsignature typeName constructor hname hfound)]
      exact hinner
  · rintro ⟨typeName, constructor, arguments', optional, change, named', inner, hname, hcast, hfound,
      hcollect', hopt, hto, hnamed', hinner, hsource⟩
    obtain ⟨⟨arguments, hcollect⟩, named, hnamed⟩ :=
      (exists_arguments_moved_iff h).2 ⟨⟨arguments', hcollect'⟩, named', hnamed'⟩
    refine ⟨typeName, constructor, arguments, optional, change, named, inner, hname, hcast,
      hfound, hcollect, hopt, hto, hnamed, ?_, hsource⟩
    have htake := collect_take hcollect start
    rw [← List.map_take, hcollect'] at htake
    cases htake
    rw [construct_moved h hcollect hnamed hnamed' (hsignature typeName constructor hname hfound)]
    exact hinner

/-- **Arguments by position or by name.** A node of a type of this library, with no more arguments by
position than the type has places, loads if and only if it loads with the arguments from any place on
under the names of their parameters, if the node does not have these names yet. Both are the same source,
with the same value and the same failure in every world. -/
theorem loadSource_nameFrom {loader : Loader} {members : Entries Json} {typeName : String}
    {signature : Signature} {items : List Json} (start : Nat) (hsorted : members.Sorted)
    (htype : Entries.get? "type" members = some (.string typeName))
    (hsignature : Signature.ofType? typeName = some signature)
    (hsources : loader.sources.find? typeName = SourceTable.builtins.find? typeName)
    (hplaces : (Entries.get? "args" members).getD (.array []) = .array items)
    (hadmits : signature.Admits items.length)
    (hfree : ∀ pair ∈ signature.moved start items, pair.1 ∉ Entries.keys members) :
    (∀ source, loader.loadSource (.object members) = .ok source ↔
        loader.loadSource (.object (signature.nameFrom start items members)) = .ok source) ∧
      ∀ source source', loader.loadSource (.object members) = .ok source →
        loader.loadSource (.object (signature.nameFrom start items members)) = .ok source' →
        ∀ w, source.resolve w = source'.resolve w := by
  have hnone : ∀ pair ∈ signature.moved start items, Entries.get? pair.1 members = none := by
    intro pair hpair
    have hnot := mt Entries.isSome_get?_iff.1 (hfree pair hpair)
    rwa [Option.not_isSome_iff_eq_none] at hnot
  have hmoves := Signature.moves_nameFrom hsignature hadmits hsorted hplaces hnone
  have hiff : ∀ source, loader.loadSource (.object members) = .ok source ↔
      loader.loadSource (.object (signature.nameFrom start items members)) = .ok source := by
    intro source
    refine sourceOf_moved_iff hmoves fun name constructor hname hfound => ?_
    obtain rfl : typeName = name := by
      rw [requireType_eq_ok_iff, htype] at hname
      cases hname
      rfl
    rw [hsources] at hfound
    obtain ⟨signature', hsignature', hfollows⟩ := SourceTable.follows_builtins hfound
    obtain rfl : signature = signature' := Option.some.inj (hsignature.symm.trans hsignature')
    exact hfollows
  refine ⟨hiff, fun source source' hload hload' w => ?_⟩
  obtain rfl : source = source' := Except.ok.inj (((hiff source).1 hload).symm.trans hload')
  rfl

/-- A file with its encoding and its formats by position. -/
def filePlaces : Entries Json := [
  ("args", .array [.string "app.conf", .string "latin-1", .array [.string "json", .string "toml"]]),
  ("type", .string "FileSource")]

/-- The same file with them by name. -/
def fileNames : Entries Json := [
  ("args", .array [.string "app.conf"]),
  ("encoding", .string "latin-1"),
  ("formats", .array [.string "json", .string "toml"]),
  ("type", .string "FileSource")]

/-- The encoding and the formats of a file may have names. -/
theorem loadSource_fileNames : ∃ source, builtins.loadSource (.object filePlaces) = .ok source ∧
    builtins.loadSource (.object fileNames) = .ok source := by
  have hsorted : filePlaces.Sorted := by
    rw [Entries.Sorted]
    decide
  have hmoved (source : Source) : builtins.loadSource (.object filePlaces) = .ok source ↔
      builtins.loadSource (.object fileNames) = .ok source :=
    (loadSource_nameFrom 1 hsorted rfl rfl rfl rfl (Nat.le_refl 3) (by decide)).1 source
  obtain ⟨source, hload⟩ : ∃ source, builtins.loadSource (.object filePlaces) = .ok source := ⟨_, rfl⟩
  exact ⟨source, hload, (hmoved source).1 hload⟩

end Loader

end LayeredConfig
