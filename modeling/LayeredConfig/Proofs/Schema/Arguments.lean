import LayeredConfig.Schema.Arguments

/-!
# Every argument is used once

An argument stands at a place or under a name. Each operation of `Taking` on the arguments of a node
asks for one argument, for a run of places with a name, or for the cast (`Access`), and uses up exactly
what it asks for, whether it succeeds or not: `Asks` says so of one operation, and `after_eq_clearAll`
of a run of them. What a run leaves is then known at every location, and so is the outcome of `finish`.
The main statement `conserved_of_run` puts this together for every run of operations.
-/

namespace LayeredConfig

/-- Where an argument of a node stands. -/
inductive Arguments.Location where
  | place (index : Nat)
  | name (name : String)
deriving DecidableEq, Repr

/-- What an operation asks for: an argument that has a place and a name, the arguments from a place on
with those of a name, or the cast for the source. -/
inductive Access where
  | one (index : Option Nat) (name : String)
  | rest (start : Nat) (name : String)
  | castTo
deriving DecidableEq, Repr

namespace Arguments

variable {args args' : Arguments}

/-- The argument that is still to be used at a location. -/
def at? (args : Arguments) : Location → Option Argument
  | .place index => args.slot? (some index)
  | .name name => Entries.get? name args.named

end Arguments

open Arguments (Location)

namespace Access

/-- Whether an argument at a location is asked for. -/
def covers : Access → Location → Bool
  | one index _, .place i => index = some i
  | one _ name, .name n => n = name
  | rest start _, .place i => start ≤ i
  | rest _ name, .name n => n = name
  | castTo, _ => false

@[simp] theorem covers_one_place {index : Option Nat} {name : String} {i : Nat} :
    (one index name).covers (.place i) = true ↔ index = some i := decide_eq_true_iff

@[simp] theorem covers_one_name {index : Option Nat} {name n : String} :
    (one index name).covers (.name n) = true ↔ n = name := decide_eq_true_iff

@[simp] theorem covers_rest_place {start i : Nat} {name : String} :
    (rest start name).covers (.place i) = true ↔ start ≤ i := decide_eq_true_iff

@[simp] theorem covers_rest_name {start : Nat} {name n : String} :
    (rest start name).covers (.name n) = true ↔ n = name := decide_eq_true_iff

/-- The arguments without what is asked for. -/
def clear : Access → Arguments → Arguments
  | one index name, args => args.without index name
  | rest start name, args => args.withoutFrom start name
  | castTo, args => { args with castTo := none }

/-- What is asked for is the same in both arguments. An argument is the same whether it has its place
or its name. -/
def Same (args args' : Arguments) : Access → Prop
  | one index name => args.pick index name = args'.pick index name
  | rest start name => args.pickFrom start name = args'.pickFrom start name
  | castTo => args.castTo = args'.castTo

/-- What is asked for as one argument is not given twice, at its place and under its name. -/
def Single (args : Arguments) : Access → Prop
  | one index name => args.slot? index = none ∨ Entries.get? name args.named = none
  | _ => True

end Access

namespace Arguments

variable {args args' : Arguments}

/-- The slots of fresh arguments are the positional ones. -/
theorem slot?_ofNode (typeName : String) (positional : List Argument) (named : Entries Argument)
    (change : Option Cast) (i : Nat) :
    (ofNode typeName positional named change).slot? (some i) = positional[i]? := by
  simp only [slot?, ofNode, List.getElem?_map]
  cases positional[i]? <;> rfl

/-- Asking fresh arguments from a place on gives what is positional there, then what the name spreads to. -/
theorem pickFrom_ofNode (typeName : String) (positional : List Argument) (named : Entries Argument)
    (change : Option Cast) (start : Nat) (name : String) :
    (ofNode typeName positional named change).pickFrom start name =
      positional.drop start ++ ((Entries.get? name named).map Argument.spread).getD [] := by
  simp [pickFrom, ofNode, ← List.map_drop, List.filterMap_map]

/-- At a place of fresh arguments stands the positional one. -/
@[simp] theorem at?_ofNode_place (typeName : String) (positional : List Argument)
    (named : Entries Argument) (change : Option Cast) (i : Nat) :
    (ofNode typeName positional named change).at? (.place i) = positional[i]? :=
  slot?_ofNode typeName positional named change i

@[simp] theorem at?_ofNode_name (typeName : String) (positional : List Argument)
    (named : Entries Argument) (change : Option Cast) (name : String) :
    (ofNode typeName positional named change).at? (.name name) = Entries.get? name named := rfl

/-! ## What is left at a location -/

/-- Taking one argument empties its slot and no other. -/
theorem slot?_without (index : Option Nat) (name : String) (i : Nat) :
    (args.without index name).slot? (some i) =
      if index = some i then none else args.slot? (some i) := by
  cases index with
  | none => rfl
  | some index =>
    simp only [without, slot?, List.getElem?_set, Option.some.injEq]
    by_cases hi : index = i
    · subst hi
      by_cases hlt : index < args.positional.length <;> simp [hlt]
    · simp [hi]

theorem slot?_withoutFrom (start : Nat) (name : String) (i : Nat) :
    (args.withoutFrom start name).slot? (some i) =
      if start ≤ i then none else args.slot? (some i) := by
  simp only [withoutFrom, slot?, List.getElem?_append, List.length_take, List.getElem?_take,
    List.getElem?_map, List.getElem?_drop]
  by_cases hstart : start ≤ i
  · have hnot : ¬ i < min start args.positional.length := by omega
    simp only [hnot, hstart, if_false, if_true]
    cases args.positional[start + (i - min start args.positional.length)]? <;> rfl
  · by_cases hlength : i < args.positional.length
    · have hlt : i < min start args.positional.length := by omega
      simp [hlt, hstart, Nat.lt_of_not_le hstart]
    · have hnot : ¬ i < min start args.positional.length := by omega
      have hbeyond : args.positional[start + (i - min start args.positional.length)]? = none :=
        List.getElem?_eq_none (by omega)
      have hnone : args.positional[i]? = none := List.getElem?_eq_none (by omega)
      simp [hnot, hstart, hbeyond, hnone]

/-- What is not asked for stays. -/
theorem at?_clear_of_not_covers {access : Access} {location : Location}
    (h : access.covers location = false) : (access.clear args).at? location = args.at? location := by
  cases access with
  | one index name =>
    cases location with
    | place i =>
      have hne : index ≠ some i := of_decide_eq_false h
      simp [Access.clear, at?, slot?_without, hne]
    | name n => exact Entries.get?_erase_of_ne (of_decide_eq_false h) _
  | rest start name =>
    cases location with
    | place i =>
      have hlt : ¬ start ≤ i := of_decide_eq_false h
      simp [Access.clear, at?, slot?_withoutFrom, hlt]
    | name n => exact Entries.get?_erase_of_ne (of_decide_eq_false h) _
  | castTo => cases location <;> rfl

/-- What is asked for is used up. -/
theorem at?_clear_of_covers (hnamed : args.named.Sorted) {access : Access} {location : Location}
    (h : access.covers location = true) : (access.clear args).at? location = none := by
  cases access with
  | one index name =>
    cases location with
    | place i =>
      have heq : index = some i := of_decide_eq_true h
      simp [Access.clear, at?, slot?_without, heq]
    | name n =>
      have heq : n = name := of_decide_eq_true h
      subst heq
      exact Entries.get?_erase_self hnamed
  | rest start name =>
    cases location with
    | place i =>
      have hle : start ≤ i := of_decide_eq_true h
      simp [Access.clear, at?, slot?_withoutFrom, hle]
    | name n =>
      have heq : n = name := of_decide_eq_true h
      subst heq
      exact Entries.get?_erase_self hnamed
  | castTo => cases h

@[simp] theorem typeName_clear (access : Access) : (access.clear args).typeName = args.typeName := by
  cases access <;> rfl

/-- The cast goes with the request for it, and with no other. -/
theorem castTo_clear (access : Access) :
    (access.clear args).castTo = if access = .castTo then none else args.castTo := by
  cases access <;> rfl

/-- A request leaves the named arguments in order. -/
theorem sorted_clear (hnamed : args.named.Sorted) (access : Access) :
    (access.clear args).named.Sorted := by
  cases access with
  | one | rest => exact hnamed.erase _
  | castTo => exact hnamed

/-- The arguments without anything that is asked for, one request after another. -/
def clearAll (accesses : List Access) (args : Arguments) : Arguments :=
  accesses.foldl (fun left access => access.clear left) args

theorem sorted_clearAll (hnamed : args.named.Sorted) (accesses : List Access) :
    (clearAll accesses args).named.Sorted := by
  induction accesses generalizing args with
  | nil => exact hnamed
  | cons access accesses ih => exact ih (sorted_clear hnamed access)

@[simp] theorem typeName_clearAll (accesses : List Access) :
    (clearAll accesses args).typeName = args.typeName := by
  induction accesses generalizing args with
  | nil => rfl
  | cons access accesses ih => exact ih.trans (typeName_clear access)

/-- The cast is gone once it has been asked for. -/
theorem castTo_clearAll (accesses : List Access) :
    (clearAll accesses args).castTo = if .castTo ∈ accesses then none else args.castTo := by
  induction accesses generalizing args with
  | nil => rfl
  | cons access accesses ih =>
    have hrest : (clearAll (access :: accesses) args).castTo =
        if .castTo ∈ accesses then none else (access.clear args).castTo := ih
    rw [hrest, castTo_clear]
    by_cases heq : access = .castTo
    · simp [heq]
    · simp [heq, Ne.symm heq]

/-- What no request asks for is still there after all of them. -/
theorem at?_clearAll_of_not_covers {accesses : List Access} {location : Location}
    (h : ∀ access ∈ accesses, access.covers location = false) :
    (clearAll accesses args).at? location = args.at? location := by
  induction accesses generalizing args with
  | nil => rfl
  | cons access accesses ih =>
    have hrest : (clearAll accesses (access.clear args)).at? location =
        (access.clear args).at? location := ih fun a ha => h a (List.mem_cons_of_mem _ ha)
    exact hrest.trans (at?_clear_of_not_covers (h access List.mem_cons_self))

/-- No request gives an argument back. -/
theorem at?_clearAll_eq_none (hnamed : args.named.Sorted) (accesses : List Access)
    {location : Location} (h : args.at? location = none) :
    (clearAll accesses args).at? location = none := by
  induction accesses generalizing args with
  | nil => exact h
  | cons access accesses ih =>
    refine ih (sorted_clear hnamed access) ?_
    by_cases hcovers : access.covers location = true
    · exact at?_clear_of_covers hnamed hcovers
    · rw [at?_clear_of_not_covers (eq_false_of_ne_true hcovers)]
      exact h

/-- What one of several requests asks for is used up after all of them. -/
theorem at?_clearAll_of_covers (hnamed : args.named.Sorted) {accesses : List Access}
    {access : Access} (hmem : access ∈ accesses) {location : Location}
    (h : access.covers location = true) : (clearAll accesses args).at? location = none := by
  induction accesses generalizing args with
  | nil => cases hmem
  | cons first accesses ih =>
    rcases List.mem_cons.1 hmem with rfl | hmem
    · exact at?_clearAll_eq_none (sorted_clear hnamed access) accesses
        (at?_clear_of_covers hnamed h)
    · exact ih (sorted_clear hnamed first) hmem

/-! ## The end of a run -/

/-- The order in which leftovers are reported: places before names. -/
def Location.Before : Location → Location → Prop
  | .place i, .place j => i < j
  | .place _, .name _ => True
  | .name _, .place _ => False
  | .name m, .name n => m < n

/-- Two locations are the same, or one is reported before the other. -/
theorem Location.before_trichotomy (l l' : Location) : l.Before l' ∨ l = l' ∨ l'.Before l := by
  cases l with
  | place i =>
    cases l' with
    | place j =>
      rcases Nat.lt_trichotomy i j with h | h | h
      · exact .inl h
      · exact .inr (.inl (congrArg place h))
      · exact .inr (.inr h)
    | name n => exact .inl trivial
  | name m =>
    cases l' with
    | place j => exact .inr (.inr trivial)
    | name n =>
      rcases Std.lt_trichotomy m n with h | h | h
      · exact .inl h
      · exact .inr (.inl (congrArg Location.name h))
      · exact .inr (.inr h)

/-- A location in messages. -/
def Location.describe : Location → String
  | .place i => "args[" ++ toString i ++ "]"
  | .name n => n

/-- The first location that still holds an argument. -/
structure FirstLeft (args : Arguments) (location : Location) : Prop where
  left : (args.at? location).isSome
  first : ∀ other : Location, other.Before location → args.at? other = none

/-- There is one first leftover. -/
theorem FirstLeft.unique {l l' : Location} (h : args.FirstLeft l) (h' : args.FirstLeft l') :
    l = l' := by
  rcases Location.before_trichotomy l l' with hlt | heq | hgt
  · have hsome := h.left
    simp [h'.first l hlt] at hsome
  · exact heq
  · have hsome := h'.left
    simp [h.first l' hgt] at hsome

/-- There is no unused place where every slot is empty. -/
theorem unusedIndex?_eq_none_iff : args.unusedIndex? = none ↔ ∀ i, args.at? (.place i) = none := by
  simp only [unusedIndex?, List.findIdx?_eq_none_iff, at?, slot?]
  constructor
  · intro h i
    cases hplace : args.positional[i]? with
    | none => rfl
    | some slot => exact Option.not_isSome_iff_eq_none.1 (by simp [h slot (List.mem_of_getElem? hplace)])
  · intro h slot hmem
    obtain ⟨i, hi⟩ := List.getElem?_of_mem hmem
    have hslot := h i
    rw [hi] at hslot
    simpa using hslot

/-- The unused place that is found is the first one. -/
theorem unusedIndex?_eq_some_iff {i : Nat} : args.unusedIndex? = some i ↔
    (args.at? (.place i)).isSome ∧ ∀ j < i, args.at? (.place j) = none := by
  simp only [unusedIndex?, List.findIdx?_eq_some_iff_getElem, at?, slot?]
  constructor
  · rintro ⟨hi, hsome, hbefore⟩
    refine ⟨by simpa [hi] using hsome, fun j hj => ?_⟩
    have hlt : j < args.positional.length := by omega
    simpa [hlt] using hbefore j hj
  · rintro ⟨hsome, hbefore⟩
    have hi : i < args.positional.length := by
      refine Nat.lt_of_not_le fun hge => ?_
      simp [List.getElem?_eq_none hge] at hsome
    refine ⟨hi, by simpa [hi] using hsome, fun j hj => ?_⟩
    have hlt : j < args.positional.length := by omega
    simpa [hlt] using hbefore j hj

/-- `finish` succeeds if and only if nothing is left, and gives the cast that is left. -/
theorem finish_eq_ok_iff {change : Option Cast} : args.finish = .ok change ↔
    (∀ location, args.at? location = none) ∧ change = args.castTo := by
  unfold finish
  split
  · next hi =>
    have hsome := (unusedIndex?_eq_some_iff.1 hi).1
    simp only [reduceCtorEq, false_iff, not_and]
    intro hnone
    simp [hnone] at hsome
  · next name argument named _ hnamed =>
    simp only [reduceCtorEq, false_iff, not_and]
    intro hnone
    have hname := hnone (.name name)
    simp [at?, hnamed, Entries.get?] at hname
  · next hi hnamed =>
    have hall : ∀ location, args.at? location = none := by
      intro location
      cases location with
      | place i => exact unusedIndex?_eq_none_iff.1 hi i
      | name n => simp [at?, hnamed]
    simp only [Except.ok.injEq, hall, implies_true, true_and]
    exact eq_comm

/-- `finish` fails if and only if something is left, and names the first location that is left. -/
theorem finish_eq_error_iff (hnamed : args.named.Sorted) {e : SchemaError} :
    args.finish = .error e ↔
      ∃ location, args.FirstLeft location ∧
        e = .unexpectedArgument args.typeName location.describe := by
  have hforward {e : SchemaError} (h : args.finish = .error e) : ∃ location,
      args.FirstLeft location ∧ e = .unexpectedArgument args.typeName location.describe := by
    unfold finish at h
    split at h
    · next _ i hi =>
      cases h
      obtain ⟨hsome, hbefore⟩ := unusedIndex?_eq_some_iff.1 hi
      refine ⟨.place i, ⟨hsome, fun other hother => ?_⟩, rfl⟩
      cases other with
      | place j => exact hbefore j hother
      | name n => exact hother.elim
    · next name argument named hi hentries =>
      cases h
      rw [hentries] at hnamed
      refine ⟨.name name, ⟨by simp [at?, hentries, Entries.get?], fun other hother => ?_⟩, rfl⟩
      cases other with
      | place j => exact unusedIndex?_eq_none_iff.1 hi j
      | name n =>
        -- the names increase, so none is before the first one
        have hafter : ∀ entry ∈ (name, argument) :: named, n < entry.1 := by
          intro entry hentry
          rcases List.mem_cons.1 hentry with rfl | hentry
          · exact hother
          · exact String.lt_trans hother ((Entries.sorted_cons.1 hnamed).1 entry hentry)
        simp only [at?, hentries]
        exact Entries.get?_eq_none_of_lt hafter
    · cases h
  -- there is one first leftover, so the one that is named is this one
  refine ⟨hforward, ?_⟩
  rintro ⟨location, hfirst, rfl⟩
  cases hfinish : args.finish with
  | ok change =>
    have hsome := hfirst.left
    simp [(finish_eq_ok_iff.1 hfinish).1 location] at hsome
  | error e =>
    obtain ⟨other, hother, rfl⟩ := hforward hfinish
    rw [hfirst.unique hother]

/-! ## What is asked for -/

/-- The arguments that are there in a run of places depend only on what stands at each place. -/
theorem filterMap_id_congr {slots slots' : List (Option Argument)}
    (h : ∀ i : Nat, (slots[i]?).join = (slots'[i]?).join) : slots.filterMap id = slots'.filterMap id := by
  have hempty {slots : List (Option Argument)} (h : ∀ i : Nat, (slots[i]?).join = none) :
      slots.filterMap id = [] := by
    refine List.filterMap_eq_nil_iff.2 fun slot hmem => ?_
    obtain ⟨i, hi⟩ := List.getElem?_of_mem hmem
    simpa [hi] using h i
  induction slots generalizing slots' with
  | nil => exact (hempty fun i => (h i).symm).symm
  | cons slot slots ih =>
    cases slots' with
    | nil => exact hempty h
    | cons slot' slots' =>
      have hhead : slot = slot' := h 0
      have htail : slots.filterMap id = slots'.filterMap id := ih fun i => h (i + 1)
      subst hhead
      cases slot with
      | none => exact htail
      | some argument => exact congrArg (argument :: ·) htail

/-- What is asked for depends only on the locations that are asked for. -/
theorem same_of_at? {access : Access} (htype : args.typeName = args'.typeName)
    (hcast : access = .castTo → args.castTo = args'.castTo)
    (h : ∀ location, access.covers location = true → args.at? location = args'.at? location) :
    access.Same args args' := by
  cases access with
  | one index name =>
    have hslot : args.slot? index = args'.slot? index := by
      cases index with
      | none => rfl
      | some i => exact h (.place i) (decide_eq_true rfl)
    have hname : Entries.get? name args.named = Entries.get? name args'.named :=
      h (.name name) (decide_eq_true rfl)
    simp only [Access.Same, pick, hslot, hname, htype]
  | rest start name =>
    have hslots : (args.positional.drop start).filterMap id =
        (args'.positional.drop start).filterMap id := by
      refine filterMap_id_congr fun i => ?_
      simp only [List.getElem?_drop]
      exact h (.place (start + i)) (decide_eq_true (Nat.le_add_right start i))
    have hname : Entries.get? name args.named = Entries.get? name args'.named :=
      h (.name name) (decide_eq_true rfl)
    simp only [Access.Same, pickFrom, hslots, hname]
  | castTo => exact hcast rfl

end Arguments

/-! ## Operations that ask once -/

namespace Taking

variable {α β : Type} {access : Access}

/-- The operation uses up nothing, and of the arguments it sees the name of their type only. -/
structure Quiet (operation : Taking α) : Prop where
  leaves : ∀ args, (operation.runOn args).2 = args
  answers : ∀ args args' : Arguments, args.typeName = args'.typeName →
    (operation.runOn args).1 = (operation.runOn args').1

/-- The operation uses up what it asks for, also when it fails, and it sees nothing else. It fails if it
asks for one argument and that is given twice. -/
structure Asks (access : Access) (operation : Taking α) : Prop where
  leaves : ∀ args, (operation.runOn args).2 = access.clear args
  answers : ∀ args args' : Arguments, args.typeName = args'.typeName → access.Same args args' →
    (operation.runOn args).1 = (operation.runOn args').1
  single : ∀ args a, (operation.runOn args).1 = .ok a → access.Single args

theorem quiet_pure (a : α) : Quiet (pure a : Taking α) := ⟨fun _ => rfl, fun _ _ _ => rfl⟩

theorem quiet_throw (e : SchemaError) : Quiet (throw e : Taking α) :=
  ⟨fun _ => rfl, fun _ _ _ => rfl⟩

/-- Reporting a missing argument uses up nothing. -/
theorem quiet_failMissing (name : String) : Quiet (failMissing name : Taking α) :=
  ⟨fun _ => rfl, fun args args' h => by simp [failMissing, runOn_ofStep, Arguments.missing, h]⟩

theorem quiet_failInvalid (name : String) (expected : Expectation) :
    Quiet (failInvalid name expected : Taking α) :=
  ⟨fun _ => rfl, fun args args' h => by simp [failInvalid, runOn_ofStep, Arguments.invalid, h]⟩

theorem quiet_needed (name : String) (found : Option α) : Quiet (needed name found) := by
  cases found with
  | none => exact quiet_failMissing name
  | some a => exact quiet_pure a

/-- What follows an operation may look at its result, as long as it asks for nothing more. -/
theorem Asks.bind {first : Taking α} {next : α → Taking β} (hfirst : Asks access first)
    (hnext : ∀ a, Quiet (next a)) : Asks access (first >>= next) where
  leaves args := by
    have hleaves := hfirst.leaves args
    rw [runOn_bind]
    cases hrun : first.runOn args with
    | mk result rest =>
      rw [hrun] at hleaves
      cases result with
      | ok a => exact ((hnext a).leaves rest).trans hleaves
      | error e => exact hleaves
  answers args args' htype hsame := by
    -- the two runs give the same to what follows, which sees nothing of what they leave but the type
    have hanswers := hfirst.answers args args' htype hsame
    have hrest := hfirst.leaves args
    have hrest' := hfirst.leaves args'
    rw [runOn_bind, runOn_bind]
    cases hrun : first.runOn args with
    | mk result rest =>
      cases hrun' : first.runOn args' with
      | mk result' rest' =>
        simp only [hrun, hrun'] at hanswers hrest hrest'
        subst hanswers
        cases result with
        | ok a =>
          refine (hnext a).answers rest rest' ?_
          rw [hrest, hrest', Arguments.typeName_clear, Arguments.typeName_clear, htype]
        | error e => rfl
  single args b hrun := by
    rw [runOn_bind] at hrun
    cases hfirstRun : first.runOn args with
    | mk result rest =>
      rw [hfirstRun] at hrun
      cases result with
      | ok a => exact hfirst.single args a (congrArg Prod.fst hfirstRun)
      | error e => cases hrun

/-- Taking an argument uses it up at its place and under its name, and fails if both hold one. -/
theorem asks_take (index : Option Nat) (name : String) :
    Asks (.one index name) (take index name) where
  leaves _ := rfl
  answers _ _ _ h := h
  single args found hpick := by
    change args.pick index name = .ok found at hpick
    unfold Arguments.pick at hpick
    split at hpick
    · cases hpick
    · next hname => exact .inr hname
    · next hslot => exact .inl hslot

/-- Taking the arguments from a place on uses up all of them. -/
theorem asks_takeRest (start : Nat) (name : String) : Asks (.rest start name) (takeRest start name) :=
  ⟨fun _ => rfl, fun _ _ _ h => congrArg Except.ok h, fun _ _ _ => trivial⟩

theorem asks_takeCastTo : Asks .castTo takeCastTo :=
  ⟨fun _ => rfl, fun _ _ _ h => congrArg Except.ok h, fun _ _ _ => trivial⟩

theorem asks_require (index : Option Nat) (name : String) :
    Asks (.one index name) (require index name) :=
  (asks_take index name).bind fun found => quiet_needed name found

/-- Viewing an argument in some form asks for what taking it does. -/
theorem asks_takeAs (view : Argument → Option α) (expected : Expectation) (index : Option Nat)
    (name : String) : Asks (.one index name) (takeAs view expected index name) := by
  refine (asks_take index name).bind fun found => ?_
  cases found with
  | none => exact quiet_pure none
  | some argument =>
    cases h : view argument with
    | none => simpa [h] using quiet_failInvalid name expected
    | some a => simpa [h] using quiet_pure (some a)

/-- An argument of some kind that must be there is asked for like one that may be. -/
theorem asks_needed {operation : Taking (Option α)} {index : Option Nat} {name : String}
    (h : Asks (.one index name) operation) :
    Asks (.one index name) (operation >>= fun found => needed name found) :=
  h.bind fun found => quiet_needed name found

theorem asks_sources (start : Nat) (name : String) : Asks (.rest start name) (sources start name) := by
  refine (asks_takeRest start name).bind fun found => ?_
  cases h : found.mapM Argument.source? with
  | none => simpa [h] using quiet_failInvalid name .sources
  | some sources => simpa [h] using quiet_pure sources

theorem asks_texts (start : Nat) (name : String) : Asks (.rest start name) (texts start name) := by
  refine (asks_takeRest start name).bind fun found => ?_
  cases h : (found.flatMap Argument.spread).mapM Argument.text? with
  | none => simpa [h] using quiet_failInvalid name .texts
  | some texts => simpa [h] using quiet_pure texts

end Taking

/-! ## Runs of operations -/

/-- The operations on the arguments of a node. -/
inductive Operation where
  | take (index : Option Nat) (name : String)
  | require (index : Option Nat) (name : String)
  | takeRest (start : Nat) (name : String)
  | text (index : Option Nat) (name : String)
  | requireText (index : Option Nat) (name : String)
  | bool (index : Option Nat) (name : String)
  | value (index : Option Nat) (name : String)
  | requireValue (index : Option Nat) (name : String)
  | requireSource (index : Option Nat) (name : String)
  | sources (start : Nat) (name : String)
  | texts (start : Nat) (name : String)
  | takeCastTo
deriving DecidableEq, Repr

namespace Operation

/-- What an operation gives. -/
def Answer : Operation → Type
  | take _ _ => Option Argument
  | require _ _ => Argument
  | takeRest _ _ => List Argument
  | text _ _ => Option String
  | requireText _ _ => String
  | bool _ _ => Option Bool
  | value _ _ => Option Value
  | requireValue _ _ => Value
  | requireSource _ _ => Source
  | sources _ _ => List Source
  | texts _ _ => List String
  | takeCastTo => Option Cast

/-- Carries an operation out. -/
def perform : (operation : Operation) → Taking operation.Answer
  | take index name => Taking.take index name
  | require index name => Taking.require index name
  | takeRest start name => Taking.takeRest start name
  | text index name => Taking.text index name
  | requireText index name => Taking.requireText index name
  | bool index name => Taking.bool index name
  | value index name => Taking.value index name
  | requireValue index name => Taking.requireValue index name
  | requireSource index name => Taking.requireSource index name
  | sources start name => Taking.sources start name
  | texts start name => Taking.texts start name
  | takeCastTo => Taking.takeCastTo

/-- What an operation asks for. -/
def access : Operation → Access
  | take index name | require index name | text index name | requireText index name
  | bool index name | value index name | requireValue index name | requireSource index name =>
    .one index name
  | takeRest start name | sources start name | texts start name => .rest start name
  | takeCastTo => .castTo

/-- Every operation uses up what it asks for and sees nothing else. -/
theorem asks_perform (operation : Operation) : Taking.Asks operation.access operation.perform := by
  cases operation with
  | take index name => exact Taking.asks_take index name
  | require index name => exact Taking.asks_require index name
  | takeRest start name => exact Taking.asks_takeRest start name
  | text index name | bool index name | value index name => exact Taking.asks_takeAs _ _ index name
  | requireText index name | requireValue index name | requireSource index name =>
    exact Taking.asks_needed (Taking.asks_takeAs _ _ index name)
  | sources start name => exact Taking.asks_sources start name
  | texts start name => exact Taking.asks_texts start name
  | takeCastTo => exact Taking.asks_takeCastTo

/-- Only one operation asks for the cast. -/
theorem access_eq_castTo_iff {operation : Operation} :
    operation.access = .castTo ↔ operation = .takeCastTo := by
  cases operation <;> simp [access]

end Operation

namespace Arguments

variable {args : Arguments} {operations : List Operation}

/-- What a run of operations leaves of some arguments. An operation that fails does not end the run. -/
def after (operations : List Operation) (args : Arguments) : Arguments :=
  operations.foldl (fun left operation => (operation.perform.runOn left).2) args

/-- A run leaves what its requests leave. -/
theorem after_eq_clearAll (operations : List Operation) (args : Arguments) :
    after operations args = clearAll (operations.map Operation.access) args := by
  induction operations generalizing args with
  | nil => rfl
  | cons operation operations ih =>
    have hstep := operation.asks_perform.leaves args
    calc after (operation :: operations) args
        = after operations (operation.perform.runOn args).2 := rfl
      _ = after operations (operation.access.clear args) := by rw [hstep]
      _ = clearAll (operations.map Operation.access) (operation.access.clear args) := ih _

/-- The operation of a run at an index is handed the argument at a location. -/
structure Handed (args : Arguments) (operations : List Operation) (i : Nat) (location : Location)
    (argument : Argument) : Prop where
  asked : ∃ operation, operations[i]? = some operation ∧ operation.access.covers location = true
  found : (after (operations.take i) args).at? location = some argument

/-- No operation of a run asks for the argument at a location. -/
structure Unused (args : Arguments) (operations : List Operation) (location : Location) : Prop where
  given : (args.at? location).isSome
  notAsked : ∀ operation ∈ operations, operation.access.covers location = false

/-- What some operation of a run asks for is gone after the run. -/
theorem at?_after_of_asked (hnamed : args.named.Sorted) {operation : Operation}
    (hmem : operation ∈ operations) {location : Location}
    (h : operation.access.covers location = true) : (after operations args).at? location = none := by
  rw [after_eq_clearAll]
  exact at?_clearAll_of_covers hnamed (List.mem_map_of_mem hmem) h

/-- What no operation of a run asks for is as it was. -/
theorem at?_after_of_not_asked {location : Location}
    (h : ∀ operation ∈ operations, operation.access.covers location = false) :
    (after operations args).at? location = args.at? location := by
  rw [after_eq_clearAll]
  refine at?_clearAll_of_not_covers fun access hmem => ?_
  obtain ⟨operation, hoperation, rfl⟩ := List.mem_map.1 hmem
  exact h operation hoperation

/-- What is still there after a run was given at first, and the run has not asked for it. -/
theorem at?_after_eq_some_iff (hnamed : args.named.Sorted) {location : Location}
    {argument : Argument} : (after operations args).at? location = some argument ↔
      args.at? location = some argument ∧
        ∀ operation ∈ operations, operation.access.covers location = false := by
  constructor
  · intro h
    have hasked : ∀ operation ∈ operations, operation.access.covers location = false := by
      intro operation hmem
      refine eq_false_of_ne_true fun hcovers => ?_
      rw [at?_after_of_asked hnamed hmem hcovers] at h
      cases h
    exact ⟨(at?_after_of_not_asked hasked).symm.trans h, hasked⟩
  · rintro ⟨hgiven, hasked⟩
    exact (at?_after_of_not_asked hasked).trans hgiven

/-- What a run leaves is what it was given and did not ask for. -/
theorem unused_iff (hnamed : args.named.Sorted) {location : Location} :
    Unused args operations location ↔ ((after operations args).at? location).isSome := by
  simp only [Option.isSome_iff_exists, at?_after_eq_some_iff hnamed]
  constructor
  · rintro ⟨hgiven, hasked⟩
    obtain ⟨argument, hargument⟩ := Option.isSome_iff_exists.1 hgiven
    exact ⟨argument, hargument, hasked⟩
  · rintro ⟨argument, hargument, hasked⟩
    exact ⟨by simp [hargument], hasked⟩

theorem castTo_after : (after operations args).castTo =
    if .takeCastTo ∈ operations then none else args.castTo := by
  have hmem : Access.castTo ∈ operations.map Operation.access ↔ .takeCastTo ∈ operations := by
    simp [Operation.access_eq_castTo_iff]
  rw [after_eq_clearAll, castTo_clearAll]
  simp only [hmem]

theorem typeName_after : (after operations args).typeName = args.typeName := by
  rw [after_eq_clearAll, typeName_clearAll]

/-- One more operation of a run leaves what its request does. -/
theorem after_take_succ {i : Nat} {operation : Operation} (h : operations[i]? = some operation) :
    after (operations.take (i + 1)) args =
      operation.access.clear (after (operations.take i) args) := by
  rw [List.take_add_one, h]
  simp only [after, List.foldl_append]
  exact operation.asks_perform.leaves _

/-- What an operation is handed is gone for all later ones. -/
theorem Handed.lt_irrefl (hnamed : args.named.Sorted) {i j : Nat} {location : Location}
    {argument argument' : Argument} (h : Handed args operations i location argument)
    (h' : Handed args operations j location argument') : ¬ i < j := by
  intro hlt
  obtain ⟨operation, hoperation, hcovers⟩ := h.asked
  have hmem : operation ∈ operations.take j := by
    refine List.mem_of_getElem? (i := i) ?_
    rw [List.getElem?_take_of_lt hlt]
    exact hoperation
  have hfound := h'.found
  rw [at?_after_of_asked hnamed hmem hcovers] at hfound
  cases hfound

/-- A run of operations loses no argument and gives none twice. -/
structure Conserved (args : Arguments) (operations : List Operation) : Prop where
  /-- An argument is handed to one operation at most. -/
  handed_once : ∀ i j location argument argument', Handed args operations i location argument →
    Handed args operations j location argument' → i = j
  /-- What is handed to an operation is what was given at first. -/
  handed_given : ∀ i location argument, Handed args operations i location argument →
    args.at? location = some argument
  /-- The answer of an operation follows from what it asks for. -/
  answer : ∀ i operation, operations[i]? = some operation → ∀ other : Arguments,
    other.typeName = args.typeName →
    (∀ location, operation.access.covers location = true →
      other.at? location = (after (operations.take i) args).at? location) →
    (operation = .takeCastTo → other.castTo = (after (operations.take i) args).castTo) →
    (operation.perform.runOn other).1 =
      (operation.perform.runOn (after (operations.take i) args)).1
  /-- Every operation leaves what it does not ask for. -/
  frame : ∀ i operation, operations[i]? = some operation → ∀ location,
    operation.access.covers location = false →
    (after (operations.take (i + 1)) args).at? location =
      (after (operations.take i) args).at? location
  /-- The end succeeds if and only if everything is used, and gives the cast if it was not taken. -/
  finish_ok : ∀ change, (after operations args).finish = .ok change ↔
    (∀ location, ¬ Unused args operations location) ∧
      change = if .takeCastTo ∈ operations then none else args.castTo
  /-- The end fails if and only if something is unused, and names the first of it. -/
  finish_error : ∀ e, (after operations args).finish = .error e ↔
    ∃ location, Unused args operations location ∧
      (∀ other : Location, other.Before location → ¬ Unused args operations other) ∧
      e = .unexpectedArgument args.typeName location.describe

/-- **Every argument is used at most once, and nothing is lost.** This holds of every run of operations
on the arguments of a node, whichever of them fail. -/
theorem conserved_of_run (args : Arguments) (hnamed : args.named.Sorted)
    (operations : List Operation) : Conserved args operations where
  handed_once i j location argument argument' h h' := by
    -- what an operation is handed is gone for every later one
    rcases Nat.lt_trichotomy i j with hlt | heq | hgt
    · exact (h.lt_irrefl hnamed h' hlt).elim
    · exact heq
    · exact (h'.lt_irrefl hnamed h hgt).elim
  handed_given i location argument h := ((at?_after_eq_some_iff hnamed).1 h.found).1
  answer i operation _ other htype hlocations hcast := by
    have htypes : other.typeName = (after (operations.take i) args).typeName :=
      htype.trans typeName_after.symm
    refine operation.asks_perform.answers _ _ htypes (same_of_at? htypes ?_ hlocations)
    exact fun hcastTo => hcast (Operation.access_eq_castTo_iff.1 hcastTo)
  frame i operation hoperation location hcovers := by
    rw [after_take_succ hoperation]
    exact at?_clear_of_not_covers hcovers
  finish_ok change := by
    rw [finish_eq_ok_iff, castTo_after]
    refine and_congr_left fun _ => forall_congr' fun location => ?_
    rw [unused_iff hnamed, Option.not_isSome_iff_eq_none]
  finish_error e := by
    have hsorted : (after operations args).named.Sorted := by
      rw [after_eq_clearAll]
      exact sorted_clearAll hnamed _
    rw [finish_eq_error_iff hsorted, typeName_after]
    refine exists_congr fun location => ?_
    constructor
    · rintro ⟨⟨hleft, hfirst⟩, he⟩
      refine ⟨(unused_iff hnamed).2 hleft, fun other hother hunused => ?_, he⟩
      have hsome := (unused_iff hnamed).1 hunused
      simp [hfirst other hother] at hsome
    · rintro ⟨hunused, hfirst, he⟩
      refine ⟨⟨(unused_iff hnamed).1 hunused, fun other hother => ?_⟩, he⟩
      have hnot := hfirst other hother
      rwa [unused_iff hnamed, Option.not_isSome_iff_eq_none] at hnot

/-- A file whose path is given twice, with an encoding behind the first. -/
def pathTwice : Arguments :=
  .ofNode "FileSource" [.value (.string "a.json"), .value (.string "latin-1")]
    [("path", .value (.string "b.json"))] none

/-- Asking for the path fails and uses it up at both its locations, so the encoding is left over. -/
theorem conserved_pathTwice : pathTwice.named.Sorted ∧
    ((Taking.requireText (some 0) "path").runOn pathTwice).1 =
      .error (.duplicateArgument "FileSource" "path") ∧
    (after [.requireText (some 0) "path"] pathTwice).finish =
      .error (.unexpectedArgument "FileSource" "args[1]") := by
  have hsorted : pathTwice.named.Sorted := List.pairwise_singleton _ _
  have hrun := conserved_of_run pathTwice hsorted [.requireText (some 0) "path"]
  refine ⟨hsorted, rfl, (hrun.finish_error _).2 ⟨.place 1, ⟨rfl, ?_⟩, ?_, rfl⟩⟩
  · intro operation hmem
    cases List.mem_singleton.1 hmem
    rfl
  · intro other hother hunused
    cases other with
    | place i =>
      obtain rfl : i = 0 := Nat.lt_one_iff.1 hother
      cases hunused.notAsked _ (List.mem_singleton_self _)
    | name n => exact hother

end Arguments

end LayeredConfig
