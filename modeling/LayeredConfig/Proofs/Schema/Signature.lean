import LayeredConfig.Schema.Loader
import LayeredConfig.Proofs.Schema.Arguments

/-!
# The parameters of the source types

`Signature.ofType?` lists the parameters of every source type of this library. A constructor `Follows` a
signature if it asks for the arguments of the signature, each once, and for nothing else but the cast;
every constructor of this library does (`SourceTable.follows_builtins`). What a schema may give to a
source, and that it does not matter whether by position or by name, is then a matter of the signature
alone: `Loader.given_of_construct` and `Loader.construct_congr`.
-/

namespace LayeredConfig

open Arguments (Location)

variable {α β : Type}

/-- The parameters of a source type. -/
inductive Signature where
  /-- One argument for each parameter, at its place or under its name. -/
  | each (parameters : List String)
  /-- All places and a list under a name for one parameter. The others have only names. -/
  | several (parameter : String) (others : List String)
deriving DecidableEq, Repr

namespace Signature

/-- The names of the parameters. -/
def names : Signature → List String
  | each parameters => parameters
  | several parameter others => parameter :: others

/-- What the parameters ask for. -/
def accesses : Signature → List Access
  | each parameters => parameters.zipIdx.map fun entry => .one (some entry.2) entry.1
  | several parameter others => .rest 0 parameter :: others.map (.one none)

/-- Whether an argument at a location is for one of the parameters. -/
def covers (signature : Signature) (location : Location) : Prop :=
  ∃ access ∈ signature.accesses, access.covers location = true

/-- The parameters of a source type of this library. -/
def ofType? : String → Option Signature
  | "StaticSource" => some (each ["config"])
  | "EnvironmentSource" => some (each ["env_name", "config_name", "default"])
  | "EnvVarsSource" => some (several "names" [])
  | "FileSource" => some (each ["path", "encoding", "formats"])
  | "DirectorySource" =>
    some (each ["path", "encoding", "formats", "scan_subdirectories", "on_fail"])
  | "AlternativeSource" => some (several "sources" [])
  | "OptionalSource" => some (each ["source", "default"])
  | "MergingSource" => some (several "sources" ["on_fail"])
  | "BuildObjectFrom" => some (each ["key", "source"])
  | "JSONSource" => some (each ["text"])
  | "YAMLSource" => some (each ["text"])
  | "TOMLSource" => some (each ["text"])
  | _ => none

/-- No parameter has the name of a member that is none. -/
theorem not_reserved_of_mem_names {typeName : String} {signature : Signature}
    (h : ofType? typeName = some signature) : ∀ name ∈ signature.names, name ∉ Loader.reservedKeys := by
  unfold ofType? at h
  split at h
  all_goals cases h
  all_goals decide

/-- No two parameters have the same name. -/
theorem nodup_names {typeName : String} {signature : Signature}
    (h : ofType? typeName = some signature) : signature.names.Nodup := by
  unfold ofType? at h
  split at h
  all_goals cases h
  all_goals decide

/-- Each parameter is asked for at its place and under its name. -/
theorem mem_accesses_each {parameters : List String} {access : Access} :
    access ∈ (each parameters).accesses ↔
      ∃ i name, parameters[i]? = some name ∧ access = .one (some i) name := by
  simp only [accesses, List.mem_map, Prod.exists, List.mem_zipIdx_iff_getElem?]
  constructor
  · rintro ⟨name, i, hi, rfl⟩
    exact ⟨i, name, hi, rfl⟩
  · rintro ⟨i, name, hi, rfl⟩
    exact ⟨name, i, hi, rfl⟩

/-- One parameter is asked for from the first place on, the others under their names. -/
theorem mem_accesses_several {parameter : String} {others : List String} {access : Access} :
    access ∈ (several parameter others).accesses ↔
      access = .rest 0 parameter ∨ ∃ name ∈ others, access = .one none name := by
  simp [accesses, eq_comm]

/-- The cast is no parameter. -/
theorem castTo_not_mem_accesses (signature : Signature) : .castTo ∉ signature.accesses := by
  cases signature <;> simp [accesses]

/-- A name is for a parameter if and only if it is the name of one. -/
theorem covers_name_iff {signature : Signature} {name : String} :
    signature.covers (.name name) ↔ name ∈ signature.names := by
  cases signature with
  | each parameters =>
    simp only [covers, mem_accesses_each, names]
    constructor
    · rintro ⟨_, ⟨i, other, hi, rfl⟩, hname⟩
      obtain rfl : name = other := Access.covers_one_name.1 hname
      exact List.mem_of_getElem? hi
    · intro hmem
      obtain ⟨i, hi⟩ := List.getElem?_of_mem hmem
      exact ⟨_, ⟨i, name, hi, rfl⟩, Access.covers_one_name.2 rfl⟩
  | several parameter others =>
    simp only [covers, mem_accesses_several, names, List.mem_cons]
    constructor
    · rintro ⟨_, rfl | ⟨other, hmem, rfl⟩, hname⟩
      · exact .inl (Access.covers_rest_name.1 hname)
      · obtain rfl : name = other := Access.covers_one_name.1 hname
        exact .inr hmem
    · rintro (rfl | hmem)
      · exact ⟨_, .inl rfl, Access.covers_rest_name.2 rfl⟩
      · exact ⟨_, .inr ⟨name, hmem, rfl⟩, Access.covers_one_name.2 rfl⟩

/-- A place is for a parameter if there is a parameter for it, or one for all places. -/
theorem covers_place_iff {signature : Signature} {i : Nat} : signature.covers (.place i) ↔
    ∀ parameters, signature = each parameters → i < parameters.length := by
  cases signature with
  | each parameters =>
    simp only [covers, mem_accesses_each, each.injEq, forall_eq']
    constructor
    · rintro ⟨_, ⟨j, name, hj, rfl⟩, hplace⟩
      obtain rfl : j = i := Option.some.inj (Access.covers_one_place.1 hplace)
      exact (List.getElem?_eq_some_iff.1 hj).1
    · intro hi
      exact ⟨_, ⟨i, parameters[i], List.getElem?_eq_getElem hi, rfl⟩, Access.covers_one_place.2 rfl⟩
  | several parameter others => simp [covers, accesses]

end Signature

/-! ## Requests that do not meet -/

namespace Access

variable {args args' : Arguments}

/-- Two requests that have no location in common, nor the cast. -/
def apart : Access → Access → Bool
  | one i m, one j n => (i = none || i ≠ j) && m ≠ n
  | one i m, rest start n => i.all (· < start) && m ≠ n
  | rest start m, one j n => j.all (· < start) && m ≠ n
  | rest _ _, rest _ _ => false
  | castTo, castTo => false
  | _, castTo => true
  | castTo, _ => true

/-- Requests that are apart cover no location together. -/
theorem covers_eq_false_of_apart {a b : Access} (h : a.apart b = true) {location : Location}
    (hb : b.covers location = true) : a.covers location = false := by
  refine eq_false_of_ne_true fun ha => ?_
  cases a with
  | one i m =>
    cases b with
    | one j n => cases location <;> simp_all [apart]
    | rest start n =>
      cases location with
      | place k =>
        have hle : start ≤ k := covers_rest_place.1 hb
        simp only [apart, covers_one_place.1 ha, Option.all_some, Bool.and_eq_true,
          decide_eq_true_eq] at h
        omega
      | name k => simp_all [apart]
    | castTo => cases hb
  | rest start m =>
    cases b with
    | one j n =>
      cases location with
      | place k =>
        have hle : start ≤ k := covers_rest_place.1 ha
        simp only [apart, covers_one_place.1 hb, Option.all_some, Bool.and_eq_true,
          decide_eq_true_eq] at h
        omega
      | name k => simp_all [apart]
    | rest start n => cases h
    | castTo => cases hb
  | castTo => cases ha

theorem Same.symm {access : Access} (h : access.Same args args') : access.Same args' args := by
  cases access <;> exact Eq.symm h

theorem Same.trans {access : Access} {args'' : Arguments} (h : access.Same args args')
    (h' : access.Same args' args'') : access.Same args args'' := by
  cases access <;> exact Eq.trans h h'

/-- What one request asks for is untouched by a request that is apart from it. -/
theorem same_clear {a b : Access} (h : a.apart b = true) (args : Arguments) :
    b.Same (a.clear args) args := by
  refine Arguments.same_of_at? (Arguments.typeName_clear a) (fun hb => ?_) fun location hcovers =>
    Arguments.at?_clear_of_not_covers (covers_eq_false_of_apart h hcovers)
  have ha : a ≠ .castTo := by
    rintro rfl
    rw [hb] at h
    cases h
  rw [Arguments.castTo_clear, if_neg ha]

/-- Taking what is apart from a request leaves what it asks for the same. -/
theorem Same.clear {a b : Access} (h : b.Same args args') (hapart : a.apart b = true) :
    b.Same (a.clear args) (a.clear args') :=
  ((same_clear hapart args).trans h).trans (same_clear hapart args').symm

/-- Taking what is apart from a request does not hide that its argument is given twice. -/
theorem single_of_clear {a b : Access} (hapart : a.apart b = true)
    (h : b.Single (a.clear args)) : b.Single args := by
  cases b with
  | one index name =>
    have hname : (a.clear args).at? (.name name) = args.at? (.name name) :=
      Arguments.at?_clear_of_not_covers (covers_eq_false_of_apart hapart (covers_one_name.2 rfl))
    have hslot : (a.clear args).slot? index = args.slot? index := by
      cases index with
      | none => rfl
      | some i =>
        have hplace : a.covers (.place i) = false :=
          covers_eq_false_of_apart hapart (covers_one_place.2 rfl)
        exact Arguments.at?_clear_of_not_covers hplace
    simp only [Arguments.at?] at hname
    rw [Single, ← hslot, ← hname]
    exact h
  | rest | castTo => trivial

end Access

/-! ## Programs that ask for several things -/

namespace Taking

/-- If the program succeeds, then it has made the requests, each for an argument that is not given
twice. It sees nothing but what it asks for. -/
structure Performs (accesses : List Access) (program : Taking α) : Prop where
  leaves : ∀ args a left, program.runOn args = (.ok a, left) →
    left = Arguments.clearAll accesses args
  single : ∀ args a left, program.runOn args = (.ok a, left) →
    ∀ access ∈ accesses, access.Single args
  answers : ∀ args args' : Arguments, args.typeName = args'.typeName →
    (∀ access ∈ accesses, access.Same args args') →
    (program.runOn args).1 = (program.runOn args').1

/-- A constant asks for nothing. -/
theorem performs_pure (a : α) : Performs [] (pure a : Taking α) where
  leaves args b left h := by
    cases h
    rfl
  single _ _ _ _ access hmem := nomatch hmem
  answers _ _ _ _ := rfl

/-- One request before others that are apart from it. -/
theorem Asks.andThen {access : Access} {accesses : List Access} {first : Taking α}
    {next : α → Taking β} (hfirst : Asks access first)
    (hapart : ∀ other ∈ accesses, access.apart other = true)
    (hnext : ∀ a, Performs accesses (next a)) :
    Performs (access :: accesses) (first >>= next) where
  leaves args b left hrun := by
    have hleaves := hfirst.leaves args
    rw [runOn_bind] at hrun
    cases hfirstRun : first.runOn args with
    | mk result rest =>
      rw [hfirstRun] at hrun hleaves
      cases result with
      | ok a =>
        rw [(hnext a).leaves rest b left hrun]
        exact congrArg (Arguments.clearAll accesses) hleaves
      | error e => cases hrun
  single args b left hrun := by
    have hleaves := hfirst.leaves args
    rw [runOn_bind] at hrun
    cases hfirstRun : first.runOn args with
    | mk result rest =>
      rw [hfirstRun] at hrun hleaves
      cases result with
      | ok a =>
        intro other hmem
        rcases List.mem_cons.1 hmem with rfl | hmem
        · exact hfirst.single args a (congrArg Prod.fst hfirstRun)
        · have hother := (hnext a).single rest b left hrun other hmem
          rw [show rest = access.clear args from hleaves] at hother
          exact Access.single_of_clear (hapart other hmem) hother
      | error e => cases hrun
  answers args args' htype hsame := by
    -- both runs of the first request end alike, and what they leave is the same to requests that are apart
    have hanswers := hfirst.answers args args' htype (hsame access List.mem_cons_self)
    have hrest := hfirst.leaves args
    have hrest' := hfirst.leaves args'
    rw [runOn_bind, runOn_bind]
    cases hrun : first.runOn args with
    | mk result rest =>
      cases hrun' : first.runOn args' with
      | mk result' rest' =>
        simp only [hrun, hrun'] at hanswers hrest hrest'
        subst hanswers hrest hrest'
        cases result with
        | ok a =>
          refine (hnext a).answers _ _ (by simpa using htype) fun other hmem => ?_
          exact (hsame other (List.mem_cons_of_mem _ hmem)).clear (hapart other hmem)
        | error e => rfl

end Taking

/-! ## Constructors -/

namespace Constructor

open Taking

theorem asks_encoding (index : Option Nat) : Asks (.one index "encoding") (encoding index) := by
  refine (asks_takeAs _ _ index "encoding").bind fun found => ?_
  cases found with
  | none => exact quiet_pure _
  | some name =>
    cases h : Encoding.ofName? name with
    | none => simpa [h] using quiet_throw (.unknownEncoding name)
    | some e => simpa [h] using quiet_pure e

/-- The formats are one argument, whether it is one text or a list. -/
theorem asks_formats (index : Option Nat) : Asks (.one index "formats") (formats index) := by
  refine (asks_takeAs _ _ index "formats").bind fun found => ?_
  cases found with
  | none => exact quiet_pure _
  | some v =>
    cases h : formatNames? v with
    | none => simpa [h] using quiet_failInvalid "formats" .formatNames
    | some names => simpa [h] using quiet_pure (FormatSet.ofList names)

theorem asks_onFail (index : Option Nat) : Asks (.one index "on_fail") (onFail index) := by
  refine (asks_takeAs _ _ index "on_fail").bind fun found => ?_
  cases found with
  | none => exact quiet_pure _
  | some name =>
    cases h : OnFail.ofName? name with
    | none => simpa [h] using quiet_failInvalid "on_fail" .policy
    | some policy => simpa [h] using quiet_pure policy

/-- The constructor asks for what the signature says, perhaps for the cast, and for nothing else. -/
def Follows (constructor : Constructor) (signature : Signature) : Prop :=
  ∃ accesses, Performs accesses constructor ∧
    ∀ access, access ≠ .castTo → (access ∈ accesses ↔ access ∈ signature.accesses)

/-- A signature may list the requests in another order. -/
theorem follows_of_perm {constructor : Constructor} {signature : Signature} {accesses : List Access}
    (h : Performs accesses constructor)
    (hperm : (accesses.filter (· ≠ .castTo)).Perm signature.accesses) :
    constructor.Follows signature := by
  refine ⟨accesses, h, fun access hcast => ?_⟩
  rw [← hperm.mem_iff, List.mem_filter]
  simp [hcast]

theorem performs_static : Performs [.one (some 0) "config"] static :=
  (asks_needed (asks_takeAs _ _ _ _)).andThen (by decide) fun _ => performs_pure _

/-- A variable asks for its name, its key, its default and the cast. -/
theorem performs_environment :
    Performs [.one (some 0) "env_name", .one (some 1) "config_name", .one (some 2) "default", .castTo]
      environment :=
  (asks_needed (asks_takeAs _ _ _ _)).andThen (by decide) fun _ =>
  (asks_takeAs _ _ _ _).andThen (by decide) fun _ =>
  (asks_takeAs _ _ _ _).andThen (by decide) fun _ =>
  asks_takeCastTo.andThen (by decide) fun _ => performs_pure _

theorem performs_environmentMap : Performs [.rest 0 "names", .castTo] environmentMap :=
  (asks_texts _ _).andThen (by decide) fun _ =>
  asks_takeCastTo.andThen (by decide) fun _ => performs_pure _

theorem performs_file :
    Performs [.one (some 0) "path", .one (some 1) "encoding", .one (some 2) "formats"] file :=
  (asks_needed (asks_takeAs _ _ _ _)).andThen (by decide) fun _ =>
  (asks_encoding _).andThen (by decide) fun _ =>
  (asks_formats _).andThen (by decide) fun _ => performs_pure _

/-- A directory asks for what a file does and how it is walked; the last place is asked for before the one
ahead of it. -/
theorem performs_directory :
    Performs [.one (some 0) "path", .one (some 1) "encoding", .one (some 2) "formats",
      .one (some 4) "on_fail", .one (some 3) "scan_subdirectories"] directory :=
  (asks_needed (asks_takeAs _ _ _ _)).andThen (by decide) fun _ =>
  (asks_encoding _).andThen (by decide) fun _ =>
  (asks_formats _).andThen (by decide) fun _ =>
  (asks_onFail _).andThen (by decide) fun _ =>
  (asks_takeAs _ _ _ _).andThen (by decide) fun _ => performs_pure _

theorem performs_alternatives : Performs [.rest 0 "sources"] alternatives :=
  (asks_sources _ _).andThen (by decide) fun _ => performs_pure _

theorem performs_optional :
    Performs [.one (some 0) "source", .one (some 1) "default"] Constructor.optional :=
  (asks_needed (asks_takeAs _ _ _ _)).andThen (by decide) fun _ =>
  (asks_takeAs _ _ _ _).andThen (by decide) fun _ => performs_pure _

/-- A merge asks for what to do after a failure first, by name only, and then for its sources. -/
theorem performs_merging : Performs [.one none "on_fail", .rest 0 "sources"] merging :=
  (asks_onFail _).andThen (by decide) fun _ =>
  (asks_sources _ _).andThen (by decide) fun _ => performs_pure _

theorem performs_nested : Performs [.one (some 0) "key", .one (some 1) "source"] nested :=
  (asks_needed (asks_takeAs _ _ _ _)).andThen (by decide) fun _ =>
  (asks_needed (asks_takeAs _ _ _ _)).andThen (by decide) fun _ => performs_pure _

theorem performs_inFormat (format : Format) : Performs [.one (some 0) "text"] (inFormat format) :=
  (asks_needed (asks_takeAs _ _ _ _)).andThen (by decide) fun _ => performs_pure _

end Constructor

/-- Every source type of this library has a signature, which its constructor follows. -/
theorem SourceTable.follows_builtins {name : String} {constructor : Constructor}
    (hfound : builtins.find? name = some constructor) :
    ∃ signature, Signature.ofType? name = some signature ∧ constructor.Follows signature := by
  -- the constructor is one of the twelve of the table
  have hmem := Entries.mem_of_mem_ofList (Entries.mem_of_get? hfound)
  simp only [List.mem_cons, Prod.mk.injEq, List.not_mem_nil, or_false] at hmem
  rcases hmem with ⟨rfl, rfl⟩ | ⟨rfl, rfl⟩ | ⟨rfl, rfl⟩ | ⟨rfl, rfl⟩ | ⟨rfl, rfl⟩ | ⟨rfl, rfl⟩ |
    ⟨rfl, rfl⟩ | ⟨rfl, rfl⟩ | ⟨rfl, rfl⟩ | ⟨rfl, rfl⟩ | ⟨rfl, rfl⟩ | ⟨rfl, rfl⟩
  · exact ⟨_, rfl, Constructor.follows_of_perm Constructor.performs_static (by decide)⟩
  · exact ⟨_, rfl, Constructor.follows_of_perm Constructor.performs_environment (by decide)⟩
  · exact ⟨_, rfl, Constructor.follows_of_perm Constructor.performs_environmentMap (by decide)⟩
  · exact ⟨_, rfl, Constructor.follows_of_perm Constructor.performs_file (by decide)⟩
  · exact ⟨_, rfl, Constructor.follows_of_perm Constructor.performs_directory (by decide)⟩
  · exact ⟨_, rfl, Constructor.follows_of_perm Constructor.performs_alternatives (by decide)⟩
  · exact ⟨_, rfl, Constructor.follows_of_perm Constructor.performs_optional (by decide)⟩
  · exact ⟨_, rfl, Constructor.follows_of_perm Constructor.performs_merging (by decide)⟩
  · exact ⟨_, rfl, Constructor.follows_of_perm Constructor.performs_nested (by decide)⟩
  · exact ⟨_, rfl, Constructor.follows_of_perm (Constructor.performs_inFormat .json) (by decide)⟩
  · exact ⟨_, rfl, Constructor.follows_of_perm (Constructor.performs_inFormat .yaml) (by decide)⟩
  · exact ⟨_, rfl, Constructor.follows_of_perm (Constructor.performs_inFormat .toml) (by decide)⟩

/-! ## Building a source -/

namespace Arguments

/-- `finish` sees only what is left at the locations, and the cast. -/
theorem finish_congr {args args' : Arguments} (hnamed : args.named.Sorted)
    (hnamed' : args'.named.Sorted) (htype : args.typeName = args'.typeName)
    (hcast : args.castTo = args'.castTo)
    (h : ∀ location, args.at? location = args'.at? location) : args.finish = args'.finish := by
  cases hfinish : args'.finish with
  | ok change =>
    obtain ⟨hnone, hchange⟩ := finish_eq_ok_iff.1 hfinish
    exact finish_eq_ok_iff.2 ⟨fun location => (h location).trans (hnone location),
      hchange.trans hcast.symm⟩
  | error e =>
    obtain ⟨location, hfirst, he⟩ := (finish_eq_error_iff hnamed').1 hfinish
    refine (finish_eq_error_iff hnamed).2 ⟨location, ⟨?_, fun other hother => ?_⟩, ?_⟩
    · rw [h]
      exact hfirst.left
    · rw [h]
      exact hfirst.first other hother
    · rw [he, htype]

end Arguments

namespace Loader

variable {constructor : Constructor} {signature : Signature} {args args' : Arguments}

/-- A constructor that follows a signature builds a source only of arguments for its parameters, none of
which is given twice. -/
theorem given_of_construct (hfollows : constructor.Follows signature) {source : Source}
    (h : construct constructor args = .ok source) :
    (∀ location, (args.at? location).isSome → signature.covers location) ∧
      ∀ access ∈ signature.accesses, access.Single args := by
  obtain ⟨accesses, hperforms, hmem⟩ := hfollows
  unfold construct at h
  split at h
  · cases h
  · next inner rest hrun =>
    have hsingle : ∀ access ∈ signature.accesses, access.Single args := by
      intro access haccess
      have hcast : access ≠ .castTo := by
        rintro rfl
        exact signature.castTo_not_mem_accesses haccess
      exact hperforms.single args inner rest hrun access ((hmem access hcast).2 haccess)
    refine ⟨fun location hsome => ?_, hsingle⟩
    -- nothing is left, so what was given was asked for
    have hnone : rest.at? location = none := by
      split at h
      · cases h
      · next hfinish => exact (Arguments.finish_eq_ok_iff.1 hfinish).1 location
      · next hfinish => exact (Arguments.finish_eq_ok_iff.1 hfinish).1 location
    refine Classical.byContradiction fun hnot => ?_
    have hkept : rest.at? location = args.at? location := by
      rw [hperforms.leaves args inner rest hrun]
      refine Arguments.at?_clearAll_of_not_covers fun access haccess => ?_
      by_cases hcast : access = .castTo
      · rw [hcast]
        rfl
      · refine eq_false_of_ne_true fun hcovers => hnot ⟨access, ?_, hcovers⟩
        exact (hmem access hcast).1 haccess
    rw [← hkept, hnone] at hsome
    cases hsome

/-- A constructor that follows a signature does not tell arguments apart that are the same for every
parameter and equal elsewhere. -/
theorem construct_congr (hfollows : constructor.Follows signature) (hnamed : args.named.Sorted)
    (hnamed' : args'.named.Sorted) (htype : args.typeName = args'.typeName)
    (hcast : args.castTo = args'.castTo)
    (hsame : ∀ access ∈ signature.accesses, access.Same args args')
    (helse : ∀ location, ¬ signature.covers location → args.at? location = args'.at? location) :
    construct constructor args = construct constructor args' := by
  obtain ⟨accesses, hperforms, hmem⟩ := hfollows
  have hall : ∀ access ∈ accesses, access.Same args args' := by
    intro access haccess
    by_cases hcastTo : access = .castTo
    · rw [hcastTo]
      exact hcast
    · exact hsame access ((hmem access hcastTo).1 haccess)
  have hanswers := hperforms.answers args args' htype hall
  unfold construct
  cases hrun : constructor.runOn args with
  | mk result rest =>
    cases hrun' : constructor.runOn args' with
    | mk result' rest' =>
      simp only [hrun, hrun'] at hanswers
      subst hanswers
      cases result with
      | error e => rfl
      | ok source =>
        have hfinish : rest.finish = rest'.finish := by
          rw [hperforms.leaves args source rest hrun, hperforms.leaves args' source rest' hrun']
          refine Arguments.finish_congr (Arguments.sorted_clearAll hnamed _)
            (Arguments.sorted_clearAll hnamed' _) (by simpa using htype) ?_ fun location => ?_
          · rw [Arguments.castTo_clearAll, Arguments.castTo_clearAll, hcast]
          -- a location that is asked for is empty on both sides, and any other holds what it did
          by_cases hcovers : ∃ access ∈ accesses, access.covers location = true
          · obtain ⟨access, haccess, hcovers⟩ := hcovers
            rw [Arguments.at?_clearAll_of_covers hnamed haccess hcovers,
              Arguments.at?_clearAll_of_covers hnamed' haccess hcovers]
          · have hnot : ∀ access ∈ accesses, access.covers location = false :=
              fun access haccess => eq_false_of_ne_true fun h => hcovers ⟨access, haccess, h⟩
            rw [Arguments.at?_clearAll_of_not_covers hnot, Arguments.at?_clearAll_of_not_covers hnot]
            refine helse location fun ⟨access, haccess, h⟩ => hcovers ⟨access, ?_, h⟩
            refine (hmem access ?_).2 haccess
            rintro rfl
            exact signature.castTo_not_mem_accesses haccess
        simp only [hfinish]

end Loader

end LayeredConfig
