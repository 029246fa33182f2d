import LayeredConfig.Proofs.Source.Outcomes

/-!
# The casts of a source, and those that fail

A source carries casts (`Source.casts`). Resolving it applies some of them, and the failures of those
are what an error has to say about casts: `castFailures` lists them with the casts that they come from,
and `castFailures_error` proves the list complete and in order. A failure that is the fault of a literal
(`Cast.LiteralFault`) comes from a cast that fails on every value.
-/

namespace LayeredConfig

/-! ## Literals without bytes -/

namespace Cast

/-- The cast fails because its encoding has no bytes for its literal. A function passes on the failure
of the cast before it. -/
inductive LiteralFault : Cast → CastError → Prop where
  | encode {s : String} {encoding : Encoding} {c : Char} (h : encoding.encode s = .error c) :
      LiteralFault (.encode (some s) encoding) (.unencodable encoding c)
  | before {module member : String} {f : Function} {c : Cast} {e : CastError} :
      LiteralFault c e → LiteralFault (.call module member f (some c)) e

/-- The literal that the cast starts from, if there is one, has bytes. -/
def Encodes : Cast → Prop
  | encode (some s) encoding => ∃ bytes, encoding.encode s = .ok bytes
  | call _ _ _ (some before) => before.Encodes
  | _ => True

/-- A cast whose literal is at fault fails on every value. -/
theorem LiteralFault.apply {c : Cast} {e : CastError} (h : c.LiteralFault e) (v : Value) :
    c.apply v = .error e := by
  induction h with
  | encode h => simp [Cast.apply, encodeText, h]
  | before _ ih => simp [Cast.apply, ih]

theorem LiteralFault.not_encodes {c : Cast} {e : CastError} (h : c.LiteralFault e) :
    ¬ c.Encodes := by
  induction h with
  | encode h =>
    rintro ⟨bytes, hbytes⟩
    cases h.symm.trans hbytes
  | before _ ih => exact ih

/-- A cast whose literal has no bytes is at fault for it. -/
theorem exists_literalFault : ∀ {c : Cast}, ¬ c.Encodes → ∃ e, c.LiteralFault e
  | encode (some s) encoding, h => by
    cases hs : encoding.encode s with
    | ok bytes => exact (h ⟨bytes, hs⟩).elim
    | error c => exact ⟨_, .encode hs⟩
  | call _ _ _ (some before), h => by
    obtain ⟨e, he⟩ := exists_literalFault (c := before) h
    exact ⟨e, .before he⟩
  | expression _, h | encode none _, h | call _ _ _ none, h => (h trivial).elim

/-- A failing cast is at fault for its literal if and only if the literal has no bytes. -/
theorem literalFault_iff_not_encodes {c : Cast} {v : Value} {e : CastError}
    (h : c.apply v = .error e) : c.LiteralFault e ↔ ¬ c.Encodes := by
  refine ⟨LiteralFault.not_encodes, fun hnot => ?_⟩
  obtain ⟨e', he'⟩ := exists_literalFault hnot
  cases h.symm.trans (he'.apply v)
  exact he'

end Cast

/-! ## What an error says about casts -/

namespace ResolveError

mutual

/-- The cast failures in an error and in the causes below it, in order. -/
def castCauses : ResolveError → List CastError
  | cast cause => [cause]
  | allFailed causes => castCausesAll causes
  | missingVariable _ | nonUnicodeVariable _ | fileNotFound _ | unreadableFile _ | undecodable _ _
  | unparsable _ _ _ | unrecognized _ | unparsableText _ | directoryNotFound _
  | unreadableDirectory _ _ | notAMapping _ => []

/-- The cast failures in some errors, in order. -/
def castCausesAll : List ResolveError → List CastError
  | [] => []
  | e :: es => e.castCauses ++ castCausesAll es

end

/-- The causes in a list of errors are those in each. -/
theorem castCausesAll_eq_flatMap (es : List ResolveError) :
    castCausesAll es = es.flatMap castCauses := by
  induction es with
  | nil => rfl
  | cons e es ih => simp [castCausesAll, ih]

end ResolveError

/-- The cast failures in an outcome. -/
def Outcome.castCauses : Outcome → List CastError
  | .ok _ => []
  | .error e => e.castCauses

namespace Outcome

@[simp] theorem castCauses_ok (v : Value) : castCauses (.ok v) = [] := rfl

@[simp] theorem castCauses_error (e : ResolveError) : castCauses (.error e) = e.castCauses := rfl

end Outcome

namespace Source

open Outcome

/-- When every alternative fails, the error holds what each of them says. -/
theorem castCauses_of_firstOutcome {outcomes : List Outcome} {e : ResolveError}
    (h : firstOutcome outcomes = .error e) : e.castCauses = outcomes.flatMap castCauses := by
  obtain ⟨causes, rfl, rfl⟩ := firstOutcome_eq_error_iff.1 h
  rw [ResolveError.castCauses, ResolveError.castCausesAll_eq_flatMap, List.flatMap_map]
  rfl

/-- Files fail for reasons of their own, not for casts. -/
theorem castCauses_resolveFile (w : World) (encoding : Encoding) (formats : FormatSet)
    (path : String) : castCauses (resolveFile w encoding formats path) = [] := by
  simp only [resolveFile, readFile, parseFile]
  repeat' split
  all_goals grind [castCauses, ResolveError.castCauses]

/-- No failure of a directory has a cast as its cause. -/
theorem castCauses_resolveDirectory (w : World) (encoding : Encoding) (formats : FormatSet)
    (deep : Bool) (onFail : OnFail) (path : String) :
    castCauses (resolveDirectory w encoding formats deep onFail path) = [] := by
  unfold resolveDirectory
  split
  · rfl
  · rfl
  · next files _ =>
    cases h : mergeFilesOnto w encoding formats onFail .empty files with
    | ok v => rfl
    | error e =>
      -- the error is that of one of the files
      obtain ⟨file, -, hfile⟩ := exists_of_mergeFilesOnto_eq_error h
      rw [← castCauses_resolveFile w encoding formats file, hfile]

theorem castCauses_resolveText (format : Format) (content : String) :
    castCauses (resolveText format content) = [] := by
  unfold resolveText
  split <;> rfl

/-! ## The casts that fail -/

/-- A cast with the error that it fails with. -/
structure CastFailure where
  cast : Cast
  error : CastError

/-- The schema alone decides the failure: it lies in the name of a function or in a literal. -/
def CastFailure.SchemaFault (failure : CastFailure) : Prop :=
  (∃ module member, failure.error = .unknownFunction module member) ∨
    failure.cast.LiteralFault failure.error

/-- The failure of a cast on a value, if it fails. -/
def failureOf (change : Cast) (v : Value) : List CastFailure :=
  match change.apply v with
  | .ok _ => []
  | .error e => [⟨change, e⟩]

/-- The failure of the cast of an environment variable. -/
def variableFailures (w : World) (change : Option Cast) (name : String) : List CastFailure :=
  match w.readVariable name, change with
  | .text s, some change => failureOf change (.string s)
  | _, _ => []

/-- The failure of the cast of the first environment variable that fails. -/
def variablesFailures (w : World) (change : Option Cast) : List String → List CastFailure
  | [] => []
  | name :: names => match resolveVariable w change name with
    | .ok _ => variablesFailures w change names
    | .error _ => variableFailures w change name

mutual

/-- The casts whose failures are in the error of a source, in order. -/
def castFailures (w : World) : Source → List CastFailure
  | environment name _ _ change => variableFailures w change name
  | environmentMap names change => variablesFailures w change names
  | alternatives sources => match firstOutcome (resolveAll w sources) with
    | .ok _ => []
    | .error _ => allCastFailures w sources
  | merging sources .raise => firstCastFailures w sources
  | nested _ source => castFailures w source
  | cast source change => match source.resolve w with
    | .ok v => failureOf change v
    | .error _ => castFailures w source
  | merging _ .silent | optional _ _ | static _ | file _ _ _ | directory _ _ _ _ _ | text _ _ => []

/-- The casts whose failures are in the errors of some sources, in order. -/
def allCastFailures (w : World) : List Source → List CastFailure
  | [] => []
  | source :: sources => castFailures w source ++ allCastFailures w sources

/-- The casts whose failures are in the error of the first source that fails. -/
def firstCastFailures (w : World) : List Source → List CastFailure
  | [] => []
  | source :: sources => match source.resolve w with
    | .ok _ => firstCastFailures w sources
    | .error _ => castFailures w source

end

/-! Each list of failures is checked against the outcome that it is about. -/

/-- A cast fails on a value with the error that it gives. -/
theorem failureOf_error (change : Cast) (v : Value) :
    (failureOf change v).map (·.error) = match change.apply v with
      | .ok _ => []
      | .error e => [e] := by
  unfold failureOf
  split <;> rfl

/-- The cast of a variable fails as the variable does. -/
theorem variableFailures_error (w : World) (change : Option Cast) (name : String) :
    (variableFailures w change name).map (·.error) = castCauses (resolveVariable w change name) := by
  unfold variableFailures resolveVariable castText
  cases w.readVariable name with
  | unset | notText => rfl
  | text s =>
    cases change with
    | none => rfl
    | some change =>
      simp only [failureOf_error]
      cases change.apply (.string s) <;> rfl

/-- The default steps in only where the variable is not set, and then no cast is applied. -/
theorem variableFailures_error_or (w : World) (default : Option Value) (change : Option Cast)
    (name : String) : (variableFailures w change name).map (·.error) =
      castCauses (resolveVariableOr w default change name) := by
  unfold resolveVariableOr
  split
  · next v hunset => simp [variableFailures, hunset]
  · exact variableFailures_error w change name

/-- The cast of several variables fails as the first of them that it fails on. -/
theorem variablesFailures_error (w : World) (change : Option Cast) (entries : Entries Value)
    (names : List String) :
    (variablesFailures w change names).map (·.error) =
      castCauses (addVariables w change entries names) := by
  induction names generalizing entries with
  | nil => rfl
  | cons name names ih =>
    have hname := variableFailures_error w change name
    simp only [variablesFailures, addVariables]
    cases hread : resolveVariable w change name with
    | ok v => exact ih _
    | error e => simpa [hread] using hname

mutual

/-- The failures listed for a source are what its error says about casts. -/
theorem castFailures_error (w : World) : ∀ source : Source,
    (source.castFailures w).map (·.error) = castCauses (source.resolve w)
  | environment name key default change => by
    simp only [castFailures, resolve, variableFailures_error_or w default]
    cases resolveVariableOr w default change name <;> rfl
  | environmentMap names change => variablesFailures_error w change [] names
  | alternatives sources => by
    simp only [castFailures, resolve]
    cases h : firstOutcome (resolveAll w sources) with
    | ok v => rfl
    | error e =>
      simpa [allCastFailures_error w sources] using (castCauses_of_firstOutcome h).symm
  | merging sources .raise => firstCastFailures_error w .empty sources
  | merging sources .silent => by
    -- a silent merge has a value, whatever fails in it
    obtain ⟨v, hv⟩ := mergeOutcomesOnto_silent .empty (resolveAll w sources)
    simp [castFailures, resolve, mergeOutcomes, hv]
  | nested key source => by
    simp only [castFailures, resolve, castFailures_error w source]
    cases source.resolve w <;> rfl
  | cast source change => by
    have hsource := castFailures_error w source
    simp only [castFailures, resolve]
    cases h : source.resolve w with
    | error e => simpa [h] using hsource
    | ok v =>
      simp only [failureOf_error]
      cases change.apply v <;> rfl
  | optional source default => by
    simp only [castFailures, resolve]
    cases source.resolve w <;> rfl
  | static v => rfl
  | file path encoding formats => (castCauses_resolveFile w encoding formats path).symm
  | directory path encoding formats deep onFail =>
    (castCauses_resolveDirectory w encoding formats deep onFail path).symm
  | text content format => (castCauses_resolveText format content).symm

/-- The failures of all sources, for the case that none of them has a value. -/
theorem allCastFailures_error (w : World) : ∀ sources : List Source,
    (allCastFailures w sources).map (·.error) = (resolveAll w sources).flatMap castCauses
  | [] => rfl
  | source :: sources => by
    simp [allCastFailures, resolveAll, castFailures_error w source, allCastFailures_error w sources]

/-- The failures of the first source that fails, whatever was merged before it. -/
theorem firstCastFailures_error (w : World) (merged : Value) : ∀ sources : List Source,
    (firstCastFailures w sources).map (·.error) =
      castCauses (mergeOutcomesOnto .raise merged (resolveAll w sources))
  | [] => rfl
  | source :: sources => by
    have hsource := castFailures_error w source
    simp only [firstCastFailures, resolveAll]
    -- a value only changes what the later outcomes are merged onto
    cases h : source.resolve w with
    | ok v => exact firstCastFailures_error w _ sources
    | error e => simpa [h, mergeOutcomesOnto] using hsource

end

/-! ## The casts that a source carries -/

mutual

/-- The casts of a source and of the sources in it. -/
def casts : Source → List Cast
  | environment _ _ _ change => change.toList
  | environmentMap _ change => change.toList
  | alternatives sources => castsAll sources
  | optional source _ => casts source
  | merging sources _ => castsAll sources
  | nested _ source => casts source
  | cast source change => change :: casts source
  | static _ | file _ _ _ | directory _ _ _ _ _ | text _ _ => []

/-- The casts of some sources. -/
def castsAll : List Source → List Cast
  | [] => []
  | source :: sources => casts source ++ castsAll sources

end

theorem castsAll_eq_flatMap (sources : List Source) : castsAll sources = sources.flatMap casts := by
  induction sources with
  | nil => rfl
  | cons source sources ih => simp [castsAll, ih]

/-- The failure is that of one of some casts on a value. -/
def CastFailure.Among (changes : List Cast) (failure : CastFailure) : Prop :=
  failure.cast ∈ changes ∧ ∃ v, failure.cast.apply v = .error failure.error

/-- A failure of one of some casts is one of more casts. -/
theorem CastFailure.Among.mono {changes more : List Cast} {failure : CastFailure}
    (h : failure.Among changes) (hsub : ∀ change ∈ changes, change ∈ more) :
    failure.Among more :=
  ⟨hsub _ h.1, h.2⟩

theorem among_of_mem_failureOf {change : Cast} {v : Value} {failure : CastFailure}
    (h : failure ∈ failureOf change v) : failure.Among [change] := by
  unfold failureOf at h
  split at h
  · cases h
  · next e he =>
    cases List.mem_singleton.1 h
    exact ⟨List.mem_singleton_self _, v, he⟩

theorem among_of_mem_variableFailures {w : World} {change : Option Cast} {name : String}
    {failure : CastFailure} (h : failure ∈ variableFailures w change name) :
    failure.Among change.toList := by
  unfold variableFailures at h
  split at h
  · exact among_of_mem_failureOf h
  · cases h

theorem among_of_mem_variablesFailures {w : World} {change : Option Cast} {names : List String}
    {failure : CastFailure} (h : failure ∈ variablesFailures w change names) :
    failure.Among change.toList := by
  induction names with
  | nil => cases h
  | cons name names ih =>
    simp only [variablesFailures] at h
    split at h
    · exact ih h
    · exact among_of_mem_variableFailures h

mutual

/-- Every failure listed for a source is that of one of its casts on a value. -/
theorem among_of_mem_castFailures {w : World} {failure : CastFailure} :
    ∀ {source : Source}, failure ∈ source.castFailures w → failure.Among source.casts
  | environment _ _ _ _, h => among_of_mem_variableFailures h
  | environmentMap _ _, h => among_of_mem_variablesFailures h
  | alternatives sources, h => by
    simp only [castFailures] at h
    split at h
    · cases h
    · exact among_of_mem_allCastFailures h
  | merging sources .raise, h => among_of_mem_firstCastFailures h
  | nested _ source, h => @among_of_mem_castFailures w failure source h
  | cast source change, h => by
    simp only [castFailures] at h
    split at h
    · exact (among_of_mem_failureOf h).mono (by simp [casts])
    · exact (@among_of_mem_castFailures w failure source h).mono fun _ hmem =>
        List.mem_cons_of_mem _ hmem

/-- What fails in some sources is a cast of one of them. -/
theorem among_of_mem_allCastFailures {w : World} {failure : CastFailure} :
    ∀ {sources : List Source}, failure ∈ allCastFailures w sources →
      failure.Among (castsAll sources)
  | source :: sources, h => by
    rcases List.mem_append.1 h with h | h
    · exact (among_of_mem_castFailures h).mono fun _ hmem => List.mem_append_left _ hmem
    · exact (among_of_mem_allCastFailures h).mono fun _ hmem => List.mem_append_right _ hmem

theorem among_of_mem_firstCastFailures {w : World} {failure : CastFailure} :
    ∀ {sources : List Source}, failure ∈ firstCastFailures w sources →
      failure.Among (castsAll sources)
  | source :: sources, h => by
    simp only [firstCastFailures] at h
    split at h
    · exact (among_of_mem_firstCastFailures h).mono fun _ hmem => List.mem_append_right _ hmem
    · exact (among_of_mem_castFailures h).mono fun _ hmem => List.mem_append_left _ hmem

end

end Source

end LayeredConfig
