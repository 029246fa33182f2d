import LayeredConfig.Proofs.Schema.Reading
import LayeredConfig.Proofs.Source.Casts

/-!
# Sources that never fail

`Source.Safe` says of a source, by its form alone, that every failure below it is absorbed. Such a source
has a value in every world. A schema node that is marked as optional loads as such a source: the default
stands outside the cast of the node (`Loader.loadSource_of_optional`), so a failing cast is absorbed too.
-/

namespace LayeredConfig

namespace Source

/-- The failures below a source are absorbed. -/
inductive Safe : Source → Prop where
  | static (value : Value) : Safe (.static value)
  | optional (source : Source) (default : Value) : Safe (.optional source default)
  | silent (sources : List Source) : Safe (.merging sources .silent)
  | merging {sources : List Source} (h : ∀ source ∈ sources, Safe source) (onFail : OnFail) :
      Safe (.merging sources onFail)
  | alternatives {source : Source} {sources : List Source} (hmem : source ∈ sources) (h : Safe source) :
      Safe (.alternatives sources)
  | nested (key : String) {source : Source} (h : Safe source) : Safe (.nested key source)

/-- A merge of parts that do not fail does not fail. -/
theorem exists_mergeOutcomes_of_forall {outcomes : List Outcome}
    (h : ∀ outcome ∈ outcomes, ∃ v, outcome = .ok v) (onFail : OnFail) :
    ∃ v, mergeOutcomes onFail outcomes = .ok v := by
  cases hmerged : mergeOutcomes onFail outcomes with
  | ok v => exact ⟨v, rfl⟩
  | error e =>
    obtain ⟨v, hv⟩ := h _ (mem_of_mergeOutcomesOnto hmerged)
    cases hv

/-- What is safe has a value. -/
theorem Safe.exists_resolve {source : Source} (h : source.Safe) (w : World) :
    ∃ v, source.resolve w = .ok v := by
  induction h with
  | static value => exact ⟨value, rfl⟩
  | optional source default =>
    cases hsource : source.resolve w with
    | ok v => exact ⟨v, by rw [resolve, hsource]⟩
    | error e => exact ⟨default, by rw [resolve, hsource]⟩
  | silent sources => exact mergeOutcomesOnto_silent .empty (resolveAll w sources)
  | merging _ onFail ih =>
    refine exists_mergeOutcomes_of_forall (fun outcome houtcome => ?_) onFail
    rw [resolveAll_eq_map] at houtcome
    obtain ⟨source, hsource, rfl⟩ := List.mem_map.1 houtcome
    exact ih source hsource
  | @alternatives source sources hmem _ ih =>
    obtain ⟨v, hv⟩ := ih
    have hmem : .ok v ∈ resolveAll w sources := by
      rw [resolveAll_eq_map, ← hv]
      exact List.mem_map_of_mem hmem
    exact exists_firstOutcome_of_mem hmem
  | nested key _ ih =>
    obtain ⟨v, hv⟩ := ih
    exact ⟨.map [(key, v)], by rw [resolve, hv]⟩

end Source

namespace Loader

/-- Leaving out a member and reading the others can be done in either order. -/
theorem readMembers_erase (loader : Loader) (key : String) (members : Entries Json) :
    loader.readMembers (Entries.erase key members) = Entries.erase key (loader.readMembers members) := by
  induction members with
  | nil => rfl
  | cons entry members ih =>
    obtain ⟨k, node⟩ := entry
    simp only [readMembers, Entries.erase]
    split
    · rfl
    · rw [readMembers, ih]

/-- A reserved member is no argument. -/
theorem namedArguments_erase {key : String} (hkey : key ∈ reservedKeys) (readings : Entries Reading) :
    namedArguments (Entries.erase key readings) = namedArguments readings := by
  induction readings with
  | nil => rfl
  | cons entry readings ih =>
    obtain ⟨k, reading⟩ := entry
    simp only [Entries.erase]
    split
    · next heq =>
      subst heq
      simp [namedArguments, hkey]
    · simp only [namedArguments, ih]

/-- The flag of an optional node puts a default around what the node is without it, its cast included. -/
theorem loadSource_of_optional (loader : Loader) {members : Entries Json} (hsorted : members.Sorted)
    (h : Entries.get? "optional" members = some (.bool true)) :
    loader.loadSource (.object members) =
      (loader.loadSource (.object (Entries.erase "optional" members))).map fun source =>
        .optional source .empty := by
  have hother {name : String} (hne : name ≠ "optional") :
      Entries.get? name (Entries.erase "optional" (loader.readMembers members)) =
        Entries.get? name (loader.readMembers members) := Entries.get?_erase_of_ne hne _
  have hflag (typeName : String) : isOptional typeName (loader.readMembers members) = .ok true := by
    simp [isOptional, get?_readMembers, h]
  have hnone (typeName : String) :
      isOptional typeName (Entries.erase "optional" (loader.readMembers members)) = .ok false := by
    rw [isOptional, Entries.get?_erase_self (sorted_readMembers hsorted)]
  have htype : requireType (Entries.erase "optional" (loader.readMembers members)) =
      requireType (loader.readMembers members) := by
    rw [requireType, requireType, typeOf, typeOf, hother (by decide)]
  have hpositional (typeName : String) :
      positionalArguments typeName (Entries.erase "optional" (loader.readMembers members)) =
        positionalArguments typeName (loader.readMembers members) := by
    rw [positionalArguments, positionalArguments, hother (by decide)]
  have hcast : castTo (Entries.erase "optional" (loader.readMembers members)) =
      castTo (loader.readMembers members) := by
    rw [castTo, castTo, hother (by decide)]
  have hnamed := namedArguments_erase (by decide : "optional" ∈ reservedKeys) (loader.readMembers members)
  -- both nodes agree in all that is read after the flag
  simp only [loadSource, read_object, ofMembers, readMembers_erase, sourceOf, htype, hpositional, hcast,
    hnamed, hflag, hnone]
  cases requireType (loader.readMembers members) with
  | error e => rfl
  | ok typeName =>
    dsimp only [bind, Except.bind]
    split
    · rfl
    · split
      · rfl
      · next constructor hfound =>
        cases positionalArguments typeName (loader.readMembers members) with
        | error e => rfl
        | ok positional =>
          cases castTo (loader.readMembers members) with
          | error e => rfl
          | ok change =>
            cases namedArguments (loader.readMembers members) with
            | error e => rfl
            | ok named =>
              dsimp only
              cases construct constructor (.ofNode typeName positional named change) <;> rfl

/-- **Absorbed failures stay absorbed.** A source that is safe by its form has a value in every world. A
node that is marked as optional is what it is without the mark, cast and all, behind a default; so it is
safe. -/
theorem safe_sources_resolve :
    (∀ source : Source, source.Safe → ∀ w, ∃ v, source.resolve w = .ok v) ∧
      ∀ (loader : Loader) (members : Entries Json), members.Sorted →
        Entries.get? "optional" members = some (.bool true) →
        loader.loadSource (.object members) =
            (loader.loadSource (.object (Entries.erase "optional" members))).map
              (fun source => .optional source .empty) ∧
          ∀ source, loader.loadSource (.object members) = .ok source → source.Safe := by
  refine ⟨fun source h w => h.exists_resolve w, fun loader members hsorted hflag => ?_⟩
  have hload := loadSource_of_optional loader hsorted hflag
  refine ⟨hload, fun source hsource => ?_⟩
  rw [hload] at hsource
  cases hinner : loader.loadSource (.object (Entries.erase "optional" members)) with
  | error e =>
    rw [hinner] at hsource
    cases hsource
  | ok inner =>
    rw [hinner] at hsource
    cases hsource
    exact .optional inner .empty

/-- A truth value with a cast to bytes, which only texts have, marked as optional. -/
def flagBytes : Entries Json := [
  ("args", .array [.bool true]),
  ("cast_to", .object [("type", .string "binary")]),
  ("optional", .bool true),
  ("type", .string "StaticSource")]

/-- Its cast fails without the mark. With it, it can stand as the last of some alternatives. -/
theorem safe_sources_resolve_flagBytes :
    flagBytes.Sorted ∧ Entries.get? "optional" flagBytes = some (.bool true) ∧
      ∃ inner, builtins.loadSource (.object (Entries.erase "optional" flagBytes)) = .ok inner ∧
        (∃ e, inner.resolve .empty = .error e) ∧
        ∃ source, builtins.loadSource (.object flagBytes) = .ok source ∧
          ∀ w, ∃ v, (Source.nested "app"
            (.alternatives [.environment "SECRET" "secret" none none, source])).resolve w = .ok v := by
  have hsorted : flagBytes.Sorted := by decide
  have hinner : builtins.loadSource (.object (Entries.erase "optional" flagBytes)) =
      .ok (.cast (.static (.bool true)) (.encode none .ascii)) := rfl
  obtain ⟨hresolve, hoptional⟩ := safe_sources_resolve
  obtain ⟨hload, hsafe⟩ := hoptional builtins flagBytes hsorted rfl
  rw [hinner] at hload
  refine ⟨hsorted, rfl, _, hinner, ⟨_, rfl⟩, _, hload, hresolve _ ?_⟩
  exact .nested "app" (.alternatives (List.mem_cons_of_mem _ List.mem_cons_self) (hsafe _ hload))

end Loader

end LayeredConfig
