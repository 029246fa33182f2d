import LayeredConfig.Provider
import LayeredConfig.Proofs.Source.Outcomes

/-!
# Sources that give maps

A provider needs a map, and complains about the kind of any other value that its source has.
`Source.MapShaped` says of a source, by its form alone, that it has no other values. Formats and files are
only read if there is a map in them; a single key makes a map of any value; merges, alternatives and
defaults keep to maps if their parts do.

No source raises that complaint by itself (`Source.resolve_ne_notAMapping`), so it is one about the value
(`Provider.provide_eq_notAMapping_iff`), and is not to be had from a map-shaped source.
-/

namespace LayeredConfig

namespace Format

/-- A format that reads a mapping gives a map. -/
theorem isMap_of_parseMapping {format : Format} {content : String} {v : Value}
    (h : format.parseMapping content = .ok v) : v.isMap = true := by
  unfold parseMapping at h
  split at h
  · cases h
  · split at h
    · next hmap =>
      cases h
      exact hmap
    · cases h

/-- A whole TOML document is a table. -/
theorem isMap_of_parse_toml {content : String} {v : Value} (h : toml.parse content = some v) :
    v.isMap = true := by
  obtain ⟨entries, -, rfl⟩ := Option.map_eq_some_iff.1 h
  rfl

end Format

namespace Source

variable {w : World} {v : Value} {kind : String}

/-! ## Values of the environment and of files -/

/-- The variables of the environment are put together as a map. -/
theorem isMap_of_addVariables {change : Option Cast} {entries : Entries Value} {names : List String}
    (h : addVariables w change entries names = .ok v) : v.isMap = true := by
  induction names generalizing entries with
  | nil =>
    cases h
    rfl
  | cons name names ih =>
    rw [addVariables] at h
    split at h
    · cases h
    · exact ih h

/-- The format that a file is found to have gives a map. -/
theorem isMap_of_probe {content : String} {formats : List Format} (h : probe content formats = some v) :
    v.isMap = true := by
  induction formats with
  | nil => cases h
  | cons format formats ih =>
    rw [probe] at h
    split at h
    · next hparse =>
      cases h
      exact Format.isMap_of_parseMapping hparse
    · exact ih h

theorem isMap_of_parseFile {path : String} {formats : FormatSet} {content : String}
    (h : parseFile path formats content = .ok v) : v.isMap = true := by
  unfold parseFile at h
  split at h
  · split at h
    · next hparse =>
      cases h
      exact Format.isMap_of_parseMapping hparse
    · cases h
  · split at h
    · next hprobe =>
      cases h
      exact isMap_of_probe hprobe
    · cases h

theorem isMap_of_resolveFile {encoding : Encoding} {formats : FormatSet} {path : String}
    (h : resolveFile w encoding formats path = .ok v) : v.isMap = true := by
  unfold resolveFile at h
  split at h
  · cases h
  · exact isMap_of_parseFile h

/-- A directory source gives a map: the files are merged onto an empty one. -/
theorem isMap_of_resolveDirectory {encoding : Encoding} {formats : FormatSet} {deep : Bool}
    {onFail : OnFail} {path : String} (h : resolveDirectory w encoding formats deep onFail path = .ok v) :
    v.isMap = true := by
  unfold resolveDirectory at h
  split at h
  · cases h
  · cases h
  · rw [mergeFilesOnto_eq] at h
    refine isMap_of_mergeOutcomes (fun u hmem => ?_) h
    obtain ⟨file, -, hfile⟩ := List.mem_map.1 (List.mem_filter.1 hmem).1
    exact isMap_of_resolveFile hfile

/-! ## The form of a source -/

/-- The source has no values but maps. -/
inductive MapShaped : Source → Prop where
  | static {value : Value} (h : value.isMap = true) : MapShaped (.static value)
  | environment (name key : String) (default : Option Value) (change : Option Cast) :
      MapShaped (.environment name key default change)
  | environmentMap (names : List String) (change : Option Cast) :
      MapShaped (.environmentMap names change)
  | file (path : String) (encoding : Encoding) (formats : FormatSet) :
      MapShaped (.file path encoding formats)
  | directory (path : String) (encoding : Encoding) (formats : FormatSet) (deep : Bool)
      (onFail : OnFail) : MapShaped (.directory path encoding formats deep onFail)
  | toml (content : String) : MapShaped (.text content .toml)
  | nested (key : String) (source : Source) : MapShaped (.nested key source)
  | optional {source : Source} (h : MapShaped source) {default : Value}
      (hdefault : default.isMap = true) : MapShaped (.optional source default)
  | alternatives {sources : List Source} (h : ∀ source ∈ sources, MapShaped source) :
      MapShaped (.alternatives sources)
  | merging {sources : List Source} (h : ∀ source ∈ sources, MapShaped source) (onFail : OnFail) :
      MapShaped (.merging sources onFail)

/-- What is map-shaped has only maps as values. -/
theorem MapShaped.isMap {source : Source} (h : source.MapShaped) (hv : source.resolve w = .ok v) :
    v.isMap = true := by
  induction h generalizing v with
  | static hmap =>
    cases hv
    exact hmap
  | environment name key default change =>
    rw [resolve] at hv
    split at hv
    · cases hv
      rfl
    · cases hv
  | environmentMap names change => exact isMap_of_addVariables hv
  | file path encoding formats => exact isMap_of_resolveFile hv
  | directory path encoding formats deep onFail => exact isMap_of_resolveDirectory hv
  | toml content =>
    rw [resolve, resolveText] at hv
    split at hv
    · next hparse =>
      cases hv
      exact Format.isMap_of_parse_toml hparse
    · cases hv
  | nested key source =>
    rw [resolve] at hv
    split at hv
    · cases hv
      rfl
    · cases hv
  | optional _ hdefault ih =>
    rw [resolve] at hv
    split at hv
    · next hsource =>
      cases hv
      exact ih hsource
    · cases hv
      exact hdefault
  | alternatives _ ih =>
    rw [resolve_alternatives] at hv
    obtain ⟨source, hsource, hresolve⟩ := List.mem_map.1 (mem_of_firstOutcome hv)
    exact ih source hsource hresolve
  | merging _ onFail ih =>
    -- what is merged is the outcomes of map-shaped sources, and merging starts from the empty map
    rw [resolve_merging] at hv
    refine isMap_of_mergeOutcomes (fun u hmem => ?_) hv
    obtain ⟨source, hsource, hresolve⟩ := List.mem_map.1 hmem
    exact ih source hsource hresolve

/-! ## What a source fails with -/

/-- A variable is never refused for not being a mapping. -/
theorem resolveVariable_ne_notAMapping (w : World) (change : Option Cast) (name kind : String) :
    resolveVariable w change name ≠ .error (.notAMapping kind) := by
  intro h
  unfold resolveVariable castText at h
  repeat' split at h
  all_goals cases h

theorem resolveVariableOr_ne_notAMapping (w : World) (default : Option Value) (change : Option Cast)
    (name kind : String) : resolveVariableOr w default change name ≠ .error (.notAMapping kind) := by
  intro h
  unfold resolveVariableOr at h
  split at h
  · cases h
  · exact resolveVariable_ne_notAMapping w change name kind h

theorem addVariables_ne_notAMapping (w : World) (change : Option Cast) (entries : Entries Value)
    (names : List String) (kind : String) :
    addVariables w change entries names ≠ .error (.notAMapping kind) := by
  intro h
  induction names generalizing entries with
  | nil => cases h
  | cons name names ih =>
    rw [addVariables] at h
    split at h
    · next e he =>
      cases h
      exact resolveVariable_ne_notAMapping w change name kind he
    · exact ih _ h

/-- A file is never refused with the failure of a provider. -/
theorem resolveFile_ne_notAMapping (w : World) (encoding : Encoding) (formats : FormatSet)
    (path kind : String) : resolveFile w encoding formats path ≠ .error (.notAMapping kind) := by
  simp only [resolveFile, readFile, parseFile]
  repeat' split
  all_goals grind

/-- Nor is a directory, whose failures are those of its files and of listing it. -/
theorem resolveDirectory_ne_notAMapping (w : World) (encoding : Encoding) (formats : FormatSet)
    (deep : Bool) (onFail : OnFail) (path kind : String) :
    resolveDirectory w encoding formats deep onFail path ≠ .error (.notAMapping kind) := by
  intro h
  unfold resolveDirectory at h
  split at h
  · cases h
  · cases h
  · obtain ⟨file, -, hfile⟩ := exists_of_mergeFilesOnto_eq_error h
    exact resolveFile_ne_notAMapping w encoding formats file kind hfile

mutual

/-- No source complains about the kind of a value. -/
theorem resolve_ne_notAMapping (w : World) (kind : String) (source : Source) :
    source.resolve w ≠ .error (.notAMapping kind) := by
  intro h
  match source with
  | static _ => cases h
  | environment name key default change =>
    rw [resolve] at h
    split at h
    · cases h
    · next e he =>
      cases h
      exact resolveVariableOr_ne_notAMapping w default change name kind he
  | environmentMap names change => exact addVariables_ne_notAMapping w change [] names kind h
  | file path encoding formats => exact resolveFile_ne_notAMapping w encoding formats path kind h
  | directory path encoding formats deep onFail =>
    exact resolveDirectory_ne_notAMapping w encoding formats deep onFail path kind h
  | text content format =>
    rw [resolve, resolveText] at h
    split at h
    · cases h
    · cases h
  | alternatives sources =>
    rw [resolve_alternatives] at h
    obtain ⟨causes, hcauses, -⟩ := firstOutcome_eq_error_iff.1 h
    cases hcauses
  | optional source default =>
    rw [resolve] at h
    split at h
    · cases h
    · cases h
  | merging sources onFail =>
    exact notAMapping_not_mem_resolveAll w kind sources (mem_of_mergeOutcomesOnto h)
  | nested key source =>
    rw [resolve] at h
    split at h
    · cases h
    · next e he =>
      cases h
      exact resolve_ne_notAMapping w kind source he
  | cast source change =>
    rw [resolve] at h
    split at h
    · split at h
      · cases h
      · cases h
    · next e he =>
      cases h
      exact resolve_ne_notAMapping w kind source he

/-- None of several sources is refused with the failure of a provider. -/
theorem notAMapping_not_mem_resolveAll (w : World) (kind : String) :
    ∀ sources : List Source, .error (.notAMapping kind) ∉ resolveAll w sources
  | [] => List.not_mem_nil
  | source :: sources => by
    intro h
    rw [resolveAll] at h
    rcases List.mem_cons.1 h with h | h
    · exact resolve_ne_notAMapping w kind source h.symm
    · exact notAMapping_not_mem_resolveAll w kind sources h

end

end Source

namespace Provider

variable {p : Provider} {w : World}

theorem provide_of_error {e : ResolveError} (h : p.source.resolve w = .error e) :
    p.provide w = .error e := by
  rw [provide, h]

theorem provide_of_map {entries : Entries Value} (h : p.source.resolve w = .ok (.map entries)) :
    p.provide w = .ok entries := by
  rw [provide, h]
  rfl

/-- A provider refuses a value that is not a map and says of which kind it is. -/
theorem provide_of_not_isMap {v : Value} (h : p.source.resolve w = .ok v) (hv : v.isMap = false) :
    p.provide w = .error (.notAMapping v.kind) := by
  rw [provide, h]
  cases v with
  | map entries => cases hv
  | _ => rfl

/-- A provider complains about the kind of the value that its source has, if that is no map, and only
then. -/
theorem provide_eq_notAMapping_iff {kind : String} : p.provide w = .error (.notAMapping kind) ↔
    ∃ v, p.source.resolve w = .ok v ∧ v.isMap = false ∧ v.kind = kind := by
  constructor
  · intro h
    cases hsource : p.source.resolve w with
    | error e =>
      rw [provide_of_error hsource] at h
      cases h
      exact absurd hsource (p.source.resolve_ne_notAMapping w kind)
    | ok v =>
      cases hmap : v.isMap with
      | true =>
        obtain ⟨entries, rfl⟩ := Value.exists_eq_map hmap
        rw [provide_of_map hsource] at h
        cases h
      | false =>
        rw [provide_of_not_isMap hsource hmap] at h
        cases h
        exact ⟨v, rfl, hmap, rfl⟩
  · rintro ⟨v, hsource, hmap, rfl⟩
    exact provide_of_not_isMap hsource hmap

/-- **A map-shaped source provides a map.** Whenever it has a value, that is a map, and its entries are
provided; else the provider fails as the source does. So the provider never complains that the
configuration is no map. -/
theorem provide_of_mapShaped (h : p.source.MapShaped) (w : World) :
    (∀ v, p.source.resolve w = .ok v → ∃ entries, v = .map entries ∧ p.provide w = .ok entries) ∧
      (∀ e, p.source.resolve w = .error e → p.provide w = .error e) ∧
      ∀ kind, p.provide w ≠ .error (.notAMapping kind) := by
  refine ⟨fun v hv => ?_, fun e he => provide_of_error he, fun kind hkind => ?_⟩
  · obtain ⟨entries, rfl⟩ := Value.exists_eq_map (h.isMap hv)
    exact ⟨entries, rfl, provide_of_map hv⟩
  · obtain ⟨v, hv, hmap, -⟩ := provide_eq_notAMapping_iff.1 hkind
    rw [h.isMap hv] at hmap
    cases hmap

/-- A directory with two files: a list, and a map without entries. -/
def listAndMap : World :=
  ⟨[], [("conf", .directory [("a.json", .file [91, 93]), ("b.json", .file [123, 125])])], []⟩

/-- A variable or else a directory; a directory with a default; and a number under a key. -/
def layered : Provider :=
  ⟨.merging [
    .alternatives [.environment "MODE" "mode" none none,
      .directory "conf" .utf8 ⟨true, false, false⟩ false .silent],
    .optional (.directory "more" .utf8 .all true .raise) (.map [("level", .integer 3)]),
    .nested "db" (.static (.integer 5))] .raise⟩

/-- Neither the list nor the number stands alone in what is provided. -/
theorem provide_of_mapShaped_layered :
    layered.source.MapShaped ∧
      layered.provide listAndMap = .ok [("db", .integer 5), ("level", .integer 3)] ∧
      ∀ w kind, layered.provide w ≠ .error (.notAMapping kind) := by
  have hshape : layered.source.MapShaped := by
    refine .merging ?_ .raise
    simp only [List.forall_mem_cons, List.not_mem_nil, false_imp_iff, implies_true, and_true]
    refine ⟨.alternatives ?_, .optional (.directory ..) rfl, .nested ..⟩
    simp only [List.forall_mem_cons, List.not_mem_nil, false_imp_iff, implies_true, and_true]
    exact ⟨.environment .., .directory ..⟩
  refine ⟨hshape, ?_, fun w => (provide_of_mapShaped hshape w).2.2⟩
  obtain ⟨hvalue, -, -⟩ := provide_of_mapShaped hshape listAndMap
  have hresolve : layered.source.resolve listAndMap =
      .ok (.map [("db", .integer 5), ("level", .integer 3)]) := rfl
  obtain ⟨entries, hentries, hprovide⟩ := hvalue _ hresolve
  cases hentries
  exact hprovide

end Provider

end LayeredConfig
