import LayeredConfig.Proofs.Source.Outcomes
import LayeredConfig.Proofs.World.Visit

/-!
# What a source reads

A source names the variables, files and directories that it is resolved from (`Source.named`). Two worlds
in which these are the same (`World.AgreeOn`) give the same outcome, whatever else differs between them.
-/

namespace LayeredConfig

/-- A thing in the world that a source can name. -/
inductive Item where
  | environment (name : String)
  | file (path : String)
  | directory (path : String)

namespace World

/-- The same file or none; which entries a directory has makes no difference to one who reads a file. -/
inductive SameFile : Place → Place → Prop where
  | missing : SameFile .missing .missing
  | obstructed : SameFile .obstructed .obstructed
  | file (bytes : List UInt8) : SameFile (.found (.file bytes)) (.found (.file bytes))
  | directory (entries entries' : Entries FileTree) :
      SameFile (.found (.directory entries)) (.found (.directory entries'))

/-- The same directory with all below it, or none. -/
inductive SameDirectory : Place → Place → Prop where
  | directory (entries : Entries FileTree) :
      SameDirectory (.found (.directory entries)) (.found (.directory entries))
  | none {place place' : Place} (h : ∀ entries, place ≠ .found (.directory entries))
      (h' : ∀ entries, place' ≠ .found (.directory entries)) : SameDirectory place place'

/-- Two worlds have the same under a name. -/
def AgreeOn (w w' : World) : Item → Prop
  | .environment name => w.readVariable name = w'.readVariable name
  | .file path => SameFile (w.lookup path) (w'.lookup path)
  | .directory path => SameDirectory (w.lookup path) (w'.lookup path)

end World

namespace Source

mutual

/-- What a source names, itself and in its parts. -/
def named : Source → List Item
  | static _ => []
  | environment name _ _ _ => [.environment name]
  | environmentMap names _ => names.map .environment
  | file path _ _ => [.file path]
  | directory path _ _ _ _ => [.directory path]
  | text _ _ => []
  | alternatives sources => namedInAll sources
  | optional source _ => source.named
  | merging sources _ => namedInAll sources
  | nested _ source => source.named
  | cast source _ => source.named

/-- What some sources name. -/
def namedInAll : List Source → List Item
  | [] => []
  | source :: sources => source.named ++ namedInAll sources

end

variable {w w' : World}

/-- Variables that are read alike are put together alike. -/
theorem addVariables_congr {names : List String}
    (h : ∀ name ∈ names, w.readVariable name = w'.readVariable name) (change : Option Cast)
    (entries : Entries Value) :
    addVariables w change entries names = addVariables w' change entries names := by
  induction names generalizing entries with
  | nil => rfl
  | cons name names ih =>
    obtain ⟨hname, hnames⟩ := List.forall_mem_cons.1 h
    simp only [addVariables, resolveVariable, hname, ih hnames]

/-- A file is read the same where it is the same. -/
theorem resolveFile_congr {path : String} (h : World.SameFile (w.lookup path) (w'.lookup path))
    (encoding : Encoding) (formats : FormatSet) :
    resolveFile w encoding formats path = resolveFile w' encoding formats path := by
  have hread : readFile w path encoding = readFile w' path encoding := by
    unfold readFile
    generalize w.lookup path = place, w'.lookup path = place' at h
    cases h <;> rfl
  rw [resolveFile, resolveFile, hread]

/-- A directory is read the same where all below it is the same: the paths of its files lead there. -/
theorem resolveDirectory_congr (hw : w.WellFormed) {path : String}
    (h : World.SameDirectory (w.lookup path) (w'.lookup path)) (encoding : Encoding) (formats : FormatSet)
    (deep : Bool) (onFail : OnFail) :
    resolveDirectory w encoding formats deep onFail path =
      resolveDirectory w' encoding formats deep onFail path := by
  generalize hplace : w.lookup path = place, hplace' : w'.lookup path = place' at h
  cases h with
  | directory entries =>
    -- the files are listed alike, and each of them is found in the same tree
    have hlists := World.lists_listing (hw.lookup hplace) hplace deep
    have hfiles : w'.files path deep = w.files path deep := by
      rw [World.files, World.files, hplace, hplace']
    rw [resolveDirectory, resolveDirectory, hfiles]
    split
    · rfl
    · rfl
    · next files hok =>
      obtain ⟨-, rfl⟩ := (hlists.files_iff files).1 hok
      have hfile : ∀ file ∈ (FileTree.listing deep entries).map (Path.below path),
          resolveFile w encoding formats file = resolveFile w' encoding formats file := fun file hmem => by
        obtain ⟨steps, hsteps, rfl⟩ := List.mem_map.1 hmem
        obtain ⟨⟨bytes, hat⟩, -⟩ := (hlists.mem_iff steps).1 hsteps
        have hne := World.ne_nil_of_at?_file hat
        refine resolveFile_congr ?_ encoding formats
        rw [World.lookup_part (hw.lookup hplace) hplace hne hat,
          World.lookup_part (hw.lookup hplace) hplace' hne hat]
        split
        · exact .obstructed
        · exact .file bytes
      rw [mergeFilesOnto_eq, mergeFilesOnto_eq, List.map_congr_left hfile]
  | none hnot hnot' =>
    have hfiles : w.files path deep = .error .notFound := by
      rw [World.files, hplace]
      split
      · next entries => exact absurd rfl (hnot entries)
      · rfl
    have hfiles' : w'.files path deep = .error .notFound := by
      rw [World.files, hplace']
      split
      · next entries => exact absurd rfl (hnot' entries)
      · rfl
    rw [resolveDirectory, resolveDirectory, hfiles, hfiles']

mutual

/-- A source resolves alike in worlds that agree on what it names. -/
theorem resolve_congr (hw : w.WellFormed) : ∀ {source : Source},
    (∀ item ∈ source.named, w.AgreeOn w' item) → source.resolve w = source.resolve w'
  | static _, _ | text _ _, _ => rfl
  | environment name key default change, h => by
    have hname : w.readVariable name = w'.readVariable name := h _ (List.mem_singleton_self _)
    simp only [resolve, resolveVariableOr, resolveVariable, hname]
  | environmentMap names change, h =>
    addVariables_congr (fun name hname => h (.environment name) (List.mem_map_of_mem hname)) change []
  | file path encoding formats, h => resolveFile_congr (h _ (List.mem_singleton_self _)) encoding formats
  | directory path encoding formats deep onFail, h =>
    resolveDirectory_congr hw (h _ (List.mem_singleton_self _)) encoding formats deep onFail
  | alternatives sources, h | merging sources _, h => by
    have hsources : resolveAll w sources = resolveAll w' sources := resolveAll_congr hw h
    rw [resolve, resolve, hsources]
  | optional source _, h | nested _ source, h | cast source _, h => by
    have hsource : source.resolve w = source.resolve w' := resolve_congr hw h
    simp only [resolve, hsource]

theorem resolveAll_congr (hw : w.WellFormed) : ∀ {sources : List Source},
    (∀ item ∈ namedInAll sources, w.AgreeOn w' item) → resolveAll w sources = resolveAll w' sources
  | [], _ => rfl
  | source :: sources, h => by
    obtain ⟨hsource, hsources⟩ := List.forall_mem_append.1 h
    rw [resolveAll, resolveAll, resolve_congr hw hsource, resolveAll_congr hw hsources]

end

/-- **Resolving reads only what the source names.** Two worlds give the same value, or the same error with
all its causes, if they have the same variables, files and directories under the names in the source. -/
theorem resolve_reads_only_named (hw : w.WellFormed) {source : Source}
    (hvariables : ∀ name, .environment name ∈ source.named → w.readVariable name = w'.readVariable name)
    (hfiles : ∀ path, .file path ∈ source.named → World.SameFile (w.lookup path) (w'.lookup path))
    (hdirectories : ∀ path, .directory path ∈ source.named →
      World.SameDirectory (w.lookup path) (w'.lookup path)) :
    source.resolve w = source.resolve w' := by
  refine resolve_congr hw fun item hitem => ?_
  cases item with
  | environment name => exact hvariables name hitem
  | file path => exact hfiles path hitem
  | directory path => exact hdirectories path hitem

/-- A variable, or a file, under what is written in a directory. -/
def fallback : Source :=
  .merging [.alternatives [.environment "MODE" "mode" none none, .file "app.json" .utf8 .all],
    .directory "conf" .utf8 .all true .raise] .raise

/-- A world with what the source names. -/
def sparse : World :=
  ⟨[("MODE", [100])], [("app.json", .file [123, 125]), ("conf", .directory [("a.json", .file [255])])], []⟩

/-- The same with other things beside it. -/
def crowded : World :=
  ⟨[("HOME", [47]), ("MODE", [100])], [("app.json", .file [123, 125]),
    ("conf", .directory [("a.json", .file [255])]), ("other.json", .file [120])], []⟩

/-- What is beside the named things makes no difference. -/
theorem resolve_reads_only_named_fallback :
    sparse.WellFormed ∧ sparse.readVariable "HOME" ≠ crowded.readVariable "HOME" ∧
      fallback.resolve sparse = fallback.resolve crowded := by
  have hw : sparse.WellFormed := by decide
  refine ⟨hw, by decide, resolve_reads_only_named hw (fun name hname => ?_) (fun path hpath => ?_)
    fun path hpath => ?_⟩
  · have hname : name = "MODE" := by simpa [fallback, named, namedInAll] using hname
    subst hname
    rfl
  · have hpath : path = "app.json" := by simpa [fallback, named, namedInAll] using hpath
    subst hpath
    exact .file [123, 125]
  · have hpath : path = "conf" := by simpa [fallback, named, namedInAll] using hpath
    subst hpath
    exact .directory [("a.json", .file [255])]

end Source

end LayeredConfig
