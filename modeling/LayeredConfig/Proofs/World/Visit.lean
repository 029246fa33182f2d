import Mathlib.Data.List.Nodup
import LayeredConfig.Proofs.World.Lookup

/-!
# Visiting a directory

To list the files below a directory, the directories below it are opened one after the other, and the first
that has too long a path (`World.Unopened`) ends the visit. A visit that opens them all comes to every file
once, in the order of the steps to it (`World.Lists`).
-/

namespace LayeredConfig

/-! ## The first failure -/

/-- The first of some parts that fails does so with this error. -/
inductive FirstFailure {α ε : Type} (fails : α → ε → Prop) : List α → ε → Prop where
  | here {part : α} {parts : List α} {e : ε} (h : fails part e) :
      FirstFailure fails (part :: parts) e
  | later {part : α} {parts : List α} {e : ε} (h : ∀ e', ¬ fails part e')
      (hparts : FirstFailure fails parts e) : FirstFailure fails (part :: parts) e

section

variable {α ε : Type} {fails fails' : α → ε → Prop} {part : α} {parts : List α} {e : ε}

theorem not_firstFailure_nil : ¬ FirstFailure fails [] e := nofun

/-- The first part fails, or it does not and the first failure is one of the others. -/
theorem firstFailure_cons_iff : FirstFailure fails (part :: parts) e ↔
    fails part e ∨ (∀ e', ¬ fails part e') ∧ FirstFailure fails parts e := by
  constructor
  · rintro (h | ⟨h, hparts⟩)
    · exact .inl h
    · exact .inr ⟨h, hparts⟩
  · rintro (h | ⟨h, hparts⟩)
    · exact .here h
    · exact .later h hparts

/-- If a part fails, then some part is the first to fail. -/
theorem FirstFailure.exists_of_mem (hmem : part ∈ parts) (h : fails part e) :
    ∃ e', FirstFailure fails parts e' := by
  induction parts with
  | nil => cases hmem
  | cons head parts ih =>
    by_cases hhead : ∃ e', fails head e'
    · obtain ⟨e', he'⟩ := hhead
      exact ⟨e', .here he'⟩
    · have hne : part ≠ head := by
        rintro rfl
        exact hhead ⟨e, h⟩
      obtain ⟨e', he'⟩ := ih ((List.mem_cons.1 hmem).resolve_left hne)
      exact ⟨e', .later (not_exists.1 hhead) he'⟩

/-- The first failure is that of some part. -/
theorem FirstFailure.exists_mem (h : FirstFailure fails parts e) : ∃ part ∈ parts, fails part e := by
  induction h with
  | here h => exact ⟨_, List.mem_cons_self, h⟩
  | later _ _ ih =>
    obtain ⟨part, hmem, hpart⟩ := ih
    exact ⟨part, List.mem_cons_of_mem _ hmem, hpart⟩

/-- No part is the first to fail just if none fails. -/
theorem not_firstFailure_iff :
    (∀ e, ¬ FirstFailure fails parts e) ↔ ∀ part ∈ parts, ∀ e, ¬ fails part e := by
  constructor
  · intro h part hmem e hpart
    obtain ⟨e', he'⟩ := FirstFailure.exists_of_mem hmem hpart
    exact h e' he'
  · intro h e hfirst
    obtain ⟨part, hmem, hpart⟩ := hfirst.exists_mem
    exact h part hmem e hpart

/-- If each part fails in one way at most, the first failure is the only one. -/
theorem FirstFailure.unique {e' : ε} (h : FirstFailure fails parts e)
    (hunique : ∀ {part e e'}, fails part e → fails part e' → e = e') (h' : FirstFailure fails parts e') :
    e = e' := by
  induction h with
  | here h =>
    rcases firstFailure_cons_iff.1 h' with h' | ⟨hnone, -⟩
    · exact hunique h h'
    · exact absurd h (hnone _)
  | later hnone _ ih =>
    rcases firstFailure_cons_iff.1 h' with h' | ⟨-, h'⟩
    · exact absurd h' (hnone _)
    · exact ih h'

/-- The first failure comes from the first parts, or from later ones if none of the first fails. -/
theorem firstFailure_append_iff {later : List α} : FirstFailure fails (parts ++ later) e ↔
    FirstFailure fails parts e ∨
      (∀ e', ¬ FirstFailure fails parts e') ∧ FirstFailure fails later e := by
  induction parts with
  | nil => simp [not_firstFailure_nil]
  | cons part parts ih =>
    simp only [List.cons_append, firstFailure_cons_iff, ih]
    by_cases hpart : ∃ e', fails part e'
    · obtain ⟨e', he'⟩ := hpart
      have hnot : ¬ ∀ e', ¬ fails part e' := fun h => h e' he'
      simp [hnot]
    · have hnone := not_exists.1 hpart
      simp [hnone]

/-- Parts that are images fail as the images do. -/
theorem firstFailure_map_iff {β : Type} {f : β → α} {parts : List β} :
    FirstFailure fails (parts.map f) e ↔ FirstFailure (fun part => fails (f part)) parts e := by
  induction parts with
  | nil => simp [not_firstFailure_nil]
  | cons part parts ih => simp [firstFailure_cons_iff, ih]

end

namespace World

variable {w : World} {path : String}

/-- The steps from a directory lead to a path that is too long for the directory there to be opened. -/
def Unopened (path : String) (steps : List String) (below : String) : Prop :=
  below = Path.below path steps ∧ pathLimit ≤ below.utf8ByteSize

theorem Unopened.unique {steps : List String} {below below' : String} (h : Unopened path steps below)
    (h' : Unopened path steps below') : below = below' := h.1.trans h'.1.symm

/-! ## Visits -/

/-- A visit to some parts opens the directories among them up to the first that cannot be opened. If it can
open them all, it gives the paths of the files among them. -/
structure Visits (path : String) (parts : List (List String × FileTree))
    (outcome : Except String (List String)) : Prop where
  error_iff : ∀ below, outcome = .error below ↔
    FirstFailure (Unopened path) (FileTree.stepsTo false parts) below
  ok : ∀ files, outcome = .ok files → files = (FileTree.stepsTo true parts).map (Path.below path)

variable {parts : List (List String × FileTree)} {outcome : Except String (List String)}

/-- What is visited from an entry is visited from its directory. -/
theorem Visits.descend {name : String} (h : Visits (Path.join path name) parts outcome) :
    Visits path (parts.map fun part => (name :: part.1, part.2)) outcome := by
  constructor
  · intro below
    rw [h.error_iff, FileTree.stepsTo_map_cons, firstFailure_map_iff]
    rfl
  · intro files hfiles
    rw [h.ok files hfiles, FileTree.stepsTo_map_cons, List.map_map]
    rfl

mutual

/-- A deep visit is one to all parts of a tree. -/
theorem visits_visit (path : String) : ∀ tree : FileTree, Visits path tree.parts (visit true path tree)
  | .file bytes => by
    constructor
    · intro below
      simp [visit, FileTree.parts, FileTree.stepsTo, FileTree.isFile, not_firstFailure_nil]
    · rintro files ⟨⟩
      rfl
  | .directory entries => by
    have hentries := visits_visitEntries path entries
    -- the directory itself is opened before any of those below it
    have hfolders : FileTree.stepsTo false (FileTree.directory entries).parts =
        [] :: FileTree.stepsTo false (FileTree.partsOfEntries entries) := rfl
    by_cases hlong : pathLimit ≤ path.utf8ByteSize
    · have hvisit : visit true path (.directory entries) = .error path := by simp [visit, hlong]
      rw [hvisit]
      constructor
      · intro below
        rw [hfolders, firstFailure_cons_iff]
        constructor
        · rintro ⟨⟩
          exact .inl ⟨rfl, hlong⟩
        · rintro (⟨rfl, -⟩ | ⟨hnone, -⟩)
          · rfl
          · exact absurd ⟨rfl, hlong⟩ (hnone path)
      · rintro files ⟨⟩
    · have hvisit : visit true path (.directory entries) = visitEntries true path entries := by
        simp [visit, hlong]
      have hopened : ∀ below, ¬ Unopened path [] below := by
        rintro below ⟨rfl, hbelow⟩
        exact hlong hbelow
      rw [hvisit]
      constructor
      · intro below
        rw [hfolders, firstFailure_cons_iff, or_iff_right (hopened below), and_iff_right hopened]
        exact hentries.error_iff below
      · exact hentries.ok

/-- Going over the entries visits their parts: by induction over them, each directory before what is behind
it. -/
theorem visits_visitEntries (path : String) : ∀ entries : List (String × FileTree),
    Visits path (FileTree.partsOfEntries entries) (visitEntries true path entries)
  | [] => by
    constructor
    · intro below
      simp [visitEntries, FileTree.partsOfEntries, FileTree.stepsTo, not_firstFailure_nil]
    · rintro files ⟨⟩
      rfl
  | (name, tree) :: entries => by
    have hfirst := (visits_visit (Path.join path name) tree).descend
    have hlater := visits_visitEntries path entries
    rw [FileTree.partsOfEntries, visitEntries]
    constructor
    · intro below
      -- a failure in the first tree ends the visit before the later entries are looked at
      rw [FileTree.stepsTo_append, firstFailure_append_iff]
      simp only [← hfirst.error_iff, ← hlater.error_iff]
      cases visit true (Path.join path name) tree with
      | error cause => simp
      | ok files => cases visitEntries true path entries <;> simp
    · intro files hfiles
      rw [FileTree.stepsTo_append, List.map_append]
      -- files are given only if both visits give theirs
      cases hvisit : visit true (Path.join path name) tree with
      | error cause => simp [hvisit] at hfiles
      | ok own =>
        cases hrest : visitEntries true path entries with
        | error cause => simp [hvisit, hrest] at hfiles
        | ok more =>
          have hfiles : own ++ more = files := by simpa [hvisit, hrest] using hfiles
          rw [← hfiles, hfirst.ok own hvisit, hlater.ok more hrest]

end

/-- A visit that is not deep opens no directory. -/
theorem visitEntries_shallow (path : String) (entries : List (String × FileTree)) :
    visitEntries false path entries = .ok ((FileTree.listing false entries).map (Path.below path)) := by
  induction entries with
  | nil => rfl
  | cons entry entries ih =>
    obtain ⟨name, tree⟩ := entry
    rw [FileTree.listing_cons, visitEntries, ih]
    cases tree <;> rfl

/-! ## Listed files -/

/-- Lists of steps name the files of a directory, all of them or those that stand in it itself, and the
directories that are opened to find them. Each is named once, in order, and its path leads to it unless it
is too long. The listing fails at the first directory that cannot be opened. -/
structure Lists (w : World) (path : String) (entries : Entries FileTree) (deep : Bool)
    (listing folders : List (List String)) : Prop where
  mem_iff : ∀ steps, steps ∈ listing ↔
    (∃ bytes, (FileTree.directory entries).at? steps = some (.file bytes)) ∧
      (deep = true ∨ steps.length = 1)
  ordered : listing.Pairwise Path.Before
  once : (listing.map (Path.below path)).Nodup
  leads : ∀ steps found, steps ≠ [] → (FileTree.directory entries).at? steps = some found →
    w.lookup (Path.below path steps) =
      if pathLimit ≤ (Path.below path steps).utf8ByteSize then .obstructed else .found found
  mem_folders_iff : ∀ steps, steps ∈ folders ↔
    deep = true ∧ steps ≠ [] ∧ ∃ below, (FileTree.directory entries).at? steps = some (.directory below)
  foldersOrdered : folders.Pairwise Path.Before
  fails_iff : ∀ fault, w.files path deep = .error fault ↔
    ∃ below, fault = .unopened below ∧ FirstFailure (Unopened path) folders below
  files_iff : ∀ files, w.files path deep = .ok files ↔
    (∀ steps ∈ folders, ∀ below, ¬ Unopened path steps below) ∧ files = listing.map (Path.below path)

variable {entries : Entries FileTree}

/-- The visit to the entries of a directory, deep or not, in terms of its files and directories. -/
theorem visitEntries_eq_error_iff (deep : Bool) {below : String} :
    visitEntries deep path entries = .error below ↔
      FirstFailure (Unopened path) (FileTree.folders deep entries) below := by
  cases deep with
  | false => simp [visitEntries_shallow, FileTree.folders, not_firstFailure_nil]
  | true => exact (visits_visitEntries path entries).error_iff below

/-- The files are listed where every directory that is gone into can be opened. -/
theorem visitEntries_eq_ok_iff (deep : Bool) {files : List String} :
    visitEntries deep path entries = .ok files ↔
      (∀ steps ∈ FileTree.folders deep entries, ∀ below, ¬ Unopened path steps below) ∧
        files = (FileTree.listing deep entries).map (Path.below path) := by
  have hgives : ∀ files, visitEntries deep path entries = .ok files →
      files = (FileTree.listing deep entries).map (Path.below path) := by
    cases deep with
    | false =>
      intro files hfiles
      rw [visitEntries_shallow] at hfiles
      exact (Except.ok.inj hfiles).symm
    | true => exact (visits_visitEntries path entries).ok
  -- a visit that does not fail gives its files
  rw [← not_firstFailure_iff]
  simp only [← visitEntries_eq_error_iff]
  cases hvisit : visitEntries deep path entries with
  | error below => simp
  | ok found => simp [hgives found hvisit, eq_comm]

/-- Steps to proper entries of a directory give different paths. -/
theorem nodup_below {listing : List (List String)} (hordered : listing.Pairwise Path.Before)
    (hnames : ∀ steps ∈ listing, ∀ name ∈ steps, Path.Name name) :
    (listing.map (Path.below path)).Nodup := by
  refine (List.nodup_map_iff_inj_on ?_).2 fun steps hsteps steps' hsteps' heq =>
    Path.below_injective (hnames steps hsteps) (hnames steps' hsteps') heq
  refine hordered.imp fun h => ?_
  rintro rfl
  exact Path.not_before_self _ h

theorem lists_listing (hentries : (FileTree.directory entries).WellFormed)
    (hpath : w.lookup path = .found (.directory entries)) (deep : Bool) :
    w.Lists path entries deep (FileTree.listing deep entries) (FileTree.folders deep entries) where
  mem_iff _ := FileTree.mem_listing_iff hentries
  ordered := FileTree.pairwise_listing hentries deep
  once := by
    refine nodup_below (FileTree.pairwise_listing hentries deep) fun steps hsteps => ?_
    obtain ⟨⟨bytes, hat⟩, -⟩ := (FileTree.mem_listing_iff hentries).1 hsteps
    exact hentries.names_of_at? hat
  leads _ _ hsteps hat := lookup_part hentries hpath hsteps hat
  mem_folders_iff _ := FileTree.mem_folders_iff hentries
  foldersOrdered := FileTree.pairwise_folders hentries deep
  fails_iff fault := by
    simp only [files, hpath, ← visitEntries_eq_error_iff]
    cases visitEntries deep path entries <;> simp [eq_comm]
  files_iff files := by
    simp only [World.files, hpath, ← visitEntries_eq_ok_iff]
    cases visitEntries deep path entries <;> simp

end World

end LayeredConfig
