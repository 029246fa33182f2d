import LayeredConfig.World.Basic
import LayeredConfig.Proofs.Text.Order

/-!
# The files of a directory

`FileTree.at?` is the view of a tree: what stands at the end of some steps. `FileTree.parts` goes through
all of a tree, and `listing` and `folders` are the files and the directories that it comes to. Where every
directory has its entries in name order (`FileTree.WellFormed`), each part is met once, in an order that
compares the steps to it one by one and each step by its bytes (`Path.Before`). Changing a tree keeps it
so.
-/

namespace LayeredConfig

namespace Path

/-- A text that an entry of a directory can have as its name. -/
structure Name (name : String) : Prop where
  notHere : isHere name = false
  notAbove : name ≠ ".."
  noSlash : '/' ∉ name.toList
  noNul : '\x00' ∉ name.toList
  short : name.utf8ByteSize ≤ World.nameLimit

instance {name : String} : Decidable (Name name) :=
  decidable_of_iff (isHere name = false ∧ name ≠ ".." ∧ '/' ∉ name.toList ∧ '\x00' ∉ name.toList ∧
      name.utf8ByteSize ≤ World.nameLimit)
    ⟨fun ⟨notHere, notAbove, noSlash, noNul, short⟩ => ⟨notHere, notAbove, noSlash, noNul, short⟩,
      fun h => ⟨h.notHere, h.notAbove, h.noSlash, h.noNul, h.short⟩⟩

/-- Paths are compared step by step, and steps by their bytes. -/
def Before : List String → List String → Prop :=
  List.Lex fun name other => Text.Utf8.encode name < Text.Utf8.encode other

/-- No steps come before themselves. -/
theorem not_before_self (steps : List String) : ¬ Before steps steps :=
  List.lex_irrefl (fun name => List.lt_irrefl (Text.Utf8.encode name)) steps

end Path

namespace FileTree

mutual

/-- Every directory in the tree has its entries in name order, under proper names. -/
def WellFormed : FileTree → Prop
  | file _ => True
  | directory entries => Entries.Sorted entries ∧ WellFormedEntries entries

/-- Every entry has a proper name and a tree of that kind. -/
def WellFormedEntries : List (String × FileTree) → Prop
  | [] => True
  | (name, tree) :: entries => Path.Name name ∧ tree.WellFormed ∧ WellFormedEntries entries

end

mutual

/-- Whether a tree is well-formed can be computed. -/
instance decidableWellFormed : (tree : FileTree) → Decidable tree.WellFormed
  | file _ => isTrue trivial
  | directory entries =>
    have := decidableWellFormedEntries entries
    inferInstanceAs (Decidable (Entries.Sorted entries ∧ WellFormedEntries entries))

/-- Whether some entries are well-formed can be computed. -/
instance decidableWellFormedEntries :
    (entries : List (String × FileTree)) → Decidable (WellFormedEntries entries)
  | [] => isTrue trivial
  | (name, tree) :: entries =>
    have := decidableWellFormed tree
    have := decidableWellFormedEntries entries
    inferInstanceAs (Decidable (Path.Name name ∧ tree.WellFormed ∧ WellFormedEntries entries))

end

/-- What stands at the end of some steps. -/
def at? : FileTree → List String → Option FileTree
  | tree, [] => some tree
  | directory entries, name :: steps => match Entries.get? name entries with
    | some child => child.at? steps
    | none => none
  | file _, _ :: _ => none

variable {name : String} {entries : List (String × FileTree)} {tree : FileTree} {steps : List String}

theorem wellFormedEntries_iff :
    WellFormedEntries entries ↔ ∀ entry ∈ entries, Path.Name entry.1 ∧ entry.2.WellFormed := by
  induction entries with
  | nil => simp [WellFormedEntries]
  | cons entry entries ih => simp [WellFormedEntries, ih, and_assoc]

/-- A name that is found is a name, and its tree is well-formed. -/
theorem WellFormedEntries.get? (h : WellFormedEntries entries)
    (hget : Entries.get? name entries = some tree) : Path.Name name ∧ tree.WellFormed :=
  wellFormedEntries_iff.1 h _ (Entries.mem_of_get? hget)

/-- Steps that lead somewhere go by proper names. -/
theorem WellFormed.names_of_at? (h : tree.WellFormed) {found : FileTree}
    (hat : tree.at? steps = some found) : ∀ name ∈ steps, Path.Name name := by
  induction steps generalizing tree with
  | nil => exact fun name hname => nomatch hname
  | cons name steps ih =>
    cases tree with
    | file bytes => cases hat
    | directory entries =>
      simp only [at?] at hat
      split at hat
      · next child hget =>
        obtain ⟨hname, hchild⟩ := h.2.get? hget
        exact List.forall_mem_cons.2 ⟨hname, ih hchild hat⟩
      · cases hat

/-! ## Each part once -/

mutual

/-- Every part of a tree with the steps to it: a directory before its entries, and these in order. -/
def parts : FileTree → List (List String × FileTree)
  | file bytes => [([], file bytes)]
  | directory entries => ([], directory entries) :: partsOfEntries entries

/-- Every part of some entries with the steps to it. -/
def partsOfEntries : List (String × FileTree) → List (List String × FileTree)
  | [] => []
  | (name, tree) :: entries =>
    (tree.parts.map fun part => (name :: part.1, part.2)) ++ partsOfEntries entries

end

/-- The steps to a part of some entries begin with the name of an entry. -/
theorem exists_of_mem_partsOfEntries {part : List String × FileTree} (h : part ∈ partsOfEntries entries) :
    ∃ entry ∈ entries, ∃ rest, part.1 = entry.1 :: rest := by
  induction entries with
  | nil => cases h
  | cons entry entries ih =>
    rcases List.mem_append.1 h with h | h
    · obtain ⟨part, -, rfl⟩ := List.mem_map.1 h
      exact ⟨entry, List.mem_cons_self, part.1, rfl⟩
    · obtain ⟨entry', hentry, hsteps⟩ := ih h
      exact ⟨entry', List.mem_cons_of_mem _ hentry, hsteps⟩

/-- The entries of a directory do not have it as a part. -/
theorem nil_notMem_partsOfEntries : ([], tree) ∉ partsOfEntries entries := by
  intro h
  obtain ⟨entry, -, rest, hsteps⟩ := exists_of_mem_partsOfEntries h
  cases hsteps

mutual

/-- The parts of a tree are what stands at the end of any steps. -/
theorem mem_parts_iff {steps : List String} {found : FileTree} : ∀ {tree : FileTree}, tree.WellFormed →
    ((steps, found) ∈ tree.parts ↔ tree.at? steps = some found)
  | file bytes, _ => by
    cases steps with
    | nil => simp [parts, at?, eq_comm]
    | cons name steps => simp [parts, at?]
  | directory entries, ⟨hsorted, hentries⟩ => by
    cases steps with
    | nil => simp [parts, at?, nil_notMem_partsOfEntries, eq_comm]
    | cons name steps => simpa [parts] using mem_partsOfEntries_iff hsorted hentries

/-- The parts of some entries are what stands at the end of steps into the directory of them. -/
theorem mem_partsOfEntries_iff {name : String} {steps : List String} {found : FileTree} :
    ∀ {entries : List (String × FileTree)}, Entries.Sorted entries → WellFormedEntries entries →
      ((name :: steps, found) ∈ partsOfEntries entries ↔
        (directory entries).at? (name :: steps) = some found)
  | [], _, _ => by simp [partsOfEntries, at?]
  | (first, tree) :: entries, hsorted, ⟨_, htree, hentries⟩ => by
    obtain ⟨hbefore, hsorted⟩ := Entries.sorted_cons.1 hsorted
    have hparts : (steps, found) ∈ tree.parts ↔ tree.at? steps = some found := mem_parts_iff htree
    rw [partsOfEntries, List.mem_append, mem_partsOfEntries_iff hsorted hentries]
    by_cases hname : name = first
    · -- no later entry has the same name
      subst hname
      simp [at?, Entries.get?, Entries.get?_eq_none_of_lt hbefore, hparts]
    · simp [at?, Entries.get?, hname, Ne.symm hname]

end

mutual

/-- The parts of a tree come in the order of the steps to them. -/
theorem pairwise_parts : ∀ {tree : FileTree}, tree.WellFormed →
    tree.parts.Pairwise fun part later => Path.Before part.1 later.1
  | file _, _ => List.pairwise_singleton _ _
  | directory entries, ⟨hsorted, hentries⟩ => by
    refine List.pairwise_cons.2 ⟨fun part hpart => ?_, pairwise_partsOfEntries hsorted hentries⟩
    obtain ⟨entry, -, rest, hsteps⟩ := exists_of_mem_partsOfEntries hpart
    rw [hsteps]
    exact .nil

/-- The parts of some entries come in the order of the steps to them. -/
theorem pairwise_partsOfEntries : ∀ {entries : List (String × FileTree)}, Entries.Sorted entries →
    WellFormedEntries entries →
      (partsOfEntries entries).Pairwise fun part later => Path.Before part.1 later.1
  | [], _, _ => List.Pairwise.nil
  | (name, tree) :: entries, hsorted, ⟨_, htree, hentries⟩ => by
    obtain ⟨hbefore, hsorted⟩ := Entries.sorted_cons.1 hsorted
    refine List.pairwise_append.2 ⟨?_, pairwise_partsOfEntries hsorted hentries, ?_⟩
    · exact List.pairwise_map.2 ((pairwise_parts htree).imp .cons)
    · intro part hpart later hlater
      obtain ⟨part, -, rfl⟩ := List.mem_map.1 hpart
      obtain ⟨entry, hentry, rest, hsteps⟩ := exists_of_mem_partsOfEntries hlater
      rw [hsteps]
      exact .rel (Text.Utf8.encode_lt_of_lt (hbefore entry hentry))

end

/-! ## Files and directories -/

/-- Whether a tree is a file. -/
def isFile : FileTree → Bool
  | file _ => true
  | directory _ => false

/-- The steps to those of some parts that are files, or to those that are none. -/
def stepsTo (files : Bool) (parts : List (List String × FileTree)) : List (List String) :=
  (parts.filter fun part => part.2.isFile = files).map Prod.fst

/-- The steps to the files of a directory: to all below it, or only to its own. -/
def listing (deep : Bool) (entries : List (String × FileTree)) : List (List String) :=
  if deep then stepsTo true (partsOfEntries entries)
  else (stepsTo true (partsOfEntries entries)).filter fun steps => steps.length = 1

/-- The steps to the directories that are opened to find the files of one: to all below it, or to none. -/
def folders (deep : Bool) (entries : List (String × FileTree)) : List (List String) :=
  if deep then stepsTo false (partsOfEntries entries) else []

/-- The steps to some parts and to later ones stand in this order. -/
theorem stepsTo_append (files : Bool) (parts later : List (List String × FileTree)) :
    stepsTo files (parts ++ later) = stepsTo files parts ++ stepsTo files later := by
  simp [stepsTo]

/-- Steps that begin with one more name lead through parts that are one step further away. -/
theorem stepsTo_map_cons (files : Bool) (name : String) (parts : List (List String × FileTree)) :
    stepsTo files (parts.map fun part => (name :: part.1, part.2)) =
      (stepsTo files parts).map (name :: ·) := by
  simp [stepsTo, List.filter_map, Function.comp_def]

/-- A part of a directory is at least one step away. -/
theorem ne_nil_of_mem_stepsTo {files : Bool} (h : steps ∈ stepsTo files (partsOfEntries entries)) :
    steps ≠ [] := by
  obtain ⟨part, hpart, rfl⟩ := List.mem_map.1 h
  obtain ⟨entry, -, rest, hsteps⟩ := exists_of_mem_partsOfEntries (List.mem_of_mem_filter hpart)
  rw [hsteps]
  exact List.cons_ne_nil _ _

/-- A listing that is not deep has the entries that are files. -/
theorem listing_cons (name : String) (tree : FileTree) (entries : List (String × FileTree)) :
    listing false ((name, tree) :: entries) =
      (if tree.isFile then [[name]] else []) ++ listing false entries := by
  simp only [listing, partsOfEntries, Bool.false_eq_true, if_false]
  rw [stepsTo_append, stepsTo_map_cons, List.filter_append]
  congr 1
  cases tree with
  | file bytes => rfl
  | directory below =>
    -- what is in the directory is further away than one step
    refine List.filter_eq_nil_iff.2 fun steps hsteps => ?_
    obtain ⟨rest, hrest, rfl⟩ := List.mem_map.1 hsteps
    have hne : rest ≠ [] := ne_nil_of_mem_stepsTo (show rest ∈ stepsTo true (partsOfEntries below) from hrest)
    simpa using hne

/-- What is a file has bytes. -/
theorem isFile_eq_true_iff : tree.isFile = true ↔ ∃ bytes, tree = file bytes := by
  cases tree <;> simp [isFile]

theorem isFile_eq_false_iff : tree.isFile = false ↔ ∃ entries, tree = directory entries := by
  cases tree <;> simp [isFile]

/-- The steps to the files, or to the directories, are those at the end of which one is found. -/
theorem mem_stepsTo_iff (h : (directory entries).WellFormed) {files : Bool} :
    steps ∈ stepsTo files (partsOfEntries entries) ↔
      steps ≠ [] ∧ ∃ found, (directory entries).at? steps = some found ∧ found.isFile = files := by
  cases steps with
  | nil => simp [stepsTo, nil_notMem_partsOfEntries]
  | cons name steps => simp [stepsTo, mem_partsOfEntries_iff h.1 h.2]

/-- Steps through some of the parts come in order. -/
theorem pairwise_stepsTo (h : (directory entries).WellFormed) (files : Bool) :
    (stepsTo files (partsOfEntries entries)).Pairwise Path.Before :=
  List.pairwise_map.2 ((pairwise_partsOfEntries h.1 h.2).filter _)

/-- A listing has the steps to the files: to all of them, or to those that are one step away. -/
theorem mem_listing_iff (h : (directory entries).WellFormed) {deep : Bool} :
    steps ∈ listing deep entries ↔
      (∃ bytes, (directory entries).at? steps = some (file bytes)) ∧ (deep = true ∨ steps.length = 1) := by
  have hfiles : steps ∈ stepsTo true (partsOfEntries entries) ↔
      ∃ bytes, (directory entries).at? steps = some (file bytes) := by
    rw [mem_stepsTo_iff h]
    constructor
    · rintro ⟨-, found, hat, hfile⟩
      obtain ⟨bytes, rfl⟩ := isFile_eq_true_iff.1 hfile
      exact ⟨bytes, hat⟩
    · rintro ⟨bytes, hat⟩
      refine ⟨?_, file bytes, hat, rfl⟩
      rintro rfl
      cases hat
  cases deep <;> simp [listing, hfiles]

/-- Directories are opened to list all that is below one, and then every one of them. -/
theorem mem_folders_iff (h : (directory entries).WellFormed) {deep : Bool} :
    steps ∈ folders deep entries ↔
      deep = true ∧ steps ≠ [] ∧ ∃ below, (directory entries).at? steps = some (directory below) := by
  cases deep with
  | false => simp [folders]
  | true =>
    have hdirectory (found : FileTree) : found.isFile = false ↔ ∃ below, found = directory below :=
      isFile_eq_false_iff
    simp only [folders, if_true, mem_stepsTo_iff h, hdirectory, true_and]
    refine and_congr_right fun _ => ⟨?_, ?_⟩
    · rintro ⟨_, hat, below, rfl⟩
      exact ⟨below, hat⟩
    · rintro ⟨below, hat⟩
      exact ⟨directory below, hat, below, rfl⟩

/-- The files are listed in order. -/
theorem pairwise_listing (h : (directory entries).WellFormed) (deep : Bool) :
    (listing deep entries).Pairwise Path.Before := by
  unfold listing
  split
  · exact pairwise_stepsTo h true
  · exact (pairwise_stepsTo h true).filter _

theorem pairwise_folders (h : (directory entries).WellFormed) (deep : Bool) :
    (folders deep entries).Pairwise Path.Before := by
  unfold folders
  split
  · exact pairwise_stepsTo h false
  · exact .nil

/-! ## Changes -/

variable {old : FileTree}

/-- A directory is well-formed where its names are apart, in order and names, and its trees are well-formed.
-/
theorem wellFormed_directory_iff {entries : Entries FileTree} : (directory entries).WellFormed ↔
    Entries.Sorted entries ∧ ∀ entry ∈ entries, Path.Name entry.1 ∧ entry.2.WellFormed := by
  rw [WellFormed, wellFormedEntries_iff]

theorem wellFormed_empty : empty.WellFormed := wellFormed_directory_iff.2 ⟨Entries.sorted_nil, nofun⟩

/-- The entries of a well-formed tree form a well-formed directory. -/
theorem WellFormed.directory_entries (h : tree.WellFormed) : (directory tree.entries).WellFormed := by
  cases tree with
  | file bytes => exact wellFormed_empty
  | directory entries => exact h

/-- A well-formed tree under a name leaves the directory well-formed. -/
theorem WellFormed.insert_entry {entries : Entries FileTree} (h : (directory entries).WellFormed)
    {name : String} (hname : Path.Name name) (htree : tree.WellFormed) :
    (directory (Entries.insert name tree entries)).WellFormed := by
  obtain ⟨hsorted, hentries⟩ := wellFormed_directory_iff.1 h
  refine wellFormed_directory_iff.2 ⟨hsorted.insert name tree, fun entry hentry => ?_⟩
  rcases Entries.mem_insert hentry with rfl | hentry
  · exact ⟨hname, htree⟩
  · exact hentries entry hentry

/-- A well-formed tree at the end of some names leaves the whole well-formed. -/
theorem WellFormed.insert (hold : old.WellFormed) (htree : tree.WellFormed)
    (hnames : ∀ name ∈ steps, Path.Name name) : (FileTree.insert tree steps old).WellFormed := by
  induction steps generalizing old with
  | nil =>
    unfold FileTree.insert
    split
    · exact hold
    · exact htree
  | cons name steps ih =>
    obtain ⟨hname, hsteps⟩ := List.forall_mem_cons.1 hnames
    have hchild : ((Entries.get? name old.entries).getD empty).WellFormed := by
      cases hget : Entries.get? name old.entries with
      | none => exact wellFormed_empty
      | some child => exact (hold.directory_entries.2.get? hget).2
    exact hold.directory_entries.insert_entry hname (ih hchild hsteps)

theorem WellFormed.erase (h : tree.WellFormed) : (FileTree.erase steps tree).WellFormed := by
  induction steps generalizing tree with
  | nil => exact wellFormed_empty
  | cons name steps ih =>
    obtain ⟨hsorted, hentries⟩ := wellFormed_directory_iff.1 h.directory_entries
    cases steps with
    | nil =>
      exact wellFormed_directory_iff.2 ⟨hsorted.erase name, fun entry hentry =>
        hentries entry (Entries.mem_of_mem_erase hentry)⟩
    | cons next steps =>
      simp only [FileTree.erase]
      split
      · exact h
      · next child hget =>
        obtain ⟨hname, hchild⟩ := h.directory_entries.2.get? hget
        exact h.directory_entries.insert_entry hname (ih hchild)

end FileTree

end LayeredConfig
