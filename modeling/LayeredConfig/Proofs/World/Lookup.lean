import LayeredConfig.Proofs.World.Listing

/-!
# The paths of listed files

The path of a file below a directory is the path of the directory with the steps to the file behind it
(`Path.components_below`), so different steps give different paths (`Path.below_injective`), and looking
up the path of a listed file finds the file (`World.lookup_below`). What is found depends on the directory
only, since the names of entries lead neither up nor out of it. That they are proper names is an invariant
of the worlds that are made by writing and removing files (`World.WellFormed`).
-/

namespace LayeredConfig

/-! ## Components -/

namespace Path

variable {name directory : String} {steps : List String}

/-- Without a slash a path has one component. -/
theorem components_of_noSlash (h : '/' ∉ name.toList) : components name = [name] := by
  have hsplit : name.toList.splitOn '/' = [name.toList] :=
    List.splitOnP_eq_singleton fun c hc => by
      rw [beq_eq_false_iff_ne]
      rintro rfl
      exact h hc
  simp [components, hsplit]

theorem mem_of_mem_splitOn {piece chars : List Char} (h : piece ∈ chars.splitOn '/') {c : Char}
    (hc : c ∈ piece) : c ∈ chars ∧ c ≠ '/' := by
  induction chars generalizing piece c with
  | nil =>
    have hpiece : piece = [] := by simpa using h
    subst hpiece
    cases hc
  | cons first chars ih =>
    by_cases hfirst : first = '/'
    · have hsplit : (first :: chars).splitOn '/' = [] :: chars.splitOn '/' := by
        simp [List.splitOn, List.splitOnP_cons_eq_if_modifyHead, hfirst]
      rw [hsplit] at h
      rcases List.mem_cons.1 h with rfl | h
      · cases hc
      · exact (ih h hc).imp_left (List.mem_cons_of_mem _)
    · have hsplit : (first :: chars).splitOn '/' = (chars.splitOn '/').modifyHead (first :: ·) := by
        simp [List.splitOn, List.splitOnP_cons_eq_if_modifyHead, hfirst]
      rw [hsplit] at h
      cases hrest : chars.splitOn '/' with
      | nil => simp [hrest] at h
      | cons head pieces =>
        rw [hrest] at h ih
        rcases List.mem_cons.1 h with rfl | h
        · rcases List.mem_cons.1 hc with rfl | hc
          · exact ⟨List.mem_cons_self, hfirst⟩
          · exact (ih List.mem_cons_self hc).imp_left (List.mem_cons_of_mem _)
        · exact (ih (List.mem_cons_of_mem _ h) hc).imp_left (List.mem_cons_of_mem _)

/-- The components of a path are made of its characters other than slashes. -/
theorem mem_of_mem_components {path : String} (h : name ∈ components path) {c : Char}
    (hc : c ∈ name.toList) : c ∈ path.toList ∧ c ≠ '/' := by
  obtain ⟨piece, hpiece, rfl⟩ := List.mem_map.1 h
  exact mem_of_mem_splitOn hpiece (by simpa using hc)

/-- What stands behind a slash adds its components. -/
theorem components_append_slash {path front : String}
    (h : path.toList = front.toList ++ '/' :: name.toList) :
    components path = components front ++ components name := by
  have hsplit : path.toList.splitOn '/' = front.toList.splitOn '/' ++ name.toList.splitOn '/' := by
    rw [h]
    exact List.splitOnP_append_cons _ _ (beq_self_eq_true '/')
  simp [components, hsplit]

/-- The components of a directory that come before the names of its entries. -/
def stem (directory : String) : List String :=
  if directory.isEmpty || directory.toList.getLast? = some '/' then (components directory).dropLast
  else components directory

/-- A path with a slash at its end has an empty component there. -/
theorem components_of_slash (h : directory.toList.getLast? = some '/') :
    ∃ front : String, directory.toList = front.toList ++ ['/'] ∧
      components directory = components front ++ [""] := by
  obtain ⟨front, hfront⟩ := List.getLast?_eq_some_iff.1 h
  have hpath : directory.toList = (String.ofList front).toList ++ '/' :: "".toList := by
    simpa using hfront
  exact ⟨String.ofList front, hpath, components_append_slash hpath⟩

/-- A path that ends with a slash has one component more, which is empty. -/
theorem components_eq_stem (h : directory ≠ "") :
    components directory = stem directory ∨ components directory = stem directory ++ [""] := by
  by_cases hlast : directory.toList.getLast? = some '/'
  · obtain ⟨front, -, hfront⟩ := components_of_slash hlast
    simp [stem, hlast, hfront]
  · simp [stem, hlast, h]

/-- A name joined to a directory is one more component of its stem. -/
theorem components_join (h : '/' ∉ name.toList) :
    components (join directory name) = stem directory ++ [name] := by
  have hname := components_of_noSlash h
  by_cases hempty : directory = ""
  · have hblank : components "" = [""] := rfl
    rw [stem, join, hempty, hblank]
    simpa using hname
  · by_cases hlast : directory.toList.getLast? = some '/'
    · obtain ⟨front, hfront, hcomponents⟩ := components_of_slash hlast
      have hjoin : (directory ++ name).toList = front.toList ++ '/' :: name.toList := by
        simp [hfront]
      simp [stem, join, hlast, hcomponents, components_append_slash hjoin, hname]
    · have hjoin : (directory ++ "/" ++ name).toList = directory.toList ++ '/' :: name.toList := by
        simp
      simp [stem, join, hlast, hempty, components_append_slash hjoin, hname]

/-- The path of an entry is a part of its directory's path with the name behind it. -/
theorem exists_toList_join (directory name : String) :
    ∃ front, (join directory name).toList = directory.toList ++ front ++ name.toList ∧
      ∀ c ∈ front, c = '/' := by
  unfold join
  split
  · exact ⟨[], by simp, nofun⟩
  · exact ⟨['/'], by simp, by simp⟩

theorem Name.ne_empty (h : Name name) : name ≠ "" := by
  rintro rfl
  exact absurd h.notHere (by decide)

/-- A path that ends in a name is its own stem. -/
theorem stem_join (h : Name name) : stem (join directory name) = stem directory ++ [name] := by
  obtain ⟨front, hjoin, -⟩ := exists_toList_join directory name
  have hname : name.toList ≠ [] := by simpa using h.ne_empty
  have hlast : (join directory name).toList.getLast? ≠ some '/' := by
    rw [hjoin, List.getLast?_append_of_ne_nil _ hname]
    exact fun hslash => h.noSlash (List.mem_of_getLast? hslash)
  have hne : join directory name ≠ "" := by
    intro hempty
    rw [hempty] at hjoin
    simp [hname] at hjoin
  rw [← components_join h.noSlash]
  simp [stem, hlast, hne]

/-- The path of something below a directory. -/
def below (directory : String) (steps : List String) : String := steps.foldl join directory

/-- The stem of a path below a directory goes on from that of the directory. -/
theorem stem_below (h : ∀ name ∈ steps, Name name) :
    stem (below directory steps) = stem directory ++ steps := by
  induction steps generalizing directory with
  | nil => simp [below]
  | cons name steps ih =>
    obtain ⟨hname, hsteps⟩ := List.forall_mem_cons.1 h
    have hnext : stem (below (join directory name) steps) = stem (join directory name) ++ steps := ih hsteps
    rw [stem_join hname, List.append_assoc] at hnext
    exact hnext

/-- The path of something below a directory has the steps to it as its last components. -/
theorem components_below (h : ∀ name ∈ steps, Name name) (hsteps : steps ≠ []) :
    components (below directory steps) = stem directory ++ steps := by
  obtain ⟨first, last, rfl⟩ := (List.eq_nil_or_concat steps).resolve_left hsteps
  rw [List.concat_eq_append] at h ⊢
  have hlast : Name last := h last (List.mem_append_right _ List.mem_cons_self)
  have hfirst : ∀ name ∈ first, Name name := fun name hmem => h name (List.mem_append_left _ hmem)
  have hjoin : below directory (first ++ [last]) = join (below directory first) last := by
    simp [below]
  rw [hjoin, components_join hlast.noSlash, stem_below hfirst, List.append_assoc]

/-- Different steps from a directory give different paths. -/
theorem below_injective {steps' : List String} (h : ∀ name ∈ steps, Name name)
    (h' : ∀ name ∈ steps', Name name) (heq : below directory steps = below directory steps') :
    steps = steps' := by
  have hstem := congrArg stem heq
  rw [stem_below h, stem_below h'] at hstem
  exact List.append_cancel_left hstem

/-- The path of something below a directory continues that of the directory with slashes and steps. -/
theorem exists_toList_below (directory : String) (steps : List String) :
    ∃ more, (below directory steps).toList = directory.toList ++ more ∧
      ∀ c ∈ more, c = '/' ∨ ∃ name ∈ steps, c ∈ name.toList := by
  induction steps generalizing directory with
  | nil => exact ⟨[], by simp [below], nofun⟩
  | cons name steps ih =>
    obtain ⟨slash, hjoin, hslash⟩ := exists_toList_join directory name
    obtain ⟨more, hbelow, hmore⟩ := ih (join directory name)
    refine ⟨slash ++ name.toList ++ more, ?_, fun c hc => ?_⟩
    · change (below (join directory name) steps).toList = _
      rw [hbelow, hjoin]
      simp
    · rcases List.mem_append.1 hc with hc | hc
      · rcases List.mem_append.1 hc with hc | hc
        · exact .inl (hslash c hc)
        · exact .inr ⟨name, List.mem_cons_self, hc⟩
      · rcases hmore c hc with hc | ⟨other, hother, hc⟩
        · exact .inl hc
        · exact .inr ⟨other, List.mem_cons_of_mem _ hother, hc⟩

end Path

/-! ## Walks -/

namespace World

variable {w : World} {above : List (Entries FileTree)} {here found target : FileTree} {path : String}
  {front steps : List String}

theorem walk_nil : walk above here [] = .found here := by
  cases here <;> rfl

/-- Proper names lead where they lead in the tree. -/
theorem walk_of_at? (hnames : ∀ name ∈ steps, Path.Name name) (h : here.at? steps = some found) :
    walk above here steps = .found found := by
  induction steps generalizing here above with
  | nil =>
    rw [walk_nil, Option.some.inj h]
  | cons name steps ih =>
    obtain ⟨hname, hsteps⟩ := List.forall_mem_cons.1 hnames
    cases here with
    | file bytes => cases h
    | directory entries =>
      simp only [FileTree.at?] at h
      split at h
      · next child hget =>
        simp only [walk, hname.notHere, hname.notAbove, Nat.not_lt.2 hname.short, hget, if_false,
          Bool.false_eq_true]
        exact ih hsteps h
      · cases h

/-- Components either lead to a place, from which those behind them are followed, or nowhere. -/
theorem walk_append (above : List (Entries FileTree)) (here : FileTree) (front : List String) :
    (∃ above' here', ∀ steps, walk above here (front ++ steps) = walk above' here' steps) ∨
      ∃ place, (∀ found, place ≠ .found found) ∧ ∀ steps, walk above here (front ++ steps) = place := by
  induction front generalizing above here with
  | nil => exact .inl ⟨above, here, fun _ => rfl⟩
  | cons name front ih =>
    cases here with
    | file bytes => exact .inr ⟨.obstructed, nofun, fun _ => rfl⟩
    | directory entries =>
      -- the four things that one component can do
      by_cases hhere : Path.isHere name
      · simpa [walk, hhere] using ih above (.directory entries)
      · by_cases hup : name = ".."
        · subst hup
          cases above with
          | nil => simpa [walk, hhere] using ih [] (.directory entries)
          | cons parent above => simpa [walk, hhere] using ih above (.directory parent)
        · by_cases hlong : nameLimit < name.utf8ByteSize
          · exact .inr ⟨.obstructed, nofun, fun steps => by simp [walk, hhere, hup, hlong]⟩
          · cases hget : Entries.get? name entries with
            | none => exact .inr ⟨.missing, nofun, fun steps => by simp [walk, hhere, hup, hlong, hget]⟩
            | some child => simpa [walk, hhere, hup, hlong, hget] using ih (entries :: above) child

/-- A walk goes on from where it has come to. -/
theorem exists_walk_append_of_found (h : walk above here front = .found found) :
    ∃ above', ∀ steps, walk above here (front ++ steps) = walk above' found steps := by
  rw [← List.append_nil front] at h
  rcases walk_append above here front with ⟨above', here', hwalk⟩ | ⟨place, hplace, hwalk⟩
  · rw [hwalk, walk_nil] at h
    cases h
    exact ⟨above', hwalk⟩
  · exact absurd ((hwalk []).symm.trans h) (hplace found)

/-- A walk goes on down the tree that it has found, over names. -/
theorem walk_append_of_at? (h : walk above here front = .found found)
    (hnames : ∀ name ∈ steps, Path.Name name) (hat : found.at? steps = some target) :
    walk above here (front ++ steps) = .found target := by
  obtain ⟨above', hwalk⟩ := exists_walk_append_of_found h
  rw [hwalk]
  exact walk_of_at? hnames hat

/-- An empty component before others leads nowhere. -/
theorem walk_append_blank (h : steps ≠ []) :
    walk above here (front ++ "" :: steps) = walk above here (front ++ steps) := by
  rcases walk_append above here front with ⟨above', here', hwalk⟩ | ⟨place, -, hwalk⟩
  · rw [hwalk, hwalk]
    cases here' with
    | file bytes =>
      obtain ⟨step, rest, rfl⟩ := List.exists_cons_of_ne_nil h
      rfl
    | directory entries => simp [walk, Path.isHere]
  · rw [hwalk, hwalk]

/-! ## Looking up -/

/-- A path that is too long leads nowhere. -/
theorem lookup_of_long (h : pathLimit ≤ path.utf8ByteSize) : w.lookup path = .obstructed := by
  have hne : path ≠ "" := by
    rintro rfl
    exact absurd h (by decide)
  simp [lookup, h, hne]

/-- What is found is at the end of the walk from the root, along a path that has no NUL and is not empty. -/
theorem walk_of_lookup (h : w.lookup path = .found found) :
    '\x00' ∉ path.toList ∧ path ≠ "" ∧
      walk [] (.directory w.root) (w.start path ++ Path.components path) = .found found := by
  unfold lookup at h
  split at h
  · cases h
  · next hnul =>
    split at h
    · cases h
    · next hempty =>
      split at h
      · cases h
      · exact ⟨by simpa using hnul, by simpa using hempty, h⟩

/-- What is put behind a path does not change where its components are followed from. -/
theorem lookup_longer {longer : String} {more : List Char} (hlonger : longer.toList = path.toList ++ more)
    (hnul : '\x00' ∉ path.toList) (hmore : '\x00' ∉ more) (hne : path ≠ "")
    (hshort : longer.utf8ByteSize < pathLimit) :
    w.lookup longer = walk [] (.directory w.root) (w.start path ++ Path.components longer) := by
  have hpathList : path.toList ≠ [] := by simpa using hne
  have hnul' : '\x00' ∉ longer.toList := by
    rw [hlonger, List.mem_append]
    exact not_or.2 ⟨hnul, hmore⟩
  have hne' : longer ≠ "" := by
    rintro rfl
    simp [hpathList] at hlonger
  have habsolute : Path.isAbsolute longer = Path.isAbsolute path := by
    rw [Path.isAbsolute, Path.isAbsolute, hlonger, List.head?_append_of_ne_nil _ hpathList]
  simp [lookup, start, hnul', hne', Nat.not_le.2 hshort, habsolute]

/-- **A path below a directory leads where its steps lead in the directory**, unless it is too long. -/
theorem lookup_below (hpath : w.lookup path = .found found)
    (hnames : ∀ name ∈ steps, Path.Name name) (hsteps : steps ≠ [])
    (hat : found.at? steps = some target)
    (hshort : (Path.below path steps).utf8ByteSize < pathLimit) :
    w.lookup (Path.below path steps) = .found target := by
  obtain ⟨hnul, hne, hwalk⟩ := walk_of_lookup hpath
  obtain ⟨more, hbelow, hmore⟩ := Path.exists_toList_below path steps
  have hmoreNul : '\x00' ∉ more := by
    intro h
    rcases hmore _ h with h | ⟨name, hname, h⟩
    · exact absurd h (by decide)
    · exact (hnames name hname).noNul h
  rw [lookup_longer hbelow hnul hmoreNul hne hshort, Path.components_below hnames hsteps,
    ← List.append_assoc]
  rcases Path.components_eq_stem hne with hstem | hstem
  · rw [hstem] at hwalk
    exact walk_append_of_at? hwalk hnames hat
  · -- the path of the directory ends with a slash
    rw [hstem] at hwalk
    rw [← walk_append_blank hsteps]
    simpa using walk_append_of_at? hwalk hnames hat

/-- The files of the world are kept in name order, under proper names, and the steps to the current directory
go by such names. -/
structure WellFormed (w : World) : Prop where
  root : (FileTree.directory w.root).WellFormed
  current : ∀ name ∈ w.current, Path.Name name

instance {w : World} : Decidable w.WellFormed :=
  decidable_of_iff ((FileTree.directory w.root).WellFormed ∧ ∀ name ∈ w.current, Path.Name name)
    ⟨fun ⟨root, current⟩ => ⟨root, current⟩, fun h => ⟨h.root, h.current⟩⟩

theorem wellFormed_empty : empty.WellFormed := by decide

/-- What a path is followed from is reached by proper names. -/
theorem WellFormed.names_start (hw : w.WellFormed) : ∀ name ∈ w.start path, Path.Name name := by
  unfold start
  split
  · exact List.forall_mem_nil _
  · exact hw.current

/-- The steps along a path go by proper names if the path has no NUL and no component that is too long. -/
theorem WellFormed.names_steps (hw : w.WellFormed) (hnul : '\x00' ∉ path.toList)
    (hshort : ∀ name ∈ Path.components path, name.utf8ByteSize ≤ nameLimit) :
    ∀ name ∈ w.steps path, Path.Name name := by
  intro name hname
  rw [World.steps, List.mem_reverse] at hname
  -- every component keeps the steps so far proper names, at most adding one or dropping the last
  refine List.foldlRecOn (motive := fun done => ∀ name ∈ done, Path.Name name) _ _
    (fun name h => hw.names_start name (List.mem_reverse.1 h)) (fun done hdone component hcomponent => ?_)
    name hname
  split
  · exact hdone
  · next hhere =>
    split
    · exact fun name hname => hdone name (List.mem_of_mem_drop hname)
    · next hup =>
      have hproper : Path.Name component :=
        ⟨by simpa using hhere, hup, fun h => (Path.mem_of_mem_components hcomponent h).2 rfl,
          fun h => hnul (Path.mem_of_mem_components hcomponent h).1, hshort component hcomponent⟩
      exact List.forall_mem_cons.2 ⟨hproper, hdone⟩

/-- Writing a well-formed tree leaves the world well-formed, if no component is too long for a name. -/
theorem WellFormed.write {tree : FileTree} (hw : w.WellFormed) (htree : tree.WellFormed)
    (hnul : '\x00' ∉ path.toList)
    (hshort : ∀ name ∈ Path.components path, name.utf8ByteSize ≤ nameLimit) :
    (w.write path tree).WellFormed where
  root := (FileTree.WellFormed.insert hw.root htree (hw.names_steps hnul hshort)).directory_entries
  current := hw.current

theorem WellFormed.remove (hw : w.WellFormed) : (w.remove path).WellFormed where
  root := (FileTree.WellFormed.erase hw.root).directory_entries
  current := hw.current

/-- A walk over well-formed directories finds a well-formed tree: by induction on the components, with what
is above as the way back. -/
theorem wellFormed_walk {components : List String}
    (habove : ∀ entries ∈ above, (FileTree.directory entries).WellFormed) (hhere : here.WellFormed)
    (h : walk above here components = .found found) : found.WellFormed := by
  induction components generalizing above here with
  | nil =>
    rw [walk_nil] at h
    cases h
    exact hhere
  | cons name components ih =>
    cases here with
    | file bytes => cases h
    | directory entries =>
      simp only [walk] at h
      split at h
      · exact ih habove hhere h
      · split at h
        · split at h
          · exact ih habove hhere h
          · -- the way back is one directory shorter
            exact ih (fun e he => habove e (List.mem_cons_of_mem _ he)) (habove _ List.mem_cons_self) h
        · split at h
          · cases h
          · split at h
            · cases h
            · next child hget =>
              -- the way back is one directory longer
              exact ih (List.forall_mem_cons.2 ⟨hhere, habove⟩) (hhere.2.get? hget).2 h

/-- What stands in a world is well-formed. -/
theorem WellFormed.lookup (hw : w.WellFormed) (h : w.lookup path = .found found) :
    found.WellFormed := by
  obtain ⟨-, -, hwalk⟩ := walk_of_lookup h
  exact wellFormed_walk (fun _ he => absurd he List.not_mem_nil) hw.root hwalk

/-! ## Parts of a directory -/

/-- The path of a part of a directory leads to that part, unless it is too long. -/
theorem lookup_part {entries : Entries FileTree} (hentries : (FileTree.directory entries).WellFormed)
    (hpath : w.lookup path = .found (.directory entries)) (hsteps : steps ≠ [])
    (hat : (FileTree.directory entries).at? steps = some target) :
    w.lookup (Path.below path steps) =
      if pathLimit ≤ (Path.below path steps).utf8ByteSize then .obstructed else .found target := by
  split
  · next hlong => exact lookup_of_long hlong
  · next hshort => exact lookup_below hpath (hentries.names_of_at? hat) hsteps hat (Nat.not_le.1 hshort)

/-- A file in a directory is at least one step away. -/
theorem ne_nil_of_at?_file {entries : Entries FileTree} {bytes : List UInt8}
    (hat : (FileTree.directory entries).at? steps = some (.file bytes)) : steps ≠ [] := by
  rintro rfl
  cases hat

end World

end LayeredConfig
