import LayeredConfig.Toml.Document

/-!
# Building TOML tables

A table may be given in pieces: by headers, by keys with several parts, and by headers of the tables
inside it. Which pieces may be added depends on how a table came about, so that is kept with each
table until the whole text is read. The keys of a table stay in the order of the text; the header of
a table that others have brought about before moves its key to the end.
-/

namespace LayeredConfig.Toml

/-- How a table came about: by a header or braces of its own, by a header of a table inside it, or
by a key of several parts. -/
inductive Origin where
  | explicit
  | implicit
  | dotted
deriving DecidableEq, Repr

/-- A value while its table is being built. -/
inductive Item where
  | value (value : Toml)
  | table (origin : Origin) (entries : List (String × Item))
  | tables (elements : List (List (String × Item)))

instance : Inhabited Item := ⟨.tables []⟩

/-- Entries of a table in the order of the text. -/
abbrev Fields := List (String × Item)

namespace Fields

/-- Sets the value of a key in its place, or at the end if the key is new. -/
def set (key : String) (item : Item) : Fields → Fields
  | [] => [(key, item)]
  | (k, old) :: fields =>
    if k = key then (k, item) :: fields else (k, old) :: set key item fields

/-- Sets the value of a key and moves the key to the end. -/
def setLast (key : String) (item : Item) (fields : Fields) : Fields :=
  fields.filter (fun field => field.1 ≠ key) ++ [(key, item)]

end Fields

namespace Item

mutual

/-- The finished value. -/
def finish : Item → Toml
  | value v => v
  | table _ entries => .table (finishEntries entries)
  | tables elements => .array (finishElements elements)

/-- The finished values of entries. -/
def finishEntries : List (String × Item) → List (String × Toml)
  | [] => []
  | (key, item) :: entries => (key, item.finish) :: finishEntries entries

/-- The finished tables of an array. -/
def finishElements : List (List (String × Item)) → List Toml
  | [] => []
  | entries :: elements => .table (finishEntries entries) :: finishElements elements

end

end Item

/-- Changes the last element of a list, if there is one. -/
def modifyLast? (f : α → Option α) : List α → Option (List α)
  | [] => none
  | [a] => (f a).map ([·])
  | a :: as => (modifyLast? f as).map (a :: ·)

/-- Adds a value under a key of one or more parts to a table of a given origin. Below the first part
(`nested`) a value may only be added to a table that such keys alone have made. -/
def addValue (v : Toml) (nested : Bool) (origin : Origin) :
    List String → Fields → Option (Fields)
  | [], _ => none
  | [key], entries =>
    if (nested && origin ≠ .dotted) || (entries.lookup key).isSome then none
    else some (Fields.set key (.value v) entries)
  | key :: path, entries =>
    let item : Option Item := match entries.lookup key with
      | none => (addValue v true .dotted path []).map (.table .dotted)
      | some (.table .explicit _) => none
      | some (.table origin inner) => (addValue v true origin path inner).map (.table origin)
      | some (.tables elements) =>
        (modifyLast? (addValue v true .explicit path) elements).map .tables
      | some (.value _) => none
    item.map fun item => Fields.set key item entries

/-- What a header does at the end of its path: it gives the entries of a table there, which may hold
tables already, or adds one to an array of tables. -/
def place (array : Bool) (fill : Fields → Option (Fields)) : Option Item → Option Item
  | none => if array then (fill []).map fun entries => .tables [entries]
    else (fill []).map (.table .explicit)
  | some (.table .implicit entries) =>
    if array then none else (fill entries).map (.table .explicit)
  | some (.tables elements) =>
    if array then (fill []).map fun entries => .tables (elements ++ [entries]) else none
  | some _ => none

/-- Follows the path of a header and gives entries to the table at its end. -/
def addSection (array : Bool) (fill : Fields → Option (Fields)) :
    List String → Fields → Option (Fields)
  | [], entries => fill entries
  | [key], entries =>
    (place array fill (entries.lookup key)).map fun item =>
      if array then Fields.set key item entries else Fields.setLast key item entries
  | key :: path, entries =>
    let item : Option Item := match entries.lookup key with
      | none => (addSection array fill path []).map (.table .implicit)
      | some (.table origin inner) => (addSection array fill path inner).map (.table origin)
      | some (.tables elements) => (modifyLast? (addSection array fill path) elements).map .tables
      | some (.value _) => none
    item.map fun item => Fields.set key item entries

/-- Adds values under keys, one after the other. -/
def addValues (pairs : List (List String × Toml)) (entries : Fields) :
    Option (Fields) :=
  pairs.foldlM (fun entries pair => addValue pair.2 false .explicit pair.1 entries) entries

end LayeredConfig.Toml
