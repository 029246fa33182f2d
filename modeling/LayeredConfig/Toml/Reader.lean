import LayeredConfig.Toml.Scalar
import LayeredConfig.Toml.Table

/-!
# Reading TOML

`Toml.read?` reads a whole text. It is a list of sections, each a header and entries; the entries
before the first header belong to the root.
-/

namespace LayeredConfig.Toml

/-- Takes a word off the front of the text. -/
def takeWord? (word s : List Char) : Option (List Char) :=
  if word.isPrefixOf s then some (s.drop word.length) else none

mutual

/-- Reads a value, in which fewer than `limit - depth` more levels may be opened. -/
def readValue (fuel depth : Nat) (s : List Char) : Option (Toml × List Char) :=
  match fuel with
  | 0 => none
  | fuel + 1 => match s with
    | [] => none
    | c :: rest =>
      if c = '"' || c = '\'' then (readString s).map fun (text, rest) => (.string text, rest)
      else if c = '[' then
        if limit ≤ depth + 1 then none else readItems fuel (depth + 1) [] rest
      else if c = '\x7b' then
        if limit ≤ depth + 1 then none
        else match skipBlanks rest with
          | '\x7d' :: rest => some (.table [], rest)
          | rest => readPairs fuel (depth + 1) [] rest
      else if c = 't' then (takeWord? ['r', 'u', 'e'] rest).map (.bool true, ·)
      else if c = 'f' then (takeWord? ['a', 'l', 's', 'e'] rest).map (.bool false, ·)
      else readNumeric s

/-- Reads the items of an array to its bracket. -/
def readItems (fuel depth : Nat) (done : List Toml) (s : List Char) : Option (Toml × List Char) :=
  match fuel with
  | 0 => none
  | fuel + 1 => match skipLines s with
    | ']' :: rest => some (.array done.reverse, rest)
    | s => match readValue fuel depth s with
      | none => none
      | some (item, rest) => match skipLines rest with
        | ',' :: rest => readItems fuel depth (item :: done) rest
        | ']' :: rest => some (.array (item :: done).reverse, rest)
        | _ => none

/-- Reads the entries of a table in braces to the closing one. -/
def readPairs (fuel depth : Nat) (done : List (List String × Toml)) (s : List Char) :
    Option (Toml × List Char) :=
  match fuel with
  | 0 => none
  | fuel + 1 => match readKey s with
    | some (key, '=' :: rest) => match readValue fuel depth (skipBlanks rest) with
      | none => none
      | some (value, rest) => match skipBlanks rest with
        | ',' :: rest => readPairs fuel depth ((key, value) :: done) rest
        | '\x7d' :: rest =>
          (addValues ((key, value) :: done).reverse []).map fun entries =>
            (.table (Item.finishEntries entries), rest)
        | _ => none
    | _ => none

end

/-- A header and the entries below it. The root has no header, hence an empty path. -/
structure Section where
  array : Bool
  path : List String
  pairs : List (List String × Toml)

/-- Reads a header to the end of its line, after its bracket. -/
def readHeader (s : List Char) : Option (Section × List Char) :=
  match s with
  | '[' :: rest => match readKey rest with
    | some (path, ']' :: ']' :: rest) => (endLine? rest).map (⟨true, path, []⟩, ·)
    | _ => none
  | s => match readKey s with
    | some (path, ']' :: rest) => (endLine? rest).map (⟨false, path, []⟩, ·)
    | _ => none

/-- Reads an entry to the end of its line. -/
def readPair (s : List Char) : Option ((List String × Toml) × List Char) :=
  match readKey s with
  | some (key, '=' :: rest) =>
    let rest := skipBlanks rest
    match readValue (2 * rest.length + 2) 0 rest with
    | some (value, rest) => (endLine? rest).map ((key, value), ·)
    | none => none
  | _ => none

/-- Reads sections; `done` holds the complete ones in reverse, and the pairs of `current` are in
reverse. Every round uses up a character. -/
def readSections : (fuel : Nat) → (current : Section) → (done : List Section) → List Char →
    Option (List Section)
  | 0, _, _, _ => none
  | fuel + 1, current, done, s =>
    let finished := { current with pairs := current.pairs.reverse } :: done
    match skipLines s with
    | [] => some finished.reverse
    | '#' :: rest =>
      if (rest.dropWhile isVisible).isEmpty then some finished.reverse else none
    | '[' :: rest => match readHeader rest with
      | some (next, rest) => readSections fuel next finished rest
      | none => none
    | s => match readPair s with
      | some (pair, rest) =>
        readSections fuel { current with pairs := pair :: current.pairs } done rest
      | none => none

/-- The mark that may stand before the first character of a text. -/
def skipMark : List Char → List Char
  | c :: rest => if c.toNat = 0xfeff then rest else c :: rest
  | [] => []

/-- Reads a text: the entries of its root table, which does not stand for a date itself. -/
def read? (text : String) : Option (List (String × Toml)) :=
  let s := skipMark text.toList
  match readSections (s.length + 1) ⟨false, [], []⟩ [] s with
  | none => none
  | some sections =>
    let fields := sections.foldlM (fun fields (part : Section) =>
      addSection part.array (addValues part.pairs) part.path fields) []
    fields.bind fun fields => entriesWithDates (Item.finishEntries fields)

end LayeredConfig.Toml
