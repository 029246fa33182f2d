import LayeredConfig.Yaml.Node
import LayeredConfig.Yaml.Plain

/-!
# Reading YAML

`Yaml.read?` reads the single document of a text. Aliases are numbered first and followed when the
document is built. Documents nest at most 128 levels deep, a mapping must not have a key twice, and
aliases must not be followed more often than a hundred times the number of nodes and brackets.
-/

namespace LayeredConfig.Yaml

/-- A node whose aliases are numbers. -/
inductive Linked where
  | alias (serial : Nat)
  | scalar (tag : Option TagBytes) (text : String) (plain : Bool)
  | sequence (tag : Option TagBytes) (items : List Linked)
  | mapping (tag : Option TagBytes) (entries : List (Linked × Linked))

/-- A node that aliases may stand for, with its serial number and its place among all parts of the text. -/
structure Anchored where
  serial : Nat
  place : Nat
  node : Linked

/-- What is known at a place of the text: the serial number of every name, how many nodes and brackets
there were, and the nodes with names. -/
structure Links where
  names : List (String × Nat)
  size : Nat
  anchored : List Anchored

namespace Links

/-- Counts a node or bracket. -/
def count (l : Links) : Links := { l with size := l.size + 1 }

/-- Gives a name a serial number: how many names are known before it. -/
def name (l : Links) (name : String) : Links :=
  let others := l.names.filter fun entry => entry.1 ≠ name
  { l with names := (name, l.names.length) :: others }

/-- Begins a node: its serial number, if it has a name, and what is known inside it. -/
def enter (l : Links) (p : Properties) : Option Nat × Links :=
  match p.anchor with
  | some anchor => (some l.names.length, (l.name anchor).count)
  | none => (none, l.count)

/-- Ends a node that began at a place. -/
def leave (l : Links) (serial : Option Nat) (place : Nat) (node : Linked) : Links :=
  match serial with
  | some serial => { l with anchored := ⟨serial, place, node⟩ :: l.anchored }
  | none => l

end Links

mutual

/-- Numbers the aliases of a node. The name of an alias must be known. -/
def Node.link (l : Links) : Node → Option (Linked × Links)
  | .alias name => (l.names.lookup name).map fun serial => (.alias serial, l.count)
  | .scalar p text plain =>
    let (serial, inner) := l.enter p
    let node := Linked.scalar p.tag text plain
    some (node, inner.leave serial l.size node)
  | .sequence p items =>
    let (serial, inner) := l.enter p
    match linkItems inner items with
    | none => none
    | some (items, inner) =>
      let node := Linked.sequence p.tag items
      some (node, inner.count.leave serial l.size node)
  | .mapping p entries =>
    let (serial, inner) := l.enter p
    match linkEntries inner entries with
    | none => none
    | some (entries, inner) =>
      let node := Linked.mapping p.tag entries
      some (node, inner.count.leave serial l.size node)

/-- Numbers the aliases of items. -/
def linkItems (l : Links) : List Node → Option (List Linked × Links)
  | [] => some ([], l)
  | item :: items => match item.link l with
    | none => none
    | some (item, l) => match linkItems l items with
      | none => none
      | some (items, l) => some (item :: items, l)

/-- Numbers the aliases of entries. -/
def linkEntries (l : Links) : List (Node × Node) → Option (List (Linked × Linked) × Links)
  | [] => some ([], l)
  | (key, value) :: entries => match key.link l with
    | none => none
    | some (key, l) => match value.link l with
      | none => none
      | some (value, l) => match linkEntries l entries with
        | none => none
        | some (entries, l) => some ((key, value) :: entries, l)

end

/-- The node that a serial number stands for: the last one that took it. -/
def Links.node? (l : Links) (serial : Nat) : Option Linked :=
  let taken := l.anchored.filter fun a => a.serial = serial
  (taken.foldl (fun best a => match best with
    | some (b : Anchored) => if b.place < a.place then some a else some b
    | none => some a) none).map Anchored.node

/-- The exclamation mark. -/
def mark : UInt8 := 0x21

/-- Whether a tag is of the document's own: whether it begins with an exclamation mark. -/
def isOwnTag (tag : TagBytes) : Bool := tag.head? = some mark

/-- A tag without its first exclamation mark, unless that is all of it. -/
def withoutMark (tag : TagBytes) : TagBytes :=
  if isOwnTag tag && 1 < tag.length then tag.tail else tag

/-- The name of a tag of the document's own, by which such tags are told apart: up to two
exclamation marks in front do not count. A tag whose bytes are no text has no name. -/
def ownName? (tag : TagBytes) : Option String :=
  if isOwnTag tag then Text.Utf8.decode? (withoutMark (withoutMark tag)) else none

/-- The document of a scalar under a full tag: one of the tags of the core types makes demands on
the text, and any other makes it a string. -/
def ofTagged? (tag text : String) : Option Yaml :=
  if tag = "tag:yaml.org,2002:bool" then (bool? text).map .bool
  else if tag = "tag:yaml.org,2002:int" then match integerReading text with
    | .number n => some (.number n)
    | _ => none
  else if tag = "tag:yaml.org,2002:float" then (float? text).map fun x => .number (.real x)
  else if tag = "tag:yaml.org,2002:null" then if isNull text then some .null else none
  else some (.string text)

/-- A document under its own tag, if that has a name. -/
def underTag (tag : Option TagBytes) (document : Yaml) : Yaml :=
  match tag.bind ownName? with
  | some own => .tagged own document
  | none => document

/-- The document of a scalar. A tag of the document's own leaves it as it is. -/
def ofScalar? (tag : Option TagBytes) (text : String) (plain : Bool) : Option Yaml :=
  let untagged := if plain then ofPlain? text else some (.string text)
  match tag with
  | none => untagged
  | some tag =>
    if isOwnTag tag then untagged.map (underTag (some tag))
    else match Text.Utf8.decode? tag with
      | some tag => ofTagged? tag text
      | none => some (.string text)

/-- A step of building a document, with the number of aliases followed so far. -/
abbrev Builder (α : Type) := Nat → Option (α × Nat)

/-- Builds the items of a sequence in order. -/
def buildItems (build : Linked → Builder Yaml) : List Linked → Builder (List Yaml)
  | [], followed => some ([], followed)
  | item :: items, followed => match build item followed with
    | none => none
    | some (item, followed) => match buildItems build items followed with
      | none => none
      | some (items, followed) => some (item :: items, followed)

/-- Builds the entries of a mapping in order after those of `done`, which are in reverse. -/
def buildEntries (buildKey build : Linked → Builder Yaml) (done : List (Yaml × Yaml)) :
    List (Linked × Linked) → Builder (List (Yaml × Yaml))
  | [], followed => some (done.reverse, followed)
  | (key, value) :: entries, followed => match buildKey key followed with
    | none => none
    | some (key, followed) =>
      if done.any (fun entry => entry.1.same key) then none
      else match build value followed with
        | none => none
        | some (value, followed) =>
          buildEntries buildKey build ((key, value) :: done) entries followed

/-- Builds the document of a node that is no alias, with its tag unless another one covers it.
`inner` builds the nodes inside it; it is absent where no further level may be opened. A tag with a
name covers the keys of its mapping, and the keys of these. -/
def buildWith (inner : Option (Bool → Linked → Builder Yaml)) (covered : Bool) :
    Linked → Builder Yaml
  | .alias _, _ => none
  | .scalar tag text plain, followed =>
    (ofScalar? (if covered then none else tag) text plain).map (·, followed)
  | .sequence tag items, followed => match inner with
    | none => none
    | some build => (buildItems (build false) items followed).map fun (items, followed) =>
      (underTag (if covered then none else tag) (.sequence items), followed)
  | .mapping tag entries, followed => match inner with
    | none => none
    | some build =>
      let keysCovered := covered || (tag.bind ownName?).isSome
      (buildEntries (build keysCovered) (build false) [] entries followed).map
        fun (entries, followed) =>
          (underTag (if covered then none else tag) (.mapping entries), followed)

/-- Builds the document of a node in which `depth` levels may be opened. No tag around an alias
covers what the alias stands for. -/
def build (l : Links) : (depth : Nat) → (covered : Bool) → Linked → Builder Yaml
  | depth, covered, node, followed =>
    let inner := match depth with
      | 0 => none
      | depth + 1 => some (build l depth)
    match node with
    | .alias serial =>
      if 100 * l.size ≤ followed then none
      else match l.node? serial with
        | some node => buildWith inner false node (followed + 1)
        | none => none
    | node => buildWith inner covered node followed

/-- The greatest number of levels. -/
def maxDepth : Nat := 128

/-- Reads a text that holds one document. -/
def read? (text : String) : Option Yaml :=
  match tokens? text.toList with
  | none => none
  | some tokens => match Node.read? tokens with
    | none => none
    | some root => match root.link ⟨[], 0, []⟩ with
      | none => none
      | some (root, links) => (build links maxDepth false root 0).map Prod.fst

end LayeredConfig.Yaml
