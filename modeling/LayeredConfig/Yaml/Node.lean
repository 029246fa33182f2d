import LayeredConfig.Yaml.Lexer

/-!
# YAML nodes

The tree of a YAML text before aliases are followed and scalars are interpreted. `Node.read?` reads
the single document of a list of tokens; where the grammar lets a node be absent, an empty plain
scalar stands in.
-/

namespace LayeredConfig.Yaml

/-- The name by which a node can be repeated, and its full tag. -/
structure Properties where
  anchor : Option String
  tag : Option TagBytes

/-- A node of a YAML text. -/
inductive Node where
  | alias (name : String)
  | scalar (properties : Properties) (text : String) (plain : Bool)
  | sequence (properties : Properties) (items : List Node)
  | mapping (properties : Properties) (entries : List (Node × Node))

/-- A node without properties. -/
def Properties.none : Properties := ⟨Option.none, Option.none⟩

/-- The node that stands in for an absent one. -/
def Node.absent : Node := .scalar .none "" true

/-- What tag handles stand for. -/
abbrev Handles := List (String × TagBytes)

/-- What the two handles without a name stand for unless a directive says otherwise. -/
def defaultHandles : Handles :=
  [("!", Text.Utf8.encode "!"), ("!!", Text.Utf8.encode "tag:yaml.org,2002:")]

/-- The full tag of a handle and a suffix; the handle must be known. -/
def fullTag? (handles : Handles) (handle : String) (suffix : TagBytes) : Option TagBytes :=
  if handle.isEmpty then some suffix else (handles.lookup handle).map (· ++ suffix)

/-- Reads an anchor and a tag, in either order. -/
def readProperties (handles : Handles) : List Token → Option (Properties × List Token)
  | .anchor name :: .tag handle suffix :: rest =>
    (fullTag? handles handle suffix).map fun tag => (⟨some name, some tag⟩, rest)
  | .tag handle suffix :: .anchor name :: rest =>
    (fullTag? handles handle suffix).map fun tag => (⟨some name, some tag⟩, rest)
  | .anchor name :: rest => some (⟨some name, none⟩, rest)
  | .tag handle suffix :: rest =>
    (fullTag? handles handle suffix).map fun tag => (⟨none, some tag⟩, rest)
  | rest => some (Properties.none, rest)

/-- Whether a token after `key` or `value` shows that no node stands there. -/
def endsPart : List Token → Bool
  | [] => false
  | .key :: _ => true
  | .value :: _ => true
  | .blockEnd :: _ => true
  | _ => false

mutual

/-- Reads a node. Outside brackets (`block`) it may be a block; right below a mapping (`indentless`)
the items of a sequence need not be indented. -/
def readNode (handles : Handles) (block indentless : Bool) (fuel : Nat) (tokens : List Token) :
    Option (Node × List Token) :=
  match fuel, tokens with
  | 0, _ => none
  | _, .alias name :: rest => some (.alias name, rest)
  | fuel + 1, tokens => match readProperties handles tokens with
    | none => none
    | some (p, tokens) => match tokens with
      | .blockEntry :: _ =>
        if indentless then (readIndentless handles fuel [] tokens).map fun (items, rest) =>
          (.sequence p items, rest)
        else if p.anchor.isSome || p.tag.isSome then some (.scalar p "" true, tokens)
        else none
      | .scalar text plain :: rest => some (.scalar p text plain, rest)
      | .flowSequenceStart :: rest =>
        (readFlowItems handles fuel true [] rest).map fun (items, rest) => (.sequence p items, rest)
      | .flowMappingStart :: rest =>
        (readFlowEntries handles fuel true [] rest).map fun (entries, rest) =>
          (.mapping p entries, rest)
      | .blockSequenceStart :: rest =>
        if block then (readItems handles fuel [] rest).map fun (items, rest) =>
          (.sequence p items, rest)
        else if p.anchor.isSome || p.tag.isSome then some (.scalar p "" true, tokens)
        else none
      | .blockMappingStart :: rest =>
        if block then (readEntries handles fuel [] rest).map fun (entries, rest) =>
          (.mapping p entries, rest)
        else if p.anchor.isSome || p.tag.isSome then some (.scalar p "" true, tokens)
        else none
      | tokens =>
        if p.anchor.isSome || p.tag.isSome then some (.scalar p "" true, tokens) else none

/-- Reads the items of a block sequence to its end. -/
def readItems (handles : Handles) (fuel : Nat) (done : List Node) (tokens : List Token) :
    Option (List Node × List Token) :=
  match fuel, tokens with
  | 0, _ => none
  | _, .blockEnd :: rest => some (done.reverse, rest)
  | fuel + 1, .blockEntry :: rest => match rest with
    | .blockEntry :: _ => readItems handles fuel (.absent :: done) rest
    | .blockEnd :: _ => readItems handles fuel (.absent :: done) rest
    | _ => match readNode handles true false fuel rest with
      | none => none
      | some (item, rest) => readItems handles fuel (item :: done) rest
  | _, _ => none

/-- Reads the items of a sequence that is not indented, up to something else. -/
def readIndentless (handles : Handles) (fuel : Nat) (done : List Node) (tokens : List Token) :
    Option (List Node × List Token) :=
  match fuel, tokens with
  | 0, _ => none
  | fuel + 1, .blockEntry :: rest =>
    let absent := endsPart rest || rest.head? = some .blockEntry
    if absent then readIndentless handles fuel (.absent :: done) rest
    else match readNode handles true false fuel rest with
      | none => none
      | some (item, rest) => readIndentless handles fuel (item :: done) rest
  | _, tokens => some (done.reverse, tokens)

/-- Reads the node after `key` or `value` in a block mapping, if there is one. -/
def readPart (handles : Handles) (fuel : Nat) (tokens : List Token) : Option (Node × List Token) :=
  match fuel with
  | 0 => none
  | fuel + 1 =>
    if endsPart tokens then some (.absent, tokens) else readNode handles true true fuel tokens

/-- Reads the entries of a block mapping to its end. -/
def readEntries (handles : Handles) (fuel : Nat) (done : List (Node × Node))
    (tokens : List Token) : Option (List (Node × Node) × List Token) :=
  match fuel, tokens with
  | 0, _ => none
  | _, .blockEnd :: rest => some (done.reverse, rest)
  | fuel + 1, .key :: rest => match readPart handles fuel rest with
    | none => none
    | some (key, .value :: rest) => match readPart handles fuel rest with
      | none => none
      | some (value, rest) => readEntries handles fuel ((key, value) :: done) rest
    | some (key, rest) => readEntries handles fuel ((key, .absent) :: done) rest
  | _, _ => none

/-- Reads the items of a sequence in brackets to its end. An item may be a single entry of a mapping
without brackets of its own. -/
def readFlowItems (handles : Handles) (fuel : Nat) (first : Bool) (done : List Node)
    (tokens : List Token) : Option (List Node × List Token) :=
  match fuel, tokens with
  | 0, _ => none
  | _, .flowSequenceEnd :: rest => some (done.reverse, rest)
  | fuel + 1, tokens =>
    let next := match tokens with
      | .flowEntry :: rest => if first then some tokens else some rest
      | _ => if first then some tokens else none
    match next with
    | none => none
    | some (.key :: rest) => match readFlowPair handles fuel rest with
      | none => none
      | some (item, rest) => readFlowItems handles fuel false (item :: done) rest
    | some (.flowSequenceEnd :: rest) => some (done.reverse, rest)
    | some tokens => match readNode handles false false fuel tokens with
      | none => none
      | some (item, rest) => readFlowItems handles fuel false (item :: done) rest

/-- Reads an entry inside a sequence in brackets. Where its key is absent, the token after it is
passed over, whatever it is. -/
def readFlowPair (handles : Handles) (fuel : Nat) (tokens : List Token) :
    Option (Node × List Token) :=
  match fuel with
  | 0 => none
  | fuel + 1 =>
    let key := match tokens with
      | .value :: rest => some (Node.absent, rest)
      | .flowEntry :: rest => some (Node.absent, rest)
      | .flowSequenceEnd :: rest => some (Node.absent, rest)
      | tokens => readNode handles false false fuel tokens
    match key with
    | none => none
    | some (key, .value :: rest) =>
      if rest.head? = some .flowEntry || rest.head? = some .flowSequenceEnd then
        some (.mapping .none [(key, .absent)], rest)
      else match readNode handles false false fuel rest with
        | none => none
        | some (value, rest) => some (.mapping .none [(key, value)], rest)
    | some (key, rest) => some (.mapping .none [(key, .absent)], rest)

/-- Reads the entries of a mapping in braces to its end. -/
def readFlowEntries (handles : Handles) (fuel : Nat) (first : Bool) (done : List (Node × Node))
    (tokens : List Token) : Option (List (Node × Node) × List Token) :=
  match fuel, tokens with
  | 0, _ => none
  | _, .flowMappingEnd :: rest => some (done.reverse, rest)
  | fuel + 1, tokens =>
    let next := match tokens with
      | .flowEntry :: rest => if first then some tokens else some rest
      | _ => if first then some tokens else none
    match next with
    | none => none
    | some (.flowMappingEnd :: rest) => some (done.reverse, rest)
    | some (.key :: rest) =>
      let key := match rest with
        | .value :: _ => some (Node.absent, rest)
        | .flowEntry :: _ => some (Node.absent, rest)
        | .flowMappingEnd :: _ => some (Node.absent, rest)
        | rest => readNode handles false false fuel rest
      match key with
      | none => none
      | some (key, .value :: rest) =>
        if rest.head? = some .flowEntry || rest.head? = some .flowMappingEnd then
          readFlowEntries handles fuel false ((key, .absent) :: done) rest
        else match readNode handles false false fuel rest with
          | none => none
          | some (value, rest) => readFlowEntries handles fuel false ((key, value) :: done) rest
      | some (key, rest) => readFlowEntries handles fuel false ((key, .absent) :: done) rest
    | some tokens => match readNode handles false false fuel tokens with
      | none => none
      | some (key, rest) => readFlowEntries handles fuel false ((key, .absent) :: done) rest

end

/-- Reads the directives before a document: at most one version, 1.1 or 1.2, and no handle twice. -/
def readDirectives (version : Bool) (handles : Handles) :
    List Token → Option (Handles × List Token)
  | .versionDirective major minor :: rest =>
    if version || major ≠ 1 || (minor ≠ 1 && minor ≠ 2) then none
    else readDirectives true handles rest
  | .tagDirective handle expansion :: rest =>
    if (handles.lookup handle).isSome then none
    else readDirectives version ((handle, expansion) :: handles) rest
  | rest => some (handles, rest)

/-- Whether nothing but ends of documents is left. -/
def isOver (tokens : List Token) : Bool := tokens.all (· = .documentEnd)

/-- Whether a document is opened by a marker or directives. -/
def isExplicit : List Token → Bool
  | .versionDirective _ _ :: _ => true
  | .tagDirective _ _ :: _ => true
  | .documentStart :: _ => true
  | _ => false

/-- Whether a document has no content. -/
def isEmptyContent : List Token → Bool
  | [] => true
  | .documentEnd :: _ => true
  | tokens => isExplicit tokens

/-- The root node of a list of tokens that holds one document; none of a list without tokens. -/
def Node.read? (tokens : List Token) : Option Node :=
  let fuel := 4 * tokens.length + 16
  let content :=
    if tokens.isEmpty then some (Node.absent, [])
    else if isExplicit tokens then match readDirectives false [] tokens with
      | some (handles, .documentStart :: rest) =>
        if isEmptyContent rest then some (Node.absent, rest)
        else readNode (handles ++ defaultHandles) true false fuel rest
      | _ => none
    else readNode defaultHandles true false fuel tokens
  match content with
  | some (root, rest) => if isOver rest then some root else none
  | none => none

end LayeredConfig.Yaml
