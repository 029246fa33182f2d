import LayeredConfig.Yaml.Scalar
import LayeredConfig.Yaml.Tag

/-!
# From text to YAML tokens

Tokens are read from left to right. What makes a mapping is only seen at the colon after its first
key, so a scanner remembers at every level the place where a simple key may have begun and inserts
the tokens that announce it there. A simple key ends on its line and within 1024 bytes.
-/

namespace LayeredConfig.Yaml

/-- A place where a simple key may have begun: the number of tokens before it, and where it stands
in the text. A required key is one that nothing else but a key could be. -/
structure SimpleKey where
  place : Nat
  index : Nat
  line : Nat
  column : Nat
  required : Bool

/-- A scanner between two tokens. There is one entry of `keys` for the block structure and one for
each open bracket, the innermost first. -/
structure Scanner where
  cursor : Cursor
  tokens : Array Token
  keyAllowed : Bool
  indent : Int
  indents : List Int
  keys : List (Option SimpleKey)

namespace Scanner

/-- The beginning of a text. -/
def start (text : List Char) : Scanner := ⟨Cursor.start text, #[], true, -1, [], [none]⟩

/-- Whether a bracket is open. -/
def inFlow (s : Scanner) : Bool := 1 < s.keys.length

/-- Adds a token. -/
def emit (s : Scanner) (t : Token) : Scanner := { s with tokens := s.tokens.push t }

/-- Adds a token before the others from a place on. -/
def insertAt (s : Scanner) (place : Nat) (t : Token) : Scanner :=
  { s with tokens := s.tokens.insertIdxIfInBounds place t }

/-- Moves to a place in the text. -/
def moveTo (s : Scanner) (c : Cursor) : Scanner := { s with cursor := c }

/-- Whether a simple key can no longer end where the scanner stands. -/
def isStale (s : Scanner) (k : SimpleKey) : Bool :=
  k.line < s.cursor.line || k.index + 1024 < s.cursor.index

/-- Forgets the simple keys that can no longer end; a required one must not be among them. -/
def dropStale (s : Scanner) : Option Scanner :=
  if s.keys.any fun key => key.any fun k => s.isStale k && k.required then none
  else some { s with keys := s.keys.map fun key => key.filter fun k => !s.isStale k }

/-- Forgets the innermost simple key, which must not be a required one. -/
def dropKey (s : Scanner) : Option Scanner :=
  match s.keys with
  | some k :: keys => if k.required then none else some { s with keys := none :: keys }
  | _ => some s

/-- Remembers that a simple key may begin here, where one is allowed. -/
def saveKey (s : Scanner) : Option Scanner :=
  if s.keyAllowed then match s.dropKey with
    | none => none
    | some s =>
      let c := s.cursor
      let required := !s.inFlow && s.indent = c.column
      let key : SimpleKey := ⟨s.tokens.size, c.index, c.line, c.column, required⟩
      some { s with keys := some key :: s.keys.tail }
  else some s

/-- Opens a block at a column that lies deeper than the block around it. Its token goes to a given
place, or else to the end. -/
def openBlock (s : Scanner) (column : Nat) (place : Option Nat) (t : Token) : Scanner :=
  if s.inFlow || (column : Int) ≤ s.indent then s
  else
    let s := { s with indents := s.indent :: s.indents, indent := column }
    match place with
    | some place => s.insertAt place t
    | none => s.emit t

/-- Closes the blocks that lie deeper than a column. -/
def closeBlocks (s : Scanner) (column : Int) : Scanner :=
  if s.inFlow then s else go s s.indents
where
  /-- Closes blocks as long as the indentations around them last. -/
  go (s : Scanner) : List Int → Scanner
    | [] => s
    | outer :: indents =>
      if column < s.indent then go { s.emit .blockEnd with indent := outer, indents } indents
      else s

/-- Moves to the next token: over blanks, comments and line breaks. A tab may not stand where a key
may begin, and a line break outside brackets lets a key begin. -/
def skipGap (s : Scanner) : Scanner :=
  go (s.cursor.rest.length + 1) s
where
  /-- Skips lines as long as `fuel` lasts. -/
  go : Nat → Scanner → Scanner
    | 0, s => s
    | fuel + 1, s =>
      let c := s.cursor
      let c := if c.column = 0 && c.sees byteOrderMark then c.advance 1 else c
      let tabs := s.inFlow || !s.keyAllowed
      let c := c.dropWhile fun ch => ch = ' ' || (tabs && ch = '\t')
      let c := if c.sees '#' then c.dropLine else c
      if c.seesBreak then
        go fuel { s with cursor := c.takeBreak.2, keyAllowed := s.keyAllowed || !s.inFlow }
      else s.moveTo c

/-- Reads a directive or a marker between documents, which closes every block. -/
def between (s : Scanner) (t : Token) (c : Cursor) : Option Scanner :=
  match (s.closeBlocks (-1)).dropKey with
  | some s => some ({ s with keyAllowed := false, cursor := c }.emit t)
  | none => none

/-- Reads an opening bracket. -/
def openFlow (s : Scanner) (t : Token) : Option Scanner :=
  s.saveKey.map fun s =>
    { s with keys := none :: s.keys, keyAllowed := true, cursor := s.cursor.advance 1 }.emit t

/-- Reads a closing bracket. -/
def closeFlow (s : Scanner) (t : Token) : Option Scanner :=
  s.dropKey.map fun s =>
    let keys := if s.inFlow then s.keys.tail else s.keys
    { s with keys, keyAllowed := false, cursor := s.cursor.advance 1 }.emit t

/-- Reads a comma between the items of a bracket. -/
def flowEntry (s : Scanner) : Option Scanner :=
  s.dropKey.map fun s =>
    { s with keyAllowed := true, cursor := s.cursor.advance 1 }.emit .flowEntry

/-- Reads the dash before an item of a block sequence. -/
def blockEntry (s : Scanner) : Option Scanner :=
  if !s.inFlow && !s.keyAllowed then none
  else (s.openBlock s.cursor.column none .blockSequenceStart).dropKey.map fun s =>
    { s with keyAllowed := true, cursor := s.cursor.advance 1 }.emit .blockEntry

/-- Reads the question mark before a key. -/
def explicitKey (s : Scanner) : Option Scanner :=
  if !s.inFlow && !s.keyAllowed then none
  else (s.openBlock s.cursor.column none .blockMappingStart).dropKey.map fun s =>
    { s with keyAllowed := !s.inFlow, cursor := s.cursor.advance 1 }.emit .key

/-- Reads the colon before a value. If a simple key stands before it, that is announced now. -/
def value (s : Scanner) : Option Scanner :=
  match s.keys with
  | some k :: keys =>
    let s := (s.insertAt k.place .key).openBlock k.column (some k.place) .blockMappingStart
    some ({ s with keys := none :: keys, keyAllowed := false,
                   cursor := s.cursor.advance 1 }.emit .value)
  | _ =>
    if !s.inFlow && !s.keyAllowed then none
    else
      let s := s.openBlock s.cursor.column none .blockMappingStart
      some ({ s with keyAllowed := !s.inFlow, cursor := s.cursor.advance 1 }.emit .value)

/-- Reads a token that may begin a simple key. -/
def keyToken (s : Scanner) (read : Cursor → Option (Token × Cursor)) : Option Scanner :=
  match s.saveKey with
  | none => none
  | some s => match read s.cursor with
    | none => none
    | some (t, c) => some ({ s with keyAllowed := false, cursor := c }.emit t)

/-- Reads a block scalar. -/
def blockScalar (s : Scanner) (folded : Bool) : Option Scanner :=
  match s.dropKey with
  | none => none
  | some s => match readBlock folded s.indent s.cursor with
    | none => none
    | some (text, c) =>
      some ({ s with keyAllowed := true, cursor := c }.emit (.scalar (String.ofList text) false))

/-- Reads a plain scalar. A line break after it lets a key begin. -/
def plainScalar (s : Scanner) : Option Scanner :=
  match s.saveKey with
  | none => none
  | some s => match readPlain s.inFlow (s.indent + 1).toNat s.cursor with
    | none => none
    | some (text, broken, c) =>
      some ({ s with keyAllowed := broken, cursor := c }.emit (.scalar (String.ofList text) true))

/-- A character with a meaning of its own at the beginning of a token. -/
def isIndicator (c : Char) : Bool :=
  isFlowIndicator c || "-?:#&*!|>'\"%@".toList.contains c || c = Char.ofNat 0x60

/-- Whether a plain scalar may begin here. -/
def startsPlain (s : Scanner) (ch : Char) : Bool :=
  let c := s.cursor
  !(isBlank ch || isBreak ch || isIndicator ch) ||
    (ch = '-' && !(c.get? 1).any isBlank) ||
    (!s.inFlow && (ch = '?' || ch = ':') && !c.isSpaceAt 1)

/-- Reads the token that begins with the next character. -/
def token (s : Scanner) (ch : Char) : Option Scanner :=
  let c := s.cursor
  let separate := s.inFlow || c.isSpaceAt 1
  if c.column = 0 && ch = '%' then match readDirective c with
    | some (t, c) => s.between t c
    | none => none
  else if c.atTriple '-' then s.between .documentStart (c.advance 3)
  else if c.atTriple '.' then s.between .documentEnd (c.advance 3)
  else if ch = '[' then s.openFlow .flowSequenceStart
  else if ch = '\x7b' then s.openFlow .flowMappingStart
  else if ch = ']' then s.closeFlow .flowSequenceEnd
  else if ch = '\x7d' then s.closeFlow .flowMappingEnd
  else if ch = ',' then s.flowEntry
  else if ch = '-' && c.isSpaceAt 1 then s.blockEntry
  else if ch = '?' && separate then s.explicitKey
  else if ch = ':' && separate then s.value
  else if ch = '*' then
    s.keyToken fun c => (readAnchorName c).map fun (name, c) => (.alias name, c)
  else if ch = '&' then
    s.keyToken fun c => (readAnchorName c).map fun (name, c) => (.anchor name, c)
  else if ch = '!' then s.keyToken (readTag s.inFlow)
  else if ch = '|' && !s.inFlow then s.blockScalar false
  else if ch = '>' && !s.inFlow then s.blockScalar true
  else if ch = '\'' || ch = '"' then
    s.keyToken fun c => (readQuoted ch c).map fun (text, c) =>
      (.scalar (String.ofList text) false, c)
  else if s.startsPlain ch then s.plainScalar
  else none

/-- Ends the text: closes every block, and a required key must not be left open. -/
def finish (s : Scanner) : Option (Array Token) :=
  (s.closeBlocks (-1)).dropKey.map Scanner.tokens

/-- Reads tokens to the end of the text. Every token uses up a character, so `fuel` is not short if
it starts above the length of the text. -/
def run : (fuel : Nat) → Scanner → Option (Array Token)
  | 0, _ => none
  | fuel + 1, s => match s.skipGap.dropStale with
    | none => none
    | some s =>
      let s := s.closeBlocks s.cursor.column
      match s.cursor.head? with
      | none => s.finish
      | some ch => match s.token ch with
        | none => none
        | some s => run fuel s

end Scanner

/-- The tokens of a text that holds allowed characters only. -/
def tokens? (text : List Char) : Option (List Token) :=
  if text.all isAllowed then
    (Scanner.run (text.length + 1) (Scanner.start text)).map Array.toList
  else none

end LayeredConfig.Yaml
