import LayeredConfig.Yaml.Cursor
import LayeredConfig.Yaml.Token
import LayeredConfig.Text.Utf8

/-!
# Tags, anchors and directives

The parts of a YAML text that begin with `!`, `&`, `*` or `%`. An escaped zero byte ends what a tag
says, though not its place in the text.
-/

namespace LayeredConfig.Yaml

open LayeredConfig.Text (isDigit digitValue hexValue?)

/-- A character of the suffix of a tag other than an escape; a verbatim tag may also hold commas and
square brackets. -/
def isTagPart (verbatim : Bool) (c : Char) : Bool :=
  isNamePart c || ";/?:@&=+$.!~*'()".toList.contains c || (verbatim && ",[]".toList.contains c)

/-- The number of bytes of a character that begins with this byte. -/
def sequenceLength? (b : UInt8) : Option Nat :=
  if b < 0x80 then some 1
  else if 0xc0 ≤ b && b < 0xe0 then some 2
  else if 0xe0 ≤ b && b < 0xf0 then some 3
  else if 0xf0 ≤ b && b < 0xf8 then some 4
  else none

/-- Reads one escaped byte. -/
def readEscapedByte : List Char → Option (UInt8 × List Char)
  | '%' :: i :: j :: rest => match hexValue? i, hexValue? j with
    | some i, some j => some (UInt8.ofNat (16 * i + j), rest)
    | _, _ => none
  | _ => none

/-- Reads the escaped bytes that continue a character. -/
def readContinuation : Nat → List UInt8 → List Char → Option (List UInt8 × List Char)
  | 0, done, s => some (done.reverse, s)
  | n + 1, done, s => match readEscapedByte s with
    | some (b, rest) =>
      if Text.Utf8.isContinuation b then readContinuation n (b :: done) rest else none
    | none => none

/-- Reads the escaped bytes of one character. -/
def readEscapedChar (s : List Char) : Option (List UInt8 × List Char) :=
  match readEscapedByte s with
  | some (b, rest) => match sequenceLength? b with
    | some n => readContinuation (n - 1) [b] rest
    | none => none
  | none => none

/-- Reads the characters of a tag as bytes. -/
def readTagBytes (verbatim : Bool) :
    (fuel : Nat) → (done : List UInt8) → List Char → Option (List UInt8 × List Char)
  | 0, done, s => some (done, s)
  | _ + 1, done, [] => some (done, [])
  | fuel + 1, done, c :: rest =>
    if c = '%' then match readEscapedChar (c :: rest) with
      | some (bytes, rest) => readTagBytes verbatim fuel (done ++ bytes) rest
      | none => none
    else if isTagPart verbatim c then
      readTagBytes verbatim fuel (done ++ Text.Utf8.encode c.toString) rest
    else some (done, c :: rest)

/-- Reads the characters of a tag; there must be one. `head` is what was read of it before. -/
def readTagText (verbatim : Bool) (head : String) (c : Cursor) : Option (TagBytes × Cursor) :=
  match readTagBytes verbatim c.rest.length (Text.Utf8.encode head) c.rest with
  | some (bytes, rest) =>
    if bytes.isEmpty then none
    else some (bytes.takeWhile (· ≠ 0), c.advance (c.rest.length - rest.length))
  | none => none

/-- Reads a tag handle: an exclamation mark, and possibly a name and another one. -/
def readHandle (c : Cursor) : Option (String × Cursor) :=
  if c.sees '!' then
    let (name, c) := (c.advance 1).takeWhile isNamePart
    if c.sees '!' then some ("!" ++ String.ofList name ++ "!", c.advance 1)
    else some ("!" ++ String.ofList name, c)
  else none

/-- Whether a handle ends with a second exclamation mark. -/
def isNamedHandle (handle : String) : Bool :=
  let s := handle.toList
  2 ≤ s.length && s.getLast? = some '!'

/-- The single exclamation mark, which is a tag without a handle. -/
def bareTag : Token := .tag "" (Text.Utf8.encode "!")

/-- Reads a tag from its exclamation mark on: verbatim in angle brackets, with a named handle, or
with the handle `!`. -/
def readTag (flow : Bool) (c : Cursor) : Option (Token × Cursor) :=
  let read :=
    if c.get? 1 = some '<' then match readTagText true "" (c.advance 2) with
      | some (suffix, c) =>
        if c.sees '>' then some (Token.tag "" suffix, c.advance 1) else none
      | none => none
    else match readHandle c with
      | none => none
      | some (handle, rest) =>
        if isNamedHandle handle then
          (readTagText false "" rest).map fun (suffix, c) => (Token.tag handle suffix, c)
        else
          let name := String.ofList (handle.toList.drop 1)
          if name.isEmpty && !(rest.head?.any fun ch => ch = '%' || isTagPart false ch) then
            some (bareTag, rest)
          else (readTagText false name rest).map fun (suffix, c) =>
            (if suffix.isEmpty then bareTag else Token.tag "!" suffix, c)
  match read with
  | some (token, c) =>
    if c.isSpaceAt 0 || (flow && c.sees ',') then some (token, c) else none
  | none => none

/-- Reads the name of an anchor or alias, which an indicator may end. -/
def readAnchorName (c : Cursor) : Option (String × Cursor) :=
  let (name, c) := (c.advance 1).takeWhile isNamePart
  let ended := c.isSpaceAt 0 || c.seesOneOf ['?', ':', ',', ']', '\x7d', '%', '@', Char.ofNat 0x60]
  if name.isEmpty || !ended then none else some (String.ofList name, c)

/-- Reads a number of a version, of at most nine digits. -/
def readVersionNumber (c : Cursor) : Option (Nat × Cursor) :=
  let (digits, c) := c.takeWhile isDigit
  if digits.isEmpty || 9 < digits.length then none
  else some (digits.foldl (fun n d => 10 * n + digitValue d) 0, c)

/-- Reads the two numbers of a version. -/
def readVersion (c : Cursor) : Option (Token × Cursor) :=
  match readVersionNumber (c.dropWhile isBlank) with
  | some (major, c) =>
    if c.sees '.' then
      (readVersionNumber (c.advance 1)).map fun (minor, c) => (.versionDirective major minor, c)
    else none
  | none => none

/-- Reads a handle and what it stands for. -/
def readTagDirective (c : Cursor) : Option (Token × Cursor) :=
  match readHandle (c.dropWhile isBlank) with
  | some (handle, c) =>
    if (handle = "!" || isNamedHandle handle) && c.seesBlank then
      match readTagText true "" (c.dropWhile isBlank) with
      | some (expansion, c) =>
        if c.isSpaceAt 0 then some (.tagDirective handle expansion, c) else none
      | none => none
    else none
  | none => none

/-- Reads a directive from its percent sign on, to the end of its line. -/
def readDirective (c : Cursor) : Option (Token × Cursor) :=
  let (name, c) := (c.advance 1).takeWhile isNamePart
  let name := String.ofList name
  let read :=
    if !c.isSpaceAt 0 then none
    else if name = "YAML" then readVersion c
    else if name = "TAG" then readTagDirective c
    else none
  match read with
  | some (token, c) => c.endLine?.map fun c => (token, c)
  | none => none

end LayeredConfig.Yaml
