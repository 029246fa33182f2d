import LayeredConfig.Text.Class

/-!
# A place in a YAML text

A cursor is what is left of a text together with the place reached: the number of bytes read, the
line and the column. Columns decide the block structure, and a simple key must end on its line.
-/

namespace LayeredConfig.Yaml

open LayeredConfig.Text (isDigit)

/-- A place in a text. -/
structure Cursor where
  rest : List Char
  index : Nat
  line : Nat
  column : Nat

/-- A character that a YAML text may hold. -/
def isAllowed (c : Char) : Bool :=
  let n := c.toNat
  n = 9 || n = 10 || n = 13 || (0x20 ≤ n && n ≤ 0x7e) || n = 0x85 || (0xa0 ≤ n && n ≤ 0xd7ff) ||
    (0xe000 ≤ n && n ≤ 0xfffd) || 0x10000 ≤ n

/-- A line break, alone or as the first of two characters. -/
def isBreak (c : Char) : Bool :=
  c = '\n' || c = '\r' || c.toNat = 0x85 || c.toNat = 0x2028 || c.toNat = 0x2029

/-- A blank inside a line. -/
def isBlank (c : Char) : Bool := c = ' ' || c = '\t'

/-- A character of names: anchors, tag handles and directives. -/
def isNamePart (c : Char) : Bool :=
  isDigit c || ('a' ≤ c && c ≤ 'z') || ('A' ≤ c && c ≤ 'Z') || c = '_' || c = '-'

/-- The mark that may stand before the first character of a line. -/
def byteOrderMark : Char := Char.ofNat 0xfeff

namespace Cursor

/-- The beginning of a text. -/
def start (text : List Char) : Cursor := ⟨text, 0, 0, 0⟩

/-- The next character. -/
def head? (c : Cursor) : Option Char := c.rest.head?

/-- The character after `n` others. -/
def get? (c : Cursor) (n : Nat) : Option Char := c.rest[n]?

/-- Whether this character comes next. -/
def sees (c : Cursor) (ch : Char) : Bool := c.head? == some ch

/-- Whether one of these characters comes next. -/
def seesOneOf (c : Cursor) (chars : List Char) : Bool := c.head?.any chars.contains

/-- Whether a line break comes next. -/
def seesBreak (c : Cursor) : Bool := c.head?.any isBreak

/-- Whether a blank comes next. -/
def seesBlank (c : Cursor) : Bool := c.head?.any isBlank

/-- Whether the character after `n` others is a blank, a line break or the end of the text. -/
def isSpaceAt (c : Cursor) (n : Nat) : Bool :=
  match c.get? n with
  | none => true
  | some ch => isBlank ch || isBreak ch

/-- The number of bytes of characters. -/
def byteLength (chars : List Char) : Nat := chars.foldl (fun n ch => n + ch.utf8Size) 0

/-- The place after `n` characters of the line. -/
def advance (c : Cursor) (n : Nat) : Cursor :=
  { c with rest := c.rest.drop n, index := c.index + byteLength (c.rest.take n),
           column := c.column + n }

/-- The characters of the line that satisfy `p`, and the place after them. -/
def takeWhile (c : Cursor) (p : Char → Bool) : List Char × Cursor :=
  let taken := c.rest.takeWhile p
  (taken, c.advance taken.length)

/-- The place after the characters of the line that satisfy `p`. -/
def dropWhile (c : Cursor) (p : Char → Bool) : Cursor := (c.takeWhile p).2

/-- The place after the rest of the line. -/
def dropLine (c : Cursor) : Cursor := c.dropWhile fun ch => !isBreak ch

/-- Takes a line break off the text, with the characters that it adds to a scalar: a line feed, or
itself if it separates lines or paragraphs. -/
def takeBreak (c : Cursor) : List Char × Cursor :=
  match c.rest with
  | '\r' :: '\n' :: rest => (['\n'], ⟨rest, c.index + 2, c.line + 1, 0⟩)
  | ch :: rest =>
    if isBreak ch then
      let text := if ch.toNat = 0x2028 || ch.toNat = 0x2029 then [ch] else ['\n']
      (text, ⟨rest, c.index + ch.utf8Size, c.line + 1, 0⟩)
    else ([], c)
  | [] => ([], c)

/-- Whether three times this character stands alone at the beginning of the line. -/
def atTriple (c : Cursor) (ch : Char) : Bool :=
  c.column = 0 && c.rest.take 3 == [ch, ch, ch] && c.isSpaceAt 3

/-- Whether a marker between documents stands here. -/
def atMarker (c : Cursor) : Bool := c.atTriple '-' || c.atTriple '.'

/-- The place after blanks, an optional comment and the line break; `none` if anything else stands
there. -/
def endLine? (c : Cursor) : Option Cursor :=
  let c := c.dropWhile isBlank
  let c := if c.sees '#' then c.dropLine else c
  if c.seesBreak then some c.takeBreak.2
  else if c.rest.isEmpty then some c
  else none

end Cursor

end LayeredConfig.Yaml
