import LayeredConfig.Text.Class
import LayeredConfig.Text.Utf8

/-!
# Text encodings

Three ways to write a text as bytes. `encode` fails at the first character the encoding has no bytes
for, and `decode?` accepts exactly the byte sequences that `encode` can produce.
-/

namespace LayeredConfig

/-- A text encoding. -/
inductive Encoding where
  | ascii
  | utf8
  | latin1
deriving DecidableEq, Repr

namespace Encoding

/-- The common name of an encoding. -/
def name : Encoding → String
  | ascii => "ascii"
  | utf8 => "utf-8"
  | latin1 => "latin-1"

/-- The identifier of an encoding in descriptions. -/
def describe : Encoding → String
  | ascii => "Ascii"
  | utf8 => "Utf8"
  | latin1 => "Latin1"

/-- The names by which an encoding is found, in lower case and with hyphens. -/
def aliases : List (String × Encoding) :=
  [("ascii", ascii), ("us-ascii", ascii), ("utf-8", utf8), ("utf8", utf8), ("latin-1", latin1),
   ("latin1", latin1), ("iso-8859-1", latin1)]

/-- The encoding of a name in any case, with underscores or hyphens. -/
def ofName? (name : String) : Option Encoding :=
  let hyphened := (Text.asciiLower name).toList.map fun c => if c = '_' then '-' else c
  aliases.lookup (String.ofList hyphened)

/-- The bytes of characters whose code points are below `limit`, or the first other character. -/
def encodeBelow (limit : Nat) : List Char → Except Char (List UInt8)
  | [] => .ok []
  | c :: rest =>
    if c.toNat < limit then (encodeBelow limit rest).map (UInt8.ofNat c.toNat :: ·) else .error c

/-- The bytes of a text, or the first character that has none. -/
def encode (e : Encoding) (s : String) : Except Char (List UInt8) :=
  match e with
  | ascii => encodeBelow 0x80 s.toList
  | utf8 => .ok (Text.Utf8.encode s)
  | latin1 => encodeBelow 0x100 s.toList

/-- The text whose characters have the bytes as code points. -/
def decodeBytes (bytes : List UInt8) : String :=
  String.ofList (bytes.map fun b => Char.ofNat b.toNat)

/-- The text of bytes, if they are well-formed. -/
def decode? (e : Encoding) (bytes : List UInt8) : Option String :=
  match e with
  | ascii => if bytes.all (· < 0x80) then some (decodeBytes bytes) else none
  | utf8 => Text.Utf8.decode? bytes
  | latin1 => some (decodeBytes bytes)

end Encoding

end LayeredConfig
