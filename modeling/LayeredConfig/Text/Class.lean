import LayeredConfig.Text.Table.Alphabetic
import LayeredConfig.Text.Table.Numeric
import LayeredConfig.Text.Table.Whitespace
import LayeredConfig.Text.Table.GraphemeExtend
import LayeredConfig.Text.Table.Unprintable
import LayeredConfig.Text.Table.Cased
import LayeredConfig.Text.Table.CaseIgnorable

/-!
# Character classes

The classes of characters that readers and printers of the library ask for, each a range table or a
short list of ranges. `trim` removes white space at both ends of a text.
-/

namespace LayeredConfig.Text

/-- Membership in a list of closed ranges that stand in increasing order. -/
def inRanges (n : Nat) : List (Nat × Nat) → Bool
  | [] => false
  | (first, last) :: rest => if n < first then false else n ≤ last || inRanges n rest

/-- A character of the Unicode property White_Space. -/
def isBlank (c : Char) : Bool := inRanges c.toNat Table.whitespace

/-- A character of the Unicode property Alphabetic. -/
def isAlphabetic (c : Char) : Bool := inRanges c.toNat Table.alphabetic

/-- A letter, or a number of any script. -/
def isAlphanumeric (c : Char) : Bool := isAlphabetic c || inRanges c.toNat Table.numeric

/-- A character that attaches to the one before it. -/
def isGraphemeExtend (c : Char) : Bool := inRanges c.toNat Table.graphemeExtend

/-- The letters of the Hangul blocks that fill a place and show nothing. -/
def hangulFillers : List (Nat × Nat) := [(0x115f, 0x1160), (0x3164, 0x3164), (0xffa0, 0xffa0)]

/-- A character with a printed form of its own; of the white space only the space has one. -/
def isPrintable (c : Char) : Bool :=
  !inRanges c.toNat Table.unprintable && !inRanges c.toNat hangulFillers

/-- A character that has or is an upper or lower case form. -/
def isCased (c : Char) : Bool := inRanges c.toNat Table.cased

/-- A character that case rules look through. -/
def isCaseIgnorable (c : Char) : Bool := inRanges c.toNat Table.caseIgnorable

/-- One of the ten digits `0` to `9`. -/
def isDigit (c : Char) : Bool := '0' ≤ c && c ≤ '9'

/-- The value of a digit `0` to `9`. -/
def digitValue (c : Char) : Nat := c.toNat - '0'.toNat

/-- The value of a hexadecimal digit of either case. -/
def hexValue? (c : Char) : Option Nat :=
  if isDigit c then some (digitValue c)
  else if 'a' ≤ c && c ≤ 'f' then some (c.toNat - 'a'.toNat + 10)
  else if 'A' ≤ c && c ≤ 'F' then some (c.toNat - 'A'.toNat + 10)
  else none

/-- The text without white space at its two ends. -/
def trimChars (s : List Char) : List Char :=
  ((s.dropWhile isBlank).reverse.dropWhile isBlank).reverse

/-- The text without white space at its two ends. -/
def trim (s : String) : String := String.ofList (trimChars s.toList)

/-- The lower case of the letters `A` to `Z`; every other character stays. -/
def asciiLower (s : String) : String := String.ofList (s.toList.map Char.toLower)

end LayeredConfig.Text
