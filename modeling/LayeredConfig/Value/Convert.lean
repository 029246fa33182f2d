import LayeredConfig.Binary64
import LayeredConfig.Integer
import LayeredConfig.Text.Class

/-!
# Conversions between scalars

The rules by which casts and descriptors make one scalar of another: which floats have an integer part
of 64 bits, and which words say yes or no. Casts look at the magnitude of a float itself and descriptors
at that of its integer part, and to casts a blank word says no too.
-/

namespace LayeredConfig.Convert

/-- The integer part of a float whose magnitude is below `2 ^ 63`. -/
def integerOfSmall? (x : Float) : Option Int64 :=
  if Binary64.magnitudeBelow 0x8000000000000000 x then (Binary64.truncate? x).map Int64.ofInt
  else none

/-- The integer part of a float, if the magnitude of that part is below `2 ^ 63`. -/
def integerOfFloat? (x : Float) : Option Int64 :=
  match Binary64.truncate? x with
  | some n => if n.natAbs < 0x8000000000000000 then some (Int64.ofInt n) else none
  | none => none

/-- The integer of a truth value. -/
def integerOfBool (b : Bool) : Int64 := if b then 1 else 0

/-- The words for yes. -/
def yesWords : List String := ["true", "yes", "on", "1"]

/-- The words for no. -/
def noWords : List String := ["false", "no", "off", "0"]

/-- The words for no, and the one without characters. -/
def noOrBlankWords : List String := ["false", "no", "off", "0", ""]

/-- The form in which a word is compared: without white space around it, in lower case. -/
def normalWord (s : String) : String := Text.asciiLower (Text.trim s)

/-- The truth value of a word in normal form, where the words `no` say no. -/
def boolOfWord? (no : List String) (word : String) : Option Bool :=
  if yesWords.contains word then some true
  else if no.contains word then some false
  else none

end LayeredConfig.Convert
