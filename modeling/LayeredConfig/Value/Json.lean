import LayeredConfig.Json.Document
import LayeredConfig.Value.Basic
import LayeredConfig.Binary64
import LayeredConfig.Integer

/-!
# Values and JSON documents

`ofJson` reads a document as a value: a number that a signed 64-bit integer can hold is one, every
other number is a float. `toJson` writes a value as a document: bytes become a sequence of
integers, and floats that are not finite become null.
-/

namespace LayeredConfig.Value

/-- The value of a JSON number. -/
def ofJsonNumber : Json.Number → Value
  | .unsigned n => match Integer.ofInt? n.toNat with
    | some i => integer i
    | none => float (Binary64.ofInt n.toNat)
  | .negative n => integer n
  | .real x => float x

mutual

/-- The value of a JSON document. -/
def ofJson : Json → Value
  | .null => null
  | .bool b => bool b
  | .number n => ofJsonNumber n
  | .string s => string s
  | .array items => array (ofJsonItems items)
  | .object members => map (ofJsonMembers members)

/-- The values of the items. -/
def ofJsonItems : List Json → List Value
  | [] => []
  | item :: items => ofJson item :: ofJsonItems items

/-- The values of the members, under the same keys. -/
def ofJsonMembers : List (String × Json) → List (String × Value)
  | [] => []
  | (key, item) :: members => (key, ofJson item) :: ofJsonMembers members

end

/-- The JSON number of an integer. -/
def jsonInteger (i : Int64) : Json.Number :=
  if i < 0 then .negative i else .unsigned (UInt64.ofNat i.toInt.toNat)

mutual

/-- The JSON document of a value. -/
def toJson : Value → Json
  | null => .null
  | bool b => .bool b
  | integer i => .number (jsonInteger i)
  | float x => if Binary64.isFinite x then .number (.real x) else .null
  | string s => .string s
  | bytes b => .array (b.map fun n => .number (.unsigned n.toUInt64))
  | array items => .array (toJsonItems items)
  | map entries => .object (toJsonMembers entries)

/-- The documents of the items. -/
def toJsonItems : List Value → List Json
  | [] => []
  | v :: vs => v.toJson :: toJsonItems vs

/-- The documents of the entries, under the same keys. -/
def toJsonMembers : List (String × Value) → List (String × Json)
  | [] => []
  | (key, v) :: es => (key, v.toJson) :: toJsonMembers es

end

end LayeredConfig.Value
