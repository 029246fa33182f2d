import LayeredConfig.Entries

/-!
# JSON documents

A JSON text read into a tree. Numbers keep the form in which they can be exact: unsigned or signed
64-bit integers, or binary64.
-/

namespace LayeredConfig

/-- A JSON number. -/
inductive Json.Number where
  | unsigned (value : UInt64)
  | negative (value : Int64)
  | real (value : Float)

/-- A JSON document. The members of an object are in key order. -/
inductive Json where
  | null
  | bool (value : Bool)
  | number (value : Json.Number)
  | string (value : String)
  | array (items : List Json)
  | object (members : List (String × Json))

namespace Json

instance : Inhabited Json := ⟨null⟩

/-- The name of a document's kind. -/
def kind : Json → String
  | null => "null"
  | bool _ => "bool"
  | number _ => "number"
  | string _ => "string"
  | array _ => "array"
  | object _ => "object"

/-- The value of a string. -/
def string? : Json → Option String
  | string s => some s
  | _ => none

/-- The items of an array. -/
def items? : Json → Option (List Json)
  | array items => some items
  | _ => none

/-- The members of an object. -/
def members? : Json → Option (Entries Json)
  | object members => some members
  | _ => none

end Json

end LayeredConfig
