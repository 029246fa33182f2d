import LayeredConfig.Entries

/-!
# Configuration values

A value is a scalar, a byte string, a sequence or a map with text keys. `same` is equality of two
values entry by entry; it differs from identity in the floats, where no number is unlike itself and
the two zeros are alike. `at?` follows a path of keys through nested maps.
-/

namespace LayeredConfig

/-- A configuration value. The entries of a map are in key order. -/
inductive Value where
  | null
  | bool (value : Bool)
  | integer (value : Int64)
  | float (value : Float)
  | string (value : String)
  | bytes (value : List UInt8)
  | array (items : List Value)
  | map (entries : List (String × Value))

namespace Value

instance : Inhabited Value := ⟨null⟩

/-- The map without entries. -/
def empty : Value := map []

/-- The short name of a value's kind. -/
def kind : Value → String
  | null => "null"
  | bool _ => "bool"
  | integer _ => "integer"
  | float _ => "float"
  | string _ => "string"
  | bytes _ => "bytes"
  | array _ => "array"
  | map _ => "map"

/-- Whether a condition takes the value for true: neither empty nor zero. -/
def isTruthy : Value → Bool
  | null => false
  | bool b => b
  | integer i => i != 0
  | float x => x != 0.0
  | string s => !s.isEmpty
  | bytes b => !b.isEmpty
  | array items => !items.isEmpty
  | map entries => !entries.isEmpty

/-- Whether the value is a map. -/
def isMap : Value → Bool
  | map _ => true
  | _ => false

/-- The value of a string. -/
def string? : Value → Option String
  | string s => some s
  | _ => none

/-- The value of an integer. -/
def integer? : Value → Option Int64
  | integer i => some i
  | _ => none

/-- The entries of a map. -/
def entries? : Value → Option (Entries Value)
  | map entries => some entries
  | _ => none

mutual

/-- Whether two values are alike: of one kind, with equal scalars, items and entries. -/
def same : Value → Value → Bool
  | null, null => true
  | bool a, bool b => a == b
  | integer a, integer b => a == b
  | float a, float b => a == b
  | string a, string b => a == b
  | bytes a, bytes b => a == b
  | array a, array b => sameItems a b
  | map a, map b => sameEntries a b
  | _, _ => false

/-- Whether two sequences are alike item by item. -/
def sameItems : List Value → List Value → Bool
  | [], [] => true
  | a :: as, b :: bs => a.same b && sameItems as bs
  | _, _ => false

/-- Whether two maps have the same keys with values that are alike. -/
def sameEntries : List (String × Value) → List (String × Value) → Bool
  | [], [] => true
  | (j, a) :: as, (k, b) :: bs => j == k && a.same b && sameEntries as bs
  | _, _ => false

end

mutual

/-- Every map in the value has its keys in order. -/
def Ordered : Value → Prop
  | array items => OrderedItems items
  | map entries => Entries.Sorted entries ∧ OrderedEntries entries
  | _ => True

/-- Every item is ordered. -/
def OrderedItems : List Value → Prop
  | [] => True
  | v :: vs => v.Ordered ∧ OrderedItems vs

/-- The value of every entry is ordered. -/
def OrderedEntries : List (String × Value) → Prop
  | [] => True
  | (_, v) :: es => v.Ordered ∧ OrderedEntries es

end

/-- The value reached by a path of keys through nested maps. -/
def at? : Value → List String → Option Value
  | v, [] => some v
  | map entries, key :: path => match Entries.get? key entries with
    | some v => at? v path
    | none => none
  | _, _ :: _ => none

end Value

end LayeredConfig
