import LayeredConfig.Value.Basic
import LayeredConfig.Decimal.Layout
import LayeredConfig.Text.Quoted
import LayeredConfig.Text.Utf8

/-!
# The text of a value

`text` is the form in which a value is read by people and turned into a string: no quotes, numbers
in positional form. `describe` names the kind of every part and quotes strings, so that two values
of different kinds never look alike.
-/

namespace LayeredConfig.Value

mutual

/-- The text of a value. -/
def text : Value → String
  | null => "null"
  | bool b => if b then "true" else "false"
  | integer i => Decimal.ofInteger i
  | float x => Decimal.plain x
  | string s => s
  | bytes b => Text.Utf8.decodeLossy b
  | array items => "[" ++ ", ".intercalate (itemTexts items) ++ "]"
  | map entries => "\x7b" ++ ", ".intercalate (entryTexts entries) ++ "\x7d"

/-- The texts of the items. -/
def itemTexts : List Value → List String
  | [] => []
  | v :: vs => v.text :: itemTexts vs

/-- The texts of the entries, each `key: value`. -/
def entryTexts : List (String × Value) → List String
  | [] => []
  | (k, v) :: es => (k ++ ": " ++ v.text) :: entryTexts es

end

mutual

/-- The kind and content of a value. -/
def describe : Value → String
  | null => "Null"
  | bool b => "Bool(" ++ (if b then "true" else "false") ++ ")"
  | integer i => "Integer(" ++ Decimal.ofInteger i ++ ")"
  | float x => "Float(" ++ Decimal.detailed x ++ ")"
  | string s => "String(" ++ Text.quoted s ++ ")"
  | bytes b => "Bytes([" ++ ", ".intercalate (b.map fun n => toString n.toNat) ++ "])"
  | array items => "Array([" ++ ", ".intercalate (describeItems items) ++ "])"
  | map entries => "Map(\x7b" ++ ", ".intercalate (describeEntries entries) ++ "\x7d)"

/-- The descriptions of the items. -/
def describeItems : List Value → List String
  | [] => []
  | v :: vs => v.describe :: describeItems vs

/-- The descriptions of the entries, each a quoted key and a value. -/
def describeEntries : List (String × Value) → List String
  | [] => []
  | (k, v) :: es => (Text.quoted k ++ ": " ++ v.describe) :: describeEntries es

end

end LayeredConfig.Value
