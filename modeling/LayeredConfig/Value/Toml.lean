import LayeredConfig.Entries
import LayeredConfig.Toml.Document
import LayeredConfig.Value.Basic

/-!
# Values of TOML documents

Dates and times become their texts, and tables become maps in key order.
-/

namespace LayeredConfig.Value

mutual

/-- The value of a TOML value. -/
def ofToml : Toml → Value
  | .string s => string s
  | .integer i => integer i
  | .float x => float x
  | .bool b => bool b
  | .datetime d => string d.text
  | .array items => array (ofTomlItems items)
  | .table entries => map (ofTomlEntries [] entries)

/-- The values of the items. -/
def ofTomlItems : List Toml → List Value
  | [] => []
  | item :: items => ofToml item :: ofTomlItems items

/-- The values of the entries under the same keys, beside those of `done`. -/
def ofTomlEntries (done : List (String × Value)) : List (String × Toml) → List (String × Value)
  | [] => done
  | (key, item) :: entries => ofTomlEntries (Entries.insert key (ofToml item) done) entries

end

end LayeredConfig.Value
