import LayeredConfig.Integer
import LayeredConfig.Value.Text
import LayeredConfig.Yaml.Document

/-!
# Values of YAML documents

Tags are dropped, and a key that is no string becomes its text. Keys of one text collapse into one
entry, that of the last.
-/

namespace LayeredConfig.Value

/-- The value of a YAML number. -/
def ofYamlNumber : Yaml.Number → Value
  | .unsigned n => match Integer.ofInt? n.toNat with
    | some i => integer i
    | none => float (Binary64.ofInt n.toNat)
  | .negative n => integer n
  | .real x => float x

/-- The text of a key. -/
def keyText : Value → String
  | string s => s
  | v => v.text

mutual

/-- The value of a YAML document. -/
def ofYaml : Yaml → Value
  | .null => null
  | .bool b => bool b
  | .number n => ofYamlNumber n
  | .string s => string s
  | .sequence items => array (ofYamlItems items)
  | .mapping entries => map (ofYamlEntries [] entries)
  | .tagged _ value => ofYaml value

/-- The values of the items. -/
def ofYamlItems : List Yaml → List Value
  | [] => []
  | item :: items => ofYaml item :: ofYamlItems items

/-- The values of the entries under the texts of their keys, beside those of `done`. -/
def ofYamlEntries (done : List (String × Value)) : List (Yaml × Yaml) → List (String × Value)
  | [] => done
  | (key, item) :: entries =>
    ofYamlEntries (Entries.insert (keyText (ofYaml key)) (ofYaml item) done) entries

end

end LayeredConfig.Value
