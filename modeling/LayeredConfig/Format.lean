import LayeredConfig.Json.Reader
import LayeredConfig.Toml.Reader
import LayeredConfig.Value.Json
import LayeredConfig.Value.Toml
import LayeredConfig.Value.Yaml
import LayeredConfig.World.Path
import LayeredConfig.Yaml.Reader

/-!
# Configuration formats

The three formats in which a configuration may be written, and sets of them. `parse` reads any
document, `parseMapping` only one whose root is a map.
-/

namespace LayeredConfig

/-- A format of configuration texts. -/
inductive Format where
  | json
  | yaml
  | toml
deriving DecidableEq, Repr

/-- Why a text cannot be used. -/
inductive ParseFault where
  | malformed
  | notAMapping (kind : String)
deriving DecidableEq, Repr

namespace Format

/-- Every format, in the order in which they are tried. -/
def priority : List Format := [json, yaml, toml]

/-- The name of a format. -/
def name : Format → String
  | json => "JSON"
  | yaml => "YAML"
  | toml => "TOML"

/-- The names by which a format is found, in lower case. -/
def aliases : List (String × Format) :=
  [("json", json), ("yaml", yaml), ("yml", yaml), ("toml", toml)]

/-- The format of a name in any case. -/
def ofName? (name : String) : Option Format := aliases.lookup (Text.asciiLower name)

/-- The format that the extension of a path names. -/
def ofPath? (path : String) : Option Format := (Path.extension? path).bind ofName?

/-- Reads a text. -/
def parse (f : Format) (text : String) : Option Value :=
  match f with
  | json => (Json.read? text).map Value.ofJson
  | yaml => (Yaml.read? text).map Value.ofYaml
  | toml => (Toml.read? text).map fun entries => .map (Value.ofTomlEntries [] entries)

/-- Reads a text whose root is a map. -/
def parseMapping (f : Format) (text : String) : Except ParseFault Value :=
  match f.parse text with
  | none => .error .malformed
  | some v => if v.isMap then .ok v else .error (.notAMapping v.kind)

end Format

/-- The wording of a fault, where the library words it itself. -/
def ParseFault.message? : ParseFault → Option String
  | malformed => none
  | notAMapping kind => some ("expected a mapping, got " ++ kind)

/-- A set of formats. -/
structure FormatSet where
  json : Bool
  yaml : Bool
  toml : Bool
deriving DecidableEq, Repr

namespace FormatSet

/-- Every format. -/
def all : FormatSet := ⟨true, true, true⟩

/-- No format. -/
def none : FormatSet := ⟨false, false, false⟩

/-- Adds a format. -/
def add (s : FormatSet) : Format → FormatSet
  | .json => { s with json := true }
  | .yaml => { s with yaml := true }
  | .toml => { s with toml := true }

/-- The set of some formats. -/
def ofList (formats : List Format) : FormatSet := formats.foldl add none

/-- Whether a format belongs to the set. -/
def contains (s : FormatSet) : Format → Bool
  | .json => s.json
  | .yaml => s.yaml
  | .toml => s.toml

/-- The formats of the set, in the order in which they are tried. -/
def toList (s : FormatSet) : List Format := Format.priority.filter s.contains

end FormatSet

end LayeredConfig
