/-!
# YAML tokens

The tokens of a YAML text. Block structure, which the text shows by indentation, is explicit in
them: every block is opened and closed, and every key is announced.
-/

namespace LayeredConfig.Yaml

/-- The bytes of a tag. Escapes may write any of them, so they need not make up a text. -/
abbrev TagBytes := List UInt8

/-- A token of a YAML text. -/
inductive Token where
  | versionDirective (major minor : Nat)
  | tagDirective (handle : String) (expansion : TagBytes)
  | documentStart
  | documentEnd
  | blockSequenceStart
  | blockMappingStart
  | blockEnd
  | flowSequenceStart
  | flowSequenceEnd
  | flowMappingStart
  | flowMappingEnd
  | blockEntry
  | flowEntry
  | key
  | value
  | alias (name : String)
  | anchor (name : String)
  | tag (handle : String) (suffix : TagBytes)
  | scalar (text : String) (plain : Bool)
deriving DecidableEq, Repr

end LayeredConfig.Yaml
