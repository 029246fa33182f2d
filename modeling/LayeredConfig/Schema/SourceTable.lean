import LayeredConfig.Schema.Arguments

/-!
# Source types

A schema names the type of each source, and a table maps type names to constructors. A constructor
takes what it needs from the arguments of the node; the loader refuses what it leaves. The names of
the casts are reserved.
-/

namespace LayeredConfig

/-- The types that stand for casts. -/
def castTypes : List String := ["lambda", "binary", "import"]

/-- Builds a source from the arguments of a schema node. -/
abbrev Constructor := Taking Source

namespace Constructor

open Taking

/-! ## Parameters that several types share -/

/-- Takes the encoding of a file, by default UTF-8. -/
def encoding (index : Option Nat) : Taking Encoding := do
  match ← text index "encoding" with
  | none => return .utf8
  | some name => match Encoding.ofName? name with
    | some e => return e
    | none => throw (.unknownEncoding name)

/-- The formats that the items of a list name. -/
def formatNames? : Value → Option (List Format)
  | .array items => items.mapM fun item => item.string?.bind Format.ofName?
  | _ => none

/-- Takes the formats in which a file may be written, by default all. -/
def formats (index : Option Nat) : Taking FormatSet := do
  match ← value index "formats" with
  | none => return .all
  | some v => match formatNames? v with
    | some names => return .ofList names
    | none => failInvalid "formats" .formatNames

/-- Takes what to do when a part fails, by default to fail. -/
def onFail (index : Option Nat) : Taking OnFail := do
  match ← text index "on_fail" with
  | none => return .raise
  | some name => match OnFail.ofName? name with
    | some policy => return policy
    | none => failInvalid "on_fail" .policy

/-! ## The source types -/

/-- A fixed value. -/
def static : Constructor := do
  return .static (← requireValue (some 0) "config")

/-- An environment variable, with a key that is its name by default. The cast applies to the text of
the variable only, and not to the default. -/
def environment : Constructor := do
  let name ← requireText (some 0) "env_name"
  let key ← text (some 1) "config_name"
  let default ← value (some 2) "default"
  let change ← takeCastTo
  return .environment name (key.getD name) default change

/-- Several environment variables. The cast applies to each of them. -/
def environmentMap : Constructor := do
  let names ← texts 0 "names"
  let change ← takeCastTo
  return .environmentMap names change

/-- A file. -/
def file : Constructor := do
  let path ← requireText (some 0) "path"
  let encoding ← encoding (some 1)
  let formats ← formats (some 2)
  return .file path encoding formats

/-- A directory. -/
def directory : Constructor := do
  let path ← requireText (some 0) "path"
  let encoding ← encoding (some 1)
  let formats ← formats (some 2)
  let onFail ← onFail (some 4)
  let deep ← bool (some 3) "scan_subdirectories"
  return .directory path encoding formats (deep.getD true) onFail

/-- Several sources, of which the first that does not fail counts. -/
def alternatives : Constructor := do
  return .alternatives (← sources 0 "sources")

/-- A source with a default for the case that it fails. -/
def optional : Constructor := do
  let source ← requireSource (some 0) "source"
  let default ← value (some 1) "default"
  return .optional source (default.getD .empty)

/-- Several sources, merged. All places are for sources, so the policy has only its name. -/
def merging : Constructor := do
  let onFail ← onFail none
  let sources ← sources 0 "sources"
  return .merging sources onFail

/-- A source under a key. -/
def nested : Constructor := do
  let key ← requireText (some 0) "key"
  let source ← requireSource (some 1) "source"
  return .nested key source

/-- A text in a format. -/
def inFormat (format : Format) : Constructor := do
  return .text (← requireText (some 0) "text") format

end Constructor

/-- The source types that a schema can name. -/
structure SourceTable where
  constructors : Entries Constructor

/-- Why a constructor is not added to a table. -/
inductive RegistrationError where
  | reserved (name : String)
deriving DecidableEq, Repr

/-- The wording of a registration error. -/
def RegistrationError.message : RegistrationError → String
  | reserved name => "'" ++ name ++ "' is reserved for transforms"

namespace SourceTable

/-- The table without types. -/
def empty : SourceTable := ⟨[]⟩

/-- Adds a type, in the place of one of the same name. -/
def register (table : SourceTable) (name : String) (constructor : Constructor) :
    Except RegistrationError SourceTable :=
  if castTypes.contains name then .error (.reserved name)
  else .ok ⟨Entries.insert name constructor table.constructors⟩

/-- The constructor of a type. -/
def find? (table : SourceTable) (name : String) : Option Constructor :=
  Entries.get? name table.constructors

/-- The source types of this library. -/
def builtins : SourceTable := ⟨Entries.ofList [
  ("StaticSource", Constructor.static),
  ("EnvironmentSource", Constructor.environment),
  ("EnvVarsSource", Constructor.environmentMap),
  ("FileSource", Constructor.file),
  ("DirectorySource", Constructor.directory),
  ("AlternativeSource", Constructor.alternatives),
  ("OptionalSource", Constructor.optional),
  ("MergingSource", Constructor.merging),
  ("BuildObjectFrom", Constructor.nested),
  ("JSONSource", Constructor.inFormat .json),
  ("YAMLSource", Constructor.inFormat .yaml),
  ("TOMLSource", Constructor.inFormat .toml)]⟩

/-- The names of the types, in order. -/
def names (table : SourceTable) : List String := Entries.keys table.constructors

/-- The names of the types as a text. -/
def describe (table : SourceTable) : String :=
  "SourceRegistry \x7b types: [" ++ ", ".intercalate (table.names.map Text.quoted) ++ "] \x7d"

end SourceTable

end LayeredConfig
