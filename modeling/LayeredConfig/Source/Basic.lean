import LayeredConfig.Cast.Basic
import LayeredConfig.Format

/-!
# Sources

A source says where a configuration comes from: from the environment, from files, from a text in the
schema, or from other sources. It is plain data; resolving it against a world gives a value.
-/

namespace LayeredConfig

/-- What a merge does when one of its parts fails. -/
inductive OnFail where
  /-- It fails in the same way. -/
  | raise
  /-- It goes on without that part. -/
  | silent
deriving DecidableEq, Repr

namespace OnFail

/-- The name of a policy. -/
def name : OnFail → String
  | raise => "raise"
  | silent => "silent"

/-- The policy of a name in any case. -/
def ofName? (name : String) : Option OnFail :=
  [raise, silent].find? fun policy => policy.name = Text.asciiLower name

end OnFail

/-- Where a configuration comes from. -/
inductive Source where
  /-- A fixed value. -/
  | static (value : Value)
  /-- A map with one key, whose value is the text of an environment variable after the cast, or the
  default if the variable is not set. -/
  | environment (name key : String) (default : Option Value) (change : Option Cast)
  /-- A map with the texts of environment variables after the cast, all of which must be set. -/
  | environmentMap (names : List String) (change : Option Cast)
  /-- The map written in a file. -/
  | file (path : String) (encoding : Encoding) (formats : FormatSet)
  /-- The merge of the maps written in the files of a directory, or of all files below it. -/
  | directory (path : String) (encoding : Encoding) (formats : FormatSet) (deep : Bool)
      (onFail : OnFail)
  /-- The value written in a text. -/
  | text (content : String) (format : Format)
  /-- The first of the sources that does not fail. -/
  | alternatives (sources : List Source)
  /-- A source, or the default if it fails. -/
  | optional (source : Source) (default : Value)
  /-- The sources merged, later ones over earlier ones. -/
  | merging (sources : List Source) (onFail : OnFail)
  /-- A map with one key, whose value comes from a source. -/
  | nested (key : String) (source : Source)
  /-- A source with a cast applied to its value. -/
  | cast (source : Source) (change : Cast)

instance : Inhabited Source := ⟨.static .empty⟩

end LayeredConfig
