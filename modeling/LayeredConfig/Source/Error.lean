import LayeredConfig.Cast.Error
import LayeredConfig.Format

/-!
# Why a source fails

One constructor for each cause, with the causes of all alternatives kept in order. `message?` words
every error that does not quote a reader of another format or the file system.
-/

namespace LayeredConfig

/-- Why a source cannot be resolved. -/
inductive ResolveError where
  | missingVariable (name : String)
  | nonUnicodeVariable (name : String)
  | fileNotFound (path : String)
  | unreadableFile (path : String)
  | undecodable (path : String) (encoding : Encoding)
  | unparsable (path : String) (format : Format) (fault : ParseFault)
  | unrecognized (path : String)
  | unparsableText (format : Format)
  | directoryNotFound (path : String)
  /-- The files of the directory at the first path could not be listed: the second is that of a directory
  below it which could not be opened. -/
  | unreadableDirectory (path below : String)
  | notAMapping (kind : String)
  | cast (cause : CastError)
  | allFailed (causes : List ResolveError)

/-- The broad kind of a failure. -/
inductive FailureKind where
  | source
  | cast
  | aggregate
deriving DecidableEq, Repr

namespace ResolveError

/-- The kind of an error. -/
def kind : ResolveError → FailureKind
  | cast _ => .cast
  | allFailed _ => .aggregate
  | _ => .source

/-- The wording of an error. -/
def message? : ResolveError → Option String
  | missingVariable name => some ("environment variable not set: " ++ name)
  | nonUnicodeVariable name => some ("environment variable " ++ name ++ " is not valid unicode")
  | fileNotFound path => some ("config file not found: " ++ path)
  | unreadableFile _ => none
  | undecodable path encoding =>
    some ("failed to decode config file '" ++ path ++ "' as " ++ encoding.name)
  | unparsable path format fault => fault.message?.map fun message =>
    "failed to parse config file '" ++ path ++ "' as " ++ format.name ++ ": " ++ message
  | unrecognized path =>
    some ("no enabled format could parse config file '" ++ path ++ "' into a mapping")
  | unparsableText _ => none
  | directoryNotFound path => some ("config directory not found: " ++ path)
  | unreadableDirectory _ _ => none
  | notAMapping kind => some ("configuration must be a mapping, got " ++ kind)
  | cast cause => some ("cast failed: " ++ cause.message)
  | allFailed causes => some ("all " ++ toString causes.length ++ " alternative sources failed")

end ResolveError

end LayeredConfig
