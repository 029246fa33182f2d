import LayeredConfig.Cast.Error
import LayeredConfig.Expr.Token

/-!
# Why a schema is refused

One constructor for each cause. A schema is checked in full when it is loaded, before any source is
resolved.
-/

namespace LayeredConfig

/-- What an argument has to be. -/
inductive Expectation where
  | text
  | boolean
  | literal
  | source
  | sources
  | texts
  | formatNames
  | policy
  | array
  | transform
deriving DecidableEq, Repr

/-- What an argument has to be, in messages. -/
def Expectation.words : Expectation → String
  | text => "a string"
  | boolean => "a boolean"
  | literal => "a literal value"
  | source => "a source"
  | sources => "a list of sources"
  | texts => "a list of strings"
  | formatNames => "a list of format names"
  | policy => "'raise' or 'silent'"
  | array => "an array"
  | transform => "one of 'lambda', 'binary' or 'import'"

/-- Why a schema is refused. -/
inductive SchemaError where
  | notAMapping (kind : String)
  | missingType
  | unknownType (name : String)
  | notASource (name : String)
  | missingArgument (typeName argument : String)
  | unexpectedArgument (typeName argument : String)
  | duplicateArgument (typeName argument : String)
  | invalidArgument (typeName argument : String) (expected : Expectation)
  | expression (source : String) (cause : Expr.SyntaxError)
  | unknownEncoding (name : String)
  | cast (cause : CastError)
  | malformed

/-- The wording of an error, except for a text that is no JSON at all. -/
def SchemaError.message? : SchemaError → Option String
  | notAMapping kind => some ("schema node must be a mapping, got " ++ kind)
  | missingType => some "schema node has no string 'type' field"
  | unknownType name => some ("unknown source type: " ++ name)
  | notASource name => some ("'" ++ name ++ "' is a transform and cannot be used as a source")
  | missingArgument typeName argument =>
    some ("'" ++ typeName ++ "' requires argument '" ++ argument ++ "'")
  | unexpectedArgument typeName argument =>
    some ("'" ++ typeName ++ "' got unexpected argument '" ++ argument ++ "'")
  | duplicateArgument typeName argument =>
    some ("'" ++ typeName ++ "' got argument '" ++ argument ++ "' both by position and by name")
  | invalidArgument typeName argument expected =>
    some ("'" ++ typeName ++ "' argument '" ++ argument ++ "' must be " ++ expected.words)
  | expression source cause =>
    some ("invalid expression '" ++ source ++ "': " ++ cause.message)
  | unknownEncoding name => some ("unknown encoding: " ++ name)
  | cast cause => some cause.message
  | malformed => none

end LayeredConfig
