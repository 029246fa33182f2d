import LayeredConfig.Source.Basic
import LayeredConfig.Source.Error
import LayeredConfig.Value.Merge
import LayeredConfig.World.Basic

/-!
# Resolving a source

`Source.resolve` gives the value of a source in a world. What a composed source makes of its parts
depends only on their outcomes: `firstOutcome` and `mergeOutcomes` say how.
-/

namespace LayeredConfig

/-- What resolving a source gives. -/
abbrev Outcome := Except ResolveError Value

namespace Source

/-! ## Outcomes of several parts -/

/-- The first value among some outcomes, or all causes in order; `earlier` holds those of outcomes
that came before, last one first. -/
def firstOutcomeAfter (earlier : List ResolveError) : List Outcome → Outcome
  | [] => .error (.allFailed earlier.reverse)
  | .ok v :: _ => .ok v
  | .error e :: rest => firstOutcomeAfter (e :: earlier) rest

/-- The first value among some outcomes, or all causes in order. -/
def firstOutcome (outcomes : List Outcome) : Outcome := firstOutcomeAfter [] outcomes

/-- The values of some outcomes laid over a value in order. -/
def mergeOutcomesOnto (onFail : OnFail) (merged : Value) : List Outcome → Outcome
  | [] => .ok merged
  | .ok v :: rest => mergeOutcomesOnto onFail (merged.merge v) rest
  | .error e :: rest => match onFail with
    | .raise => .error e
    | .silent => mergeOutcomesOnto onFail merged rest

/-- The values of some outcomes merged in order. -/
def mergeOutcomes (onFail : OnFail) (outcomes : List Outcome) : Outcome :=
  mergeOutcomesOnto onFail .empty outcomes

/-! ## The environment -/

/-- The value of a text after a cast, if there is one. -/
def castText (change : Option Cast) (s : String) : Outcome :=
  match change with
  | none => .ok (.string s)
  | some c => match c.apply (.string s) with
    | .ok v => .ok v
    | .error e => .error (.cast e)

/-- The value of an environment variable. -/
def resolveVariable (w : World) (change : Option Cast) (name : String) : Outcome :=
  match w.readVariable name with
  | .unset => .error (.missingVariable name)
  | .notText => .error (.nonUnicodeVariable name)
  | .text s => castText change s

/-- The value of an environment variable, or the default if it is not set. -/
def resolveVariableOr (w : World) (default : Option Value) (change : Option Cast) (name : String) :
    Outcome :=
  match w.readVariable name, default with
  | .unset, some v => .ok v
  | _, _ => resolveVariable w change name

/-- Adds environment variables to a map, in order. -/
def addVariables (w : World) (change : Option Cast) (entries : Entries Value) :
    List String → Outcome
  | [] => .ok (.map entries)
  | name :: names => match resolveVariable w change name with
    | .error e => .error e
    | .ok v => addVariables w change (Entries.insert name v entries) names

/-! ## Files -/

/-- The text of a file. -/
def readFile (w : World) (path : String) (encoding : Encoding) : Except ResolveError String :=
  match w.lookup path with
  | .missing => .error (.fileNotFound path)
  | .obstructed => .error (.unreadableFile path)
  | .found (.directory _) => .error (.unreadableFile path)
  | .found (.file bytes) => match encoding.decode? bytes with
    | none => .error (.undecodable path encoding)
    | some content => .ok content

/-- The map that the first of some formats reads from a text. -/
def probe (content : String) : List Format → Option Value
  | [] => none
  | format :: formats => match format.parseMapping content with
    | .ok v => some v
    | .error _ => probe content formats

/-- The map written in the text of a file. The extension of the path decides its format if that one
is enabled; else the first enabled format that fits does. -/
def parseFile (path : String) (formats : FormatSet) (content : String) : Outcome :=
  match (Format.ofPath? path).filter formats.contains with
  | some format => match format.parseMapping content with
    | .ok v => .ok v
    | .error fault => .error (.unparsable path format fault)
  | none => match probe content formats.toList with
    | some v => .ok v
    | none => .error (.unrecognized path)

/-- The map written in a file. -/
def resolveFile (w : World) (encoding : Encoding) (formats : FormatSet) (path : String) : Outcome :=
  match readFile w path encoding with
  | .error e => .error e
  | .ok content => parseFile path formats content

/-- The maps of some files laid over a value in order. A file that no enabled format can read is passed
over, whatever is to be done about failures. -/
def mergeFilesOnto (w : World) (encoding : Encoding) (formats : FormatSet) (onFail : OnFail)
    (merged : Value) : List String → Outcome
  | [] => .ok merged
  | path :: paths => match resolveFile w encoding formats path with
    | .ok v => mergeFilesOnto w encoding formats onFail (merged.merge v) paths
    | .error (.unrecognized _) => mergeFilesOnto w encoding formats onFail merged paths
    | .error e => match onFail with
      | .raise => .error e
      | .silent => mergeFilesOnto w encoding formats onFail merged paths

/-- The maps of the files of a directory, merged in order. -/
def resolveDirectory (w : World) (encoding : Encoding) (formats : FormatSet) (deep : Bool)
    (onFail : OnFail) (path : String) : Outcome :=
  match w.files path deep with
  | .error .notFound => .error (.directoryNotFound path)
  | .error (.unopened below) => .error (.unreadableDirectory path below)
  | .ok files => mergeFilesOnto w encoding formats onFail .empty files

/-! ## All sources -/

/-- The outcome of a text in a format. -/
def resolveText (format : Format) (content : String) : Outcome :=
  match format.parse content with
  | some v => .ok v
  | none => .error (.unparsableText format)

mutual

/-- The value of a source in a world. -/
def resolve (w : World) : Source → Outcome
  | static value => .ok value
  | environment name key default change => match resolveVariableOr w default change name with
    | .ok v => .ok (.map [(key, v)])
    | .error e => .error e
  | environmentMap names change => addVariables w change [] names
  | file path encoding formats => resolveFile w encoding formats path
  | directory path encoding formats deep onFail =>
    resolveDirectory w encoding formats deep onFail path
  | text content format => resolveText format content
  | alternatives sources => firstOutcome (resolveAll w sources)
  | optional source default => match source.resolve w with
    | .ok v => .ok v
    | .error _ => .ok default
  | merging sources onFail => mergeOutcomes onFail (resolveAll w sources)
  | nested key source => match source.resolve w with
    | .ok v => .ok (.map [(key, v)])
    | .error e => .error e
  | cast source change => match source.resolve w with
    | .ok v => match change.apply v with
      | .ok v => .ok v
      | .error e => .error (.cast e)
    | .error e => .error e

/-- The outcomes of some sources in a world. -/
def resolveAll (w : World) : List Source → List Outcome
  | [] => []
  | source :: sources => source.resolve w :: resolveAll w sources

end

theorem resolveAll_eq_map (w : World) (sources : List Source) :
    resolveAll w sources = sources.map (resolve w) := by
  induction sources with
  | nil => rfl
  | cons source sources ih => simp [resolveAll, ih]

end Source

end LayeredConfig
