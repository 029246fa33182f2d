import LayeredConfig.Proofs.Source.Outcomes
import LayeredConfig.Proofs.World.Visit

/-!
# Directories as merges of their files

A directory resolves to the merge of its files in the order of their paths, if the directories below it can
be opened to find them. A file that is in no enabled format is left out (`Source.Foreign`); any other file
that does not give a map is broken (`Source.Broken`), and the first of these is what a merge that stops at
failures reports.
-/

namespace LayeredConfig

namespace Source

variable {w : World} {encoding : Encoding} {formats : FormatSet} {file path : String} {bytes : List UInt8}
  {e : ResolveError} {entries : Entries FileTree}

/-! ## Files without a map -/

/-- A file that should give a map and gives none: it cannot be read, since its path is too long, its bytes
are not in the encoding, or its text has no map in the enabled format that its extension names. -/
inductive Broken (encoding : Encoding) (formats : FormatSet) (file : String) (bytes : List UInt8) :
    ResolveError → Prop where
  | unreadable (h : World.pathLimit ≤ file.utf8ByteSize) :
      Broken encoding formats file bytes (.unreadableFile file)
  | undecodable (hshort : file.utf8ByteSize < World.pathLimit) (h : encoding.decode? bytes = none) :
      Broken encoding formats file bytes (.undecodable file encoding)
  | unparsable (hshort : file.utf8ByteSize < World.pathLimit) {content : String} {format : Format}
      {fault : ParseFault} (hcontent : encoding.decode? bytes = some content)
      (hformat : Format.ofPath? file = some format) (henabled : formats.contains format = true)
      (h : format.parseMapping content = .error fault) :
      Broken encoding formats file bytes (.unparsable file format fault)

/-- A broken file is not passed over. -/
theorem Broken.isUnrecognized (h : Broken encoding formats file bytes e) :
    Source.isUnrecognized (.error e) = false := by
  cases h <;> rfl

variable {deep : Bool} {listing folders : List (List String)}

/-- A directory with a file in it, a file with a map, and one that is not in UTF-8 and has a shorter name. -/
def settings : Entries FileTree :=
  [("application-settings", .directory [("a.json", .file [123, 125])]),
    ("application-settings.json", .file [123, 125]), ("b.json", .file [255])]

/-- A world with nothing but these settings. -/
def settled : World := ⟨[], [("d", .directory settings)], []⟩

end Source

end LayeredConfig
