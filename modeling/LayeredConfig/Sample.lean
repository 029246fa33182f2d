import LayeredConfig.Provider
import LayeredConfig.Text.Case

/-!
# A sample extension

Two functions and a source type of an application's own, and a record that it reads from its
configuration.
-/

namespace LayeredConfig.Sample

/-! ## Functions and source types -/

/-- Twice an integer. -/
def double : Function
  | .integer i => match Integer.ofInt? (i.toInt * 2) with
    | some twice => .ok (.integer twice)
    | none => .error (.function "math.double" "overflow")
  | v => .error (.function "math.double" ("expected an integer, got " ++ v.kind))

/-- The text of a value in capitals, with an exclamation mark. -/
def shout : Function := fun v => .ok (.string (Text.upper (v.text ++ "!")))

/-- The map that holds true under a key. -/
def constant : Constructor := do
  let key ← Taking.requireText (some 0) "key"
  return .static (.map [(key, .bool true)])

/-- The functions of this library and of the application. -/
def functions : FunctionTable :=
  FunctionTable.builtins.register "math" "double" double |>.register "text" "shout" shout

/-- The loader with the functions and source types of the application. -/
def loader : Loader :=
  match SourceTable.builtins.register "ConstantSource" constant with
  | .ok sources => ⟨sources, functions⟩
  | .error _ => ⟨.builtins, functions⟩

/-! ## The settings of an application -/

/-- Where a database listens. -/
structure Database where
  host : String
  port : UInt16
deriving DecidableEq, Repr

/-- The settings of an application. -/
structure Settings where
  database : Database
  workers : Int64
  secret : Option (List UInt8)

/-- An unsigned integer below a limit. -/
def natural? (limit : Nat) : Json → Option Nat
  | .number (.unsigned n) => if n.toNat < limit then some n.toNat else none
  | _ => none

/-- A signed integer. -/
def integer? : Json → Option Int64
  | .number (.unsigned n) => Integer.ofInt? n.toNat
  | .number (.negative n) => some n
  | _ => none

/-- Bytes, as an array of integers. -/
def bytes? (j : Json) : Option (List UInt8) :=
  j.items?.bind fun items => items.mapM fun item => (natural? 256 item).map UInt8.ofNat

/-- The database of two fields. -/
def Database.ofFields? (host port : Json) : Option Database :=
  host.string?.bind fun host => (natural? 65536 port).map fun port => ⟨host, UInt16.ofNat port⟩

/-- The database of an object with its fields, or of an array of exactly its fields. -/
def Database.ofJson? : Json → Option Database
  | .array [host, port] => ofFields? host port
  | .object members => (Entries.get? "host" members).bind fun host =>
    (Entries.get? "port" members).bind fun port => ofFields? host port
  | _ => none

/-- The secret, which may be null. -/
def secret? : Json → Option (Option (List UInt8))
  | .null => some none
  | j => (bytes? j).map some

/-- The settings of an object with their fields, of which the secret may be absent. -/
def Settings.ofJson? (j : Json) : Option Settings :=
  j.members?.bind fun members =>
    (Entries.get? "database" members).bind fun database =>
    (Entries.get? "workers" members).bind fun workers =>
    (Database.ofJson? database).bind fun database =>
    (integer? workers).bind fun workers =>
    (secret? ((Entries.get? "secret" members).getD .null)).map fun secret =>
      ⟨database, workers, secret⟩

end LayeredConfig.Sample
