import LayeredConfig.Json.Reader
import LayeredConfig.Schema.SourceTable
import LayeredConfig.Value.Json

/-!
# Loading a schema

A schema is a JSON document. What a node means depends on where it stands: as a source, as a cast, or
as an argument. `Loader.read` finds all three meanings of a node from the meanings of its parts, and
`loadSource`, `loadList`, `loadText` and `loadCast` choose the one that is wanted.
-/

namespace LayeredConfig

/-- The source types and the functions that schemas may name. -/
structure Loader where
  sources : SourceTable
  functions : FunctionTable

/-- A schema node with its meanings. -/
structure Loader.Reading where
  node : Json
  /-- The node as a source. -/
  source : Except SchemaError Source
  /-- The node as a cast. -/
  cast : Except SchemaError Cast
  /-- The node as an argument. -/
  argument : Except SchemaError Argument
  /-- The items of the node as arguments, if it is an array. -/
  items : Option (Except SchemaError (List Argument))

namespace Loader

instance : Inhabited Loader := ⟨⟨.builtins, .builtins⟩⟩

/-- The loader that knows the types and functions of this library. -/
def builtins : Loader := ⟨.builtins, .builtins⟩

/-- The loader that knows no types and no functions. -/
def empty : Loader := ⟨.empty, .empty⟩

/-- The members of a node that do not name arguments. -/
def reservedKeys : List String := ["type", "args", "optional", "cast_to"]

/-- The type of a node. A node without one is no fault of itself. -/
def typeOf (members : Entries Reading) : Except SchemaError (Option String) :=
  match Entries.get? "type" members with
  | none => .ok none
  | some reading => match reading.node with
    | .string name => .ok (some name)
    | _ => .error .missingType

/-- The type of a node that must have one. -/
def requireType (members : Entries Reading) : Except SchemaError String :=
  match typeOf members with
  | .error e => .error e
  | .ok none => .error .missingType
  | .ok (some name) => .ok name

/-- The arguments of some nodes, or the first fault. -/
def collect : List Reading → Except SchemaError (List Argument)
  | [] => .ok []
  | reading :: readings => match reading.argument with
    | .error e => .error e
    | .ok argument => match collect readings with
      | .error e => .error e
      | .ok arguments => .ok (argument :: arguments)

/-! ## Casts -/

/-- The members of a cast that are still to be used. -/
structure Fields where
  typeName : String
  remaining : Entries Reading

/-- An operation that uses up members of a cast. -/
abbrev Using (α : Type) := StateT Fields (Except SchemaError) α

namespace Fields

/-- The members of a cast before any is used; its type is not one of them. -/
def ofMembers (typeName : String) (members : Entries Reading) : Fields :=
  ⟨typeName, members.filter fun member => member.1 ≠ "type"⟩

/-- The members without the one of a name. -/
def without (fields : Fields) (name : String) : Fields :=
  { fields with remaining := Entries.erase name fields.remaining }

/-- Refuses members that are left over. -/
def finish (fields : Fields) : Except SchemaError Unit :=
  match fields.remaining with
  | [] => .ok ()
  | (name, _) :: _ => .error (.unexpectedArgument fields.typeName name)

end Fields

namespace Using

/-- Takes the member of a name, if there is one. -/
def take (name : String) : Using (Option Reading) := fun fields =>
  .ok (Entries.get? name fields.remaining, fields.without name)

/-- Takes a text. -/
def text? (name : String) : Using (Option String) := do
  match ← take name with
  | none => return none
  | some reading => match reading.node with
    | .string s => return some s
    | _ => throw (.invalidArgument (← get).typeName name .text)

/-- Takes a text that must be there. -/
def text (name : String) : Using String := do
  match ← text? name with
  | some s => return s
  | none => throw (.missingArgument (← get).typeName name)

/-- Takes a cast. -/
def cast? (name : String) : Using (Option Cast) := do
  match ← take name with
  | none => return none
  | some reading => return some (← reading.cast)

end Using

/-- The cast by an expression. -/
def expressionCast : Using Cast := do
  let operation ← Using.text "operation"
  match Expr.parse operation with
  | .error e => throw (.expression operation e)
  | .ok expr => return .expression expr

/-- The cast to bytes, by default in ASCII. -/
def encodingCast : Using Cast := do
  let literal ← Using.text? "value"
  match ← Using.text? "encoding" with
  | none => return .encode literal .ascii
  | some name => match Encoding.ofName? name with
    | none => throw (.unknownEncoding name)
    | some encoding => return .encode literal encoding

/-- The cast by a function, which must be in the table. -/
def functionCast (functions : FunctionTable) : Using Cast := do
  let module ← Using.text "module"
  let member ← Using.text "attribute"
  let before ← Using.cast? "cast_before"
  match functions.find? module member with
  | none => throw (.cast (.unknownFunction module member))
  | some function => return .call module member function before

/-- The cast of a type. -/
def castOfType (loader : Loader) : String → Using Cast
  | "lambda" => expressionCast
  | "binary" => encodingCast
  | "import" => functionCast loader.functions
  | other => throw (.invalidArgument other "type" .transform)

/-- A node as a cast, without its leftovers. -/
def castOf (loader : Loader) (members : Entries Reading) : Except SchemaError Cast := do
  let typeName ← requireType members
  let (change, rest) ← (loader.castOfType typeName).run (.ofMembers typeName members)
  rest.finish
  return change

/-! ## Sources -/

/-- The arguments that a node gives by position. -/
def positionalArguments (typeName : String) (members : Entries Reading) :
    Except SchemaError (List Argument) :=
  match Entries.get? "args" members with
  | none => .ok []
  | some reading => match reading.items with
    | some arguments => arguments
    | none => .error (.invalidArgument typeName "args" .array)

/-- Whether a node allows its source to fail. -/
def isOptional (typeName : String) (members : Entries Reading) : Except SchemaError Bool :=
  match Entries.get? "optional" members with
  | none => .ok false
  | some reading => match reading.node with
    | .bool b => .ok b
    | _ => .error (.invalidArgument typeName "optional" .boolean)

/-- The cast that a node asks for. -/
def castTo (members : Entries Reading) : Except SchemaError (Option Cast) :=
  match Entries.get? "cast_to" members with
  | none => .ok none
  | some reading => reading.cast.map some

/-- The arguments that a node gives by name, in key order. -/
def namedArguments : Entries Reading → Except SchemaError (Entries Argument)
  | [] => .ok []
  | (key, reading) :: members =>
    if reservedKeys.contains key then namedArguments members
    else match reading.argument with
      | .error e => .error e
      | .ok argument => match namedArguments members with
        | .error e => .error e
        | .ok arguments => .ok ((key, argument) :: arguments)

/-- The source that a constructor builds, without its leftovers: the cast that it did not take is
applied to the source. -/
def construct (constructor : Constructor) (args : Arguments) : Except SchemaError Source :=
  match constructor.runOn args with
  | (.error e, _) => .error e
  | (.ok source, rest) => match rest.finish with
    | .error e => .error e
    | .ok none => .ok source
    | .ok (some change) => .ok (.cast source change)

/-- A node as a source. -/
def sourceOf (loader : Loader) (members : Entries Reading) : Except SchemaError Source := do
  let typeName ← requireType members
  if castTypes.contains typeName then throw (.notASource typeName)
  match loader.sources.find? typeName with
  | none => throw (.unknownType typeName)
  | some constructor =>
    let positional ← positionalArguments typeName members
    let optional ← isOptional typeName members
    let change ← castTo members
    let named ← namedArguments members
    let source ← construct constructor (.ofNode typeName positional named change)
    return if optional then .optional source .empty else source

/-! ## Nodes -/

/-- A cast as an argument. The bytes of a literal are a value. -/
def castArgument : Cast → Except SchemaError Argument
  | .encode (some literal) encoding => match Cast.encodeText encoding literal with
    | .ok v => .ok (.value v)
    | .error e => .error (.cast e)
  | cast => .ok (.cast cast)

/-- A node with members. As an argument it is a value if it has no type. -/
def ofMembers (loader : Loader) (node : Json) (members : Entries Reading) : Reading :=
  let source := loader.sourceOf members
  let cast := loader.castOf members
  let argument := match typeOf members with
    | .error e => .error e
    | .ok none => .ok (.value (Value.ofJson node))
    | .ok (some typeName) =>
      if castTypes.contains typeName then cast.bind castArgument else source.map .source
  ⟨node, source, cast, argument, none⟩

/-- A node that is an array. -/
def ofItems (node : Json) (items : List Reading) : Reading :=
  let arguments := collect items
  ⟨node, .error (.notAMapping node.kind), .error (.notAMapping node.kind),
    arguments.map .list, some arguments⟩

/-- A node without parts. -/
def ofScalar (node : Json) : Reading :=
  ⟨node, .error (.notAMapping node.kind), .error (.notAMapping node.kind),
    .ok (.value (Value.ofJson node)), none⟩

mutual

/-- The meanings of a node. -/
def read (loader : Loader) : Json → Reading
  | .array items => ofItems (.array items) (readItems loader items)
  | .object members => loader.ofMembers (.object members) (readMembers loader members)
  | .null => ofScalar .null
  | .bool b => ofScalar (.bool b)
  | .number n => ofScalar (.number n)
  | .string s => ofScalar (.string s)

/-- The meanings of some nodes. -/
def readItems (loader : Loader) : List Json → List Reading
  | [] => []
  | node :: nodes => read loader node :: readItems loader nodes

/-- The meanings of the members of a node. -/
def readMembers (loader : Loader) : List (String × Json) → Entries Reading
  | [] => []
  | (key, node) :: members => (key, read loader node) :: readMembers loader members

end

/-! ## Schemas -/

/-- The source of a schema with one node. -/
def loadSource (loader : Loader) (node : Json) : Except SchemaError Source :=
  (loader.read node).source

/-- The cast of a node. -/
def loadCast (loader : Loader) (node : Json) : Except SchemaError Cast := (loader.read node).cast

/-- The sources of some nodes, or the first fault. -/
def loadSources (loader : Loader) : List Json → Except SchemaError (List Source)
  | [] => .ok []
  | node :: nodes => match loader.loadSource node with
    | .error e => .error e
    | .ok source => match loader.loadSources nodes with
      | .error e => .error e
      | .ok sources => .ok (source :: sources)

/-- The source that merges those of some nodes. -/
def loadList (loader : Loader) (nodes : List Json) : Except SchemaError Source :=
  (loader.loadSources nodes).map fun sources => .merging sources .raise

/-- The source of a schema text: an array is a merge. -/
def loadText (loader : Loader) (text : String) : Except SchemaError Source :=
  match Json.read? text with
  | none => .error .malformed
  | some (.array nodes) => loader.loadList nodes
  | some node => loader.loadSource node

end Loader

end LayeredConfig
