import LayeredConfig.Schema.Error
import LayeredConfig.Source.Basic

/-!
# The arguments of a schema node

Each parameter of a source can be given by position or by name. `Arguments` holds what is still to be
used, and the operations of `Taking` use it up: an argument that is asked for is gone afterwards, even
if the operation fails. `finish` refuses whatever is left over.
-/

namespace LayeredConfig

/-- An argument: a literal value, a source, a cast, or a list of arguments. -/
inductive Argument where
  | value (value : Value)
  | source (source : Source)
  | cast (cast : Cast)
  | list (items : List Argument)

namespace Argument

mutual

/-- The value of a literal, or of a list of literals. -/
def toValue? : Argument → Option Value
  | value v => some v
  | source _ => none
  | cast _ => none
  | list items => match toValues? items with
    | some vs => some (.array vs)
    | none => none

/-- The values of some arguments, if all of them are literals. -/
def toValues? : List Argument → Option (List Value)
  | [] => some []
  | item :: items => match item.toValue? with
    | none => none
    | some v => match toValues? items with
      | some vs => some (v :: vs)
      | none => none

end

/-- The text of a literal text. -/
def text? : Argument → Option String
  | value (.string s) => some s
  | _ => none

/-- The truth value of a literal truth value. -/
def bool? : Argument → Option Bool
  | value (.bool b) => some b
  | _ => none

/-- The source of a source. -/
def source? : Argument → Option Source
  | source s => some s
  | _ => none

/-- An argument seen as several: the items of a list, or the argument alone. -/
def spread : Argument → List Argument
  | list items => items
  | argument => [argument]

end Argument

/-- The arguments of a schema node that are still to be used. A place whose argument is used stays
behind empty, so that places keep their numbers. -/
structure Arguments where
  typeName : String
  positional : List (Option Argument)
  named : Entries Argument
  castTo : Option Cast

/-- An operation that uses up arguments. -/
abbrev Taking (α : Type) := ExceptT SchemaError (StateM Arguments) α

namespace Arguments

/-- The arguments of a schema node before any is used. -/
def ofNode (typeName : String) (positional : List Argument) (named : Entries Argument)
    (castTo : Option Cast) : Arguments :=
  ⟨typeName, positional.map some, named, castTo⟩

/-- The error for an argument that is absent. -/
def missing (args : Arguments) (name : String) : SchemaError := .missingArgument args.typeName name

/-- The error for an argument that is not what it has to be. -/
def invalid (args : Arguments) (name : String) (expected : Expectation) : SchemaError :=
  .invalidArgument args.typeName name expected

/-- The argument at a place; no place is beyond all arguments. -/
def slot? (args : Arguments) : Option Nat → Option Argument
  | none => none
  | some index => (args.positional[index]?).join

/-- The argument at a place or of a name, if there is one. It must not be given twice. -/
def pick (args : Arguments) (index : Option Nat) (name : String) :
    Except SchemaError (Option Argument) :=
  match args.slot? index, Entries.get? name args.named with
  | some _, some _ => .error (.duplicateArgument args.typeName name)
  | some argument, none => .ok (some argument)
  | none, found => .ok found

/-- The arguments without the one at a place and the one of a name. -/
def without (args : Arguments) (index : Option Nat) (name : String) : Arguments :=
  { args with
    positional := match index with
      | none => args.positional
      | some index => args.positional.set index none
    named := Entries.erase name args.named }

/-- The arguments at the places from a number on, and then those of the list of a name. -/
def pickFrom (args : Arguments) (start : Nat) (name : String) : List Argument :=
  (args.positional.drop start).filterMap id ++
    ((Entries.get? name args.named).map Argument.spread).getD []

/-- The arguments without those at the places from a number on and without the one of a name. -/
def withoutFrom (args : Arguments) (start : Nat) (name : String) : Arguments :=
  { args with
    positional := args.positional.take start ++ (args.positional.drop start).map fun _ => none
    named := Entries.erase name args.named }

/-- The first place that still holds an argument. -/
def unusedIndex? (args : Arguments) : Option Nat := args.positional.findIdx? Option.isSome

/-- Refuses arguments that are left over, and gives back the cast for the source if it is left. -/
def finish (args : Arguments) : Except SchemaError (Option Cast) :=
  match args.unusedIndex?, args.named with
  | some index, _ =>
    .error (.unexpectedArgument args.typeName ("args[" ++ toString index ++ "]"))
  | none, (name, _) :: _ => .error (.unexpectedArgument args.typeName name)
  | none, [] => .ok args.castTo

end Arguments

namespace Taking

open Arguments

variable {α β : Type}

/-- Runs an operation on some arguments. Gives the arguments that are left in every case. -/
def runOn (operation : Taking α) (args : Arguments) : Except SchemaError α × Arguments :=
  (ExceptT.run operation).run args

/-- The operation with this result that leaves these arguments. -/
def ofStep (result : Arguments → Except SchemaError α) (rest : Arguments → Arguments) : Taking α :=
  ExceptT.mk fun args => (result args, rest args)

theorem runOn_ofStep (result : Arguments → Except SchemaError α) (rest : Arguments → Arguments)
    (args : Arguments) : (ofStep result rest).runOn args = (result args, rest args) := rfl

/-- An operation after another one sees what that one has left; a failure ends the run. -/
theorem runOn_bind (first : Taking α) (next : α → Taking β) (args : Arguments) :
    (first >>= next).runOn args = match first.runOn args with
      | (.ok a, rest) => (next a).runOn rest
      | (.error e, rest) => (.error e, rest) := by
  simp only [runOn, ExceptT.run_bind, StateT.run_bind]
  cases h : StateT.run (ExceptT.run first) args with
  | mk result rest => cases result <;> rfl

/-- Fails because an argument is absent. -/
def failMissing (name : String) : Taking α := ofStep (fun args => .error (args.missing name)) id

/-- Fails because an argument is not what it has to be. -/
def failInvalid (name : String) (expected : Expectation) : Taking α :=
  ofStep (fun args => .error (args.invalid name expected)) id

/-- Takes the argument at a place or of a name, and refuses to choose between two. -/
def take (index : Option Nat) (name : String) : Taking (Option Argument) :=
  ofStep (·.pick index name) (·.without index name)

/-- The argument, which must be there. -/
def needed (name : String) : Option α → Taking α
  | some a => pure a
  | none => failMissing name

/-- Takes an argument that must be there. -/
def require (index : Option Nat) (name : String) : Taking Argument := do
  needed name (← take index name)

/-- Takes the arguments at the places from a number on, and then those of the list of a name. -/
def takeRest (start : Nat) (name : String) : Taking (List Argument) :=
  ofStep (fun args => .ok (args.pickFrom start name)) (·.withoutFrom start name)

/-- Takes the cast for the source. -/
def takeCastTo : Taking (Option Cast) :=
  ofStep (fun args => .ok args.castTo) fun args => { args with castTo := none }

/-- Takes an argument that must be of one kind if it is there. -/
def takeAs (view : Argument → Option α) (expected : Expectation) (index : Option Nat)
    (name : String) : Taking (Option α) := do
  match ← take index name with
  | none => return none
  | some argument => match view argument with
    | some a => return some a
    | none => failInvalid name expected

/-- Takes a text. -/
def text (index : Option Nat) (name : String) : Taking (Option String) :=
  takeAs Argument.text? .text index name

/-- Takes a text that must be there. -/
def requireText (index : Option Nat) (name : String) : Taking String := do
  needed name (← text index name)

/-- Takes a truth value. -/
def bool (index : Option Nat) (name : String) : Taking (Option Bool) :=
  takeAs Argument.bool? .boolean index name

/-- Takes a literal, or a list of literals. -/
def value (index : Option Nat) (name : String) : Taking (Option Value) :=
  takeAs Argument.toValue? .literal index name

/-- Takes a literal that must be there. -/
def requireValue (index : Option Nat) (name : String) : Taking Value := do
  needed name (← value index name)

/-- Takes a source that must be there. -/
def requireSource (index : Option Nat) (name : String) : Taking Source := do
  needed name (← takeAs Argument.source? .source index name)

/-- Takes all sources from a place on, and then those of the list of a name. -/
def sources (start : Nat) (name : String) : Taking (List Source) := do
  match (← takeRest start name).mapM Argument.source? with
  | some sources => return sources
  | none => failInvalid name .sources

/-- Takes all texts from a place on, and then those of the list of a name. Lists among them are
opened. -/
def texts (start : Nat) (name : String) : Taking (List String) := do
  match ((← takeRest start name).flatMap Argument.spread).mapM Argument.text? with
  | some texts => return texts
  | none => failInvalid name .texts

end Taking

end LayeredConfig
