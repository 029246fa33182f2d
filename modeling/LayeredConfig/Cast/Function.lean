import LayeredConfig.Cast.Error
import LayeredConfig.Decimal.Reader
import LayeredConfig.Value.Convert
import LayeredConfig.Value.Text

/-!
# Allow-listed functions

A schema can name only the functions of a table, each under a module and a member. The module
`builtins` converts to the four kinds of scalars.
-/

namespace LayeredConfig

/-- A function that a cast may call. -/
abbrev Function := Value → Except CastError Value

namespace Function

/-- A failure of the function `builtins.<member>`. -/
def failed (member reason : String) : Except CastError Value :=
  .error (.function ("builtins." ++ member) reason)

/-- Converts to an integer. -/
def toInteger : Function
  | .integer i => .ok (.integer i)
  | .bool b => .ok (.integer (Convert.integerOfBool b))
  | .float x => match Convert.integerOfSmall? x with
    | some i => .ok (.integer i)
    | none => failed "int" "cannot convert float to integer"
  | .string s => match Decimal.integer? (Text.trim s) with
    | some i => .ok (.integer i)
    | none => failed "int" ("invalid integer '" ++ s ++ "'")
  | v => failed "int" ("cannot convert " ++ v.kind ++ " to integer")

/-- Converts to a float. -/
def toFloat : Function
  | .integer i => .ok (.float (Binary64.ofInt i.toInt))
  | .float x => .ok (.float x)
  | .string s => match Decimal.number? (Text.trim s) with
    | some x => .ok (.float x)
    | none => failed "float" ("invalid float '" ++ s ++ "'")
  | v => failed "float" ("cannot convert " ++ v.kind ++ " to float")

/-- Converts to a string. -/
def toText : Function := fun v => .ok (.string v.text)

/-- Converts to a truth value: strings by the words for yes and no, where a blank string says no;
every other value by whether a condition takes it for true. -/
def toBool : Function
  | .string s => match Convert.boolOfWord? Convert.noOrBlankWords (Convert.normalWord s) with
    | some b => .ok (.bool b)
    | none => failed "bool" ("invalid boolean '" ++ s ++ "'")
  | v => .ok (.bool v.isTruthy)

end Function

/-- The functions that casts may call. No module and member occur twice together. -/
structure FunctionTable where
  functions : List ((String × String) × Function)

namespace FunctionTable

/-- The table without functions. -/
def empty : FunctionTable := ⟨[]⟩

/-- Adds a function, in the place of one of the same name. -/
def register (table : FunctionTable) (module member : String) (f : Function) : FunctionTable :=
  ⟨((module, member), f) :: table.functions.filter fun entry => entry.1 ≠ (module, member)⟩

/-- The function of a name. -/
def find? (table : FunctionTable) (module member : String) : Option Function :=
  table.functions.lookup (module, member)

/-- Adding a function changes what is found under its name only. -/
theorem find?_register (table : FunctionTable) (module member : String) (f : Function)
    (home name : String) :
    (table.register module member f).find? home name =
      if (home, name) = (module, member) then some f else table.find? home name := by
  simp only [find?, register, List.lookup_cons]
  by_cases hname : (home, name) = (module, member)
  · rw [hname]
    simp
  · have hother : ((home, name) == (module, member)) = false := beq_eq_false_iff_ne.2 hname
    rw [hother, if_neg hname]
    simp only
    induction table.functions with
    | nil => rfl
    | cons entry rest ih =>
      obtain ⟨key, g⟩ := entry
      by_cases hkey : key = (module, member)
      · subst hkey
        simp only [List.filter_cons, List.lookup_cons, hother, ne_eq, not_true_eq_false,
          decide_false, Bool.false_eq_true, if_false]
        exact ih
      · simp only [List.filter_cons, List.lookup_cons, hkey, ne_eq, not_false_eq_true, decide_true,
          if_true, ih]

/-- Applies the function of a name. -/
def call (table : FunctionTable) (module member : String) (v : Value) : Except CastError Value :=
  match table.find? module member with
  | some f => f v
  | none => .error (.unknownFunction module member)

/-- The conversions to scalars. -/
def builtins : FunctionTable :=
  empty.register "builtins" "int" Function.toInteger
    |>.register "builtins" "float" Function.toFloat
    |>.register "builtins" "str" Function.toText
    |>.register "builtins" "bool" Function.toBool

/-- The names of the functions, in order. -/
def names (table : FunctionTable) : List String :=
  (table.functions.map fun entry => entry.1.1 ++ "." ++ entry.1.2).mergeSort (fun a b => a ≤ b)

/-- The names of the functions as a text. -/
def describe (table : FunctionTable) : String :=
  "FunctionRegistry \x7b functions: [" ++ ", ".intercalate (table.names.map Text.quoted) ++ "] \x7d"

end FunctionTable

end LayeredConfig
