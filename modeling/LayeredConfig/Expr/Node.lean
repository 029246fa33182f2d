import LayeredConfig.Value.Basic

/-!
# Expression trees

The syntax of expressions over the one variable `x`, and how many arguments each function accepts.
-/

namespace LayeredConfig.Expr

/-- An arithmetic operator. -/
inductive BinaryOp where
  | add
  | sub
  | mul
  | div
  | floorDiv
  | mod
  | pow
deriving DecidableEq, Repr

/-- The name of an operator in messages. -/
def BinaryOp.name : BinaryOp → String
  | add => "Add"
  | sub => "Sub"
  | mul => "Mul"
  | div => "Div"
  | floorDiv => "FloorDiv"
  | mod => "Mod"
  | pow => "Pow"

/-- A comparison operator. -/
inductive CompareOp where
  | eq
  | ne
  | lt
  | le
  | gt
  | ge
  | isIn
  | notIn
deriving DecidableEq, Repr

/-- A function of the expression language. -/
inductive Builtin where
  | int
  | float
  | str
  | bool
  | len
  | upper
  | lower
  | strip
  | abs
  | round
  | min
  | max
deriving DecidableEq, Repr

namespace Builtin

/-- The name of a function. -/
def name : Builtin → String
  | int => "int"
  | float => "float"
  | str => "str"
  | bool => "bool"
  | len => "len"
  | upper => "upper"
  | lower => "lower"
  | strip => "strip"
  | abs => "abs"
  | round => "round"
  | min => "min"
  | max => "max"

/-- Every function. -/
def all : List Builtin :=
  [int, float, str, bool, len, upper, lower, strip, abs, round, min, max]

/-- The function of a name. -/
def ofName? (name : String) : Option Builtin := all.find? (fun b => b.name = name)

/-- Whether a function accepts this number of arguments. -/
def accepts : Builtin → Nat → Bool
  | round, n => n = 1 || n = 2
  | min, n => 1 ≤ n
  | max, n => 1 ≤ n
  | _, n => n = 1

end Builtin

/-- An expression tree. -/
inductive Node where
  | literal (value : Value)
  | var
  | list (items : List Node)
  | neg (operand : Node)
  | not (operand : Node)
  | binary (op : BinaryOp) (left right : Node)
  | compare (first : Node) (rest : List (CompareOp × Node))
  | and (left right : Node)
  | or (left right : Node)
  | index (target index : Node)
  | call (function : Builtin) (arguments : List Node)

instance : Inhabited Node := ⟨.var⟩

end LayeredConfig.Expr
