import LayeredConfig.Expr.Call
import LayeredConfig.Expr.Indexing
import LayeredConfig.Expr.Parser

/-!
# Evaluation

The value of an expression for a value of `x`. Operands are evaluated from left to right, and only
as far as they are needed: `and`, `or` and chains of comparisons stop as soon as they are decided.
-/

namespace LayeredConfig.Expr

mutual

/-- The value of a tree for a value of `x`. -/
def Node.eval (x : Value) : Node → Outcome Value
  | .literal v => .ok v
  | .var => .ok x
  | .list items => match evalAll x items with
    | .error e => .error e
    | .ok values => .ok (.array values)
  | .neg operand => match operand.eval x with
    | .error e => .error e
    | .ok v => negate v
  | .not operand => match operand.eval x with
    | .error e => .error e
    | .ok v => .ok (.bool (!v.isTruthy))
  | .and left right => match left.eval x with
    | .error e => .error e
    | .ok v => if v.isTruthy then right.eval x else .ok v
  | .or left right => match left.eval x with
    | .error e => .error e
    | .ok v => if v.isTruthy then .ok v else right.eval x
  | .binary op left right => match left.eval x with
    | .error e => .error e
    | .ok a => match right.eval x with
      | .error e => .error e
      | .ok b => binary op a b
  | .compare first rest => match first.eval x with
    | .error e => .error e
    | .ok v => evalLinks x v rest
  | .index target index => match target.eval x with
    | .error e => .error e
    | .ok v => match index.eval x with
      | .error e => .error e
      | .ok i => indexed v i
  | .call function arguments => match evalAll x arguments with
    | .error e => .error e
    | .ok values => call function values

/-- The values of several trees, or the first error. -/
def evalAll (x : Value) : List Node → Outcome (List Value)
  | [] => .ok []
  | node :: nodes => match node.eval x with
    | .error e => .error e
    | .ok v => match evalAll x nodes with
      | .error e => .error e
      | .ok vs => .ok (v :: vs)

/-- Whether each link of a chain holds, the first of them to the right of `left`. -/
def evalLinks (x left : Value) : List (CompareOp × Node) → Outcome Value
  | [] => .ok (.bool true)
  | (op, node) :: links => match node.eval x with
    | .error e => .error e
    | .ok right => match holds op left right with
      | .error e => .error e
      | .ok true => evalLinks x right links
      | .ok false => .ok (.bool false)

end

end LayeredConfig.Expr

namespace LayeredConfig

/-- An expression with its text. -/
structure Expr where
  source : String
  root : Expr.Node

namespace Expr

/-- Reads an expression. Names without a meaning are refused here, not at evaluation. -/
def parse (source : String) : Except SyntaxError Expr :=
  match parseNode source with
  | .error e => .error e
  | .ok root => .ok ⟨source, root⟩

/-- The value of an expression for a value of `x`. -/
def eval (expr : Expr) (x : Value) : Outcome Value := expr.root.eval x

end Expr

end LayeredConfig
