import LayeredConfig.Cast.Function
import LayeredConfig.Expr.Eval

/-!
# Casts

A cast turns one value into another: by an expression, by encoding a text, or by a function from
the allow-list.
-/

namespace LayeredConfig

/-- A change of a value. -/
inductive Cast where
  /-- The value of an expression, where `x` is the value to change. -/
  | expression (expr : Expr)
  /-- The bytes of a literal if there is one, else of the value itself. -/
  | encode (literal : Option String) (encoding : Encoding)
  /-- The result of a function, after another cast if there is one. -/
  | call (module member : String) (function : Function) (before : Option Cast)

namespace Cast

/-- The bytes of a text as a value. -/
def encodeText (encoding : Encoding) (s : String) : Except CastError Value :=
  match encoding.encode s with
  | .ok bytes => .ok (.bytes bytes)
  | .error c => .error (.unencodable encoding c)

/-- The bytes of a value; bytes stay as they are. -/
def encodeValue (encoding : Encoding) : Value → Except CastError Value
  | .string s => encodeText encoding s
  | .bytes b => .ok (.bytes b)
  | v => .error (.notAString encoding v.kind)

/-- Changes a value. -/
def apply (v : Value) : Cast → Except CastError Value
  | expression expr => match expr.eval v with
    | .ok w => .ok w
    | .error e => .error (.evaluation expr.source e)
  | encode (some literal) encoding => encodeText encoding literal
  | encode none encoding => encodeValue encoding v
  | call _ _ function none => function v
  | call _ _ function (some before) => match before.apply v with
    | .ok w => function w
    | .error e => .error e

/-- The structure of a cast as a text. -/
def describe : Cast → String
  | expression expr => "Lambda(" ++ Text.quoted expr.source ++ ")"
  | encode literal encoding =>
    let value := match literal with
      | some s => "Some(" ++ Text.quoted s ++ ")"
      | none => "None"
    "Binary \x7b value: " ++ value ++ ", encoding: " ++ encoding.describe ++ " \x7d"
  | call module member _ none =>
    "Import \x7b module: " ++ Text.quoted module ++ ", attribute: " ++ Text.quoted member ++
      ", cast_before: None \x7d"
  | call module member _ (some before) =>
    "Import \x7b module: " ++ Text.quoted module ++ ", attribute: " ++ Text.quoted member ++
      ", cast_before: Some(" ++ before.describe ++ ") \x7d"

end Cast

end LayeredConfig
