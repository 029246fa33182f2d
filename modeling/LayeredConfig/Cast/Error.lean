import LayeredConfig.Encoding
import LayeredConfig.Expr.EvalError
import LayeredConfig.Text.Quoted

/-!
# Why a cast fails

One constructor for each cause. Functions that are registered from outside word their failures
themselves.
-/

namespace LayeredConfig

/-- Why a cast rejects a value. -/
inductive CastError where
  | unknownFunction (module member : String)
  | evaluation (expression : String) (cause : Expr.EvalError)
  | unencodable (encoding : Encoding) (c : Char)
  | notAString (encoding : Encoding) (kind : String)
  | function (name reason : String)

/-- The wording of a cast error. -/
def CastError.message : CastError → String
  | unknownFunction module member =>
    "function '" ++ module ++ "." ++ member ++ "' is not in the allow-list"
  | evaluation expression cause => "expression '" ++ expression ++ "' failed: " ++ cause.message
  | unencodable encoding c =>
    "cannot encode value as " ++ encoding.name ++ ": character " ++ Text.quotedSingle c ++
      " is out of range"
  | notAString encoding kind =>
    "cannot encode value as " ++ encoding.name ++ ": expected a string, got " ++ kind
  | function name reason => "'" ++ name ++ "' failed: " ++ reason

end LayeredConfig
