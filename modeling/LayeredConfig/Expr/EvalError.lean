import LayeredConfig.Decimal.Layout
import LayeredConfig.Expr.Node

/-!
# Why an evaluation fails

One constructor for each cause, with the operands' kinds or the text that the message shows. Apart
from these stand the faults: operations that have no result where they are applied, and that nothing
answers for.
-/

namespace LayeredConfig.Expr

/-- An operation outside of where it is defined. -/
inductive Fault where
  /-- A sum beyond 64 bits. -/
  | sum
  /-- A difference beyond 64 bits. -/
  | difference
  /-- A remainder by zero, or one whose quotient is beyond 64 bits. -/
  | remainder
  /-- An item at a place where there is none. -/
  | place
  /-- The first argument of a call without arguments. -/
  | argument
deriving DecidableEq, Repr

/-- The wording of a fault. -/
def Fault.words : Fault → String
  | sum => "attempt to add with overflow"
  | difference => "attempt to subtract with overflow"
  | remainder => "attempt to calculate the remainder without a quotient"
  | place => "no item at the place"
  | argument => "no first argument"

/-- Why an expression has no value. -/
inductive EvalError where
  | overflow
  | divisionByZero
  | cannotNegate (kind : String)
  | unsupportedOperands (op : BinaryOp) (left right : String)
  | repetitionTooLarge
  | cannotOrder (left right : String)
  | noMembership (item container : String)
  | keyNotFound (key : String)
  | cannotIndex (target index : String)
  | indexOutOfRange (index : Int64)
  | invalidInteger (text : String)
  | invalidFloat (text : String)
  | notANumber (kind : String)
  | notAccepted (function : Builtin) (kind : String)
  | notAnInteger (value : Float)
  | invalidDigits (kind : String)
  | emptySequence
  | fault (cause : Fault)

/-- The wording of an evaluation error. -/
def EvalError.message : EvalError → String
  | overflow => "integer overflow"
  | divisionByZero => "division by zero"
  | cannotNegate kind => "cannot negate " ++ kind
  | unsupportedOperands op left right =>
    "unsupported operand types for " ++ op.name ++ ": " ++ left ++ " and " ++ right
  | repetitionTooLarge => "repeated string too large"
  | cannotOrder left right => "cannot order " ++ left ++ " and " ++ right
  | noMembership item container =>
    "cannot test " ++ item ++ " for membership in " ++ container
  | keyNotFound key => "key '" ++ key ++ "' not found"
  | cannotIndex target index => "cannot index " ++ target ++ " with " ++ index
  | indexOutOfRange index => "index " ++ Decimal.ofInteger index ++ " out of range"
  | invalidInteger text => "invalid literal for int(): '" ++ text ++ "'"
  | invalidFloat text => "could not convert string to float: '" ++ text ++ "'"
  | notANumber kind => "float() argument must be a number, not " ++ kind
  | notAccepted function kind => function.name ++ "() does not accept " ++ kind
  | notAnInteger value => "cannot convert " ++ Decimal.plain value ++ " to integer"
  | invalidDigits kind => "round() digits must be an integer, not " ++ kind
  | emptySequence => "min()/max() of an empty sequence"
  | fault cause => cause.words

end LayeredConfig.Expr
