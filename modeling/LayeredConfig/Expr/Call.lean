import LayeredConfig.Decimal.Reader
import LayeredConfig.Expr.Comparison
import LayeredConfig.Text.Case
import LayeredConfig.Value.Text

/-!
# Functions

The functions of the expression language, applied to arguments that have been evaluated. `call` takes
the arguments that it needs without a look at their number, and faults if there are none: the parser
lets only calls through whose number of arguments `Builtin.accepts`.
-/

namespace LayeredConfig.Expr

/-- A float without fraction as an integer. The float `2 ^ 63` is taken for the greatest integer. -/
def integral (x : Float) : Outcome Value :=
  match Binary64.truncate? x with
  | some n =>
    if Integer.least ≤ n ∧ n ≤ Integer.greatest + 1 then
      .ok (.integer (Int64.ofInt (min n Integer.greatest)))
    else .error (.notAnInteger x)
  | none => .error (.notAnInteger x)

/-- The float without its fraction. -/
def truncated (x : Float) : Float := Binary64.roundBy (fun _ num den => num / den) x

/-- The number of items as an integer. -/
def count (n : Nat) : Outcome Value := checked n

/-- The value of a function of one argument. -/
def applyOne (function : Builtin) (argument : Value) : Outcome Value :=
  match function, argument with
  | .int, .integer i => .ok (.integer i)
  | .int, .bool b => .ok (.integer (if b then 1 else 0))
  | .int, .float x => integral (truncated x)
  | .int, .string s => match Decimal.integer? (Text.trim s) with
    | some i => .ok (.integer i)
    | none => .error (.invalidInteger s)
  | .float, .string s => match Decimal.number? (Text.trim s) with
    | some x => .ok (.float x)
    | none => .error (.invalidFloat s)
  | .float, v => match Number.ofValue? v with
    | some n => .ok (.float n.toFloat)
    | none => .error (.notANumber v.kind)
  | .str, v => .ok (.string v.text)
  | .bool, v => .ok (.bool v.isTruthy)
  | .len, .string s => count s.length
  | .len, .bytes b => count b.length
  | .len, .array items => count items.length
  | .len, .map entries => count entries.length
  | .upper, .string s => .ok (.string (Text.upper s))
  | .lower, .string s => .ok (.string (Text.lower s))
  | .strip, .string s => .ok (.string (Text.trim s))
  | .abs, .integer i => checked i.toInt.natAbs
  | .abs, .float x => .ok (.float x.abs)
  | function, v => .error (.notAccepted function v.kind)

/-- A number rounded to an integer, or to a number of decimal places by way of scaling. -/
def rounded (value : Value) (digits : Option Value) : Outcome Value :=
  match Number.ofValue? value with
  | none => .error (.notAccepted .round value.kind)
  | some number => match digits with
    | none => match number with
      | .integer i => .ok (.integer i)
      | .float x => integral (Binary64.round x)
    | some (.integer d) =>
      if -0x80000000 ≤ d.toInt ∧ d.toInt < 0x80000000 then
        let scale := Binary64.powInt 10.0 d.toInt
        .ok (.float (Binary64.round (number.toFloat * scale) / scale))
      else .error .overflow
    | some other => .error (.invalidDigits other.kind)

/-- The first of the items that none of the others beats, where an item beats the best one before
it when it stands to it in the order `beats`. -/
def extremeFrom (beats : Ordering) (best : Value) : List Value → Outcome Value
  | [] => .ok best
  | item :: items => match order item best with
    | .error e => .error e
    | .ok o => extremeFrom beats (if o = beats then item else best) items

/-- The least or greatest of the arguments, or of the items of a single sequence. -/
def extreme (beats : Ordering) (arguments : List Value) : Outcome Value :=
  let items := match arguments with
    | [.array items] => items
    | arguments => arguments
  match items with
  | [] => .error .emptySequence
  | best :: items => extremeFrom beats best items

/-- The first argument. -/
def firstArgument : List Value → Outcome Value
  | [] => .error (.fault .argument)
  | argument :: _ => .ok argument

/-- The value of a call. -/
def call (function : Builtin) (arguments : List Value) : Outcome Value :=
  match function with
  | .min => extreme .lt arguments
  | .max => extreme .gt arguments
  | .round => match arguments with
    | [value, digits] => rounded value (some digits)
    | arguments => match firstArgument arguments with
      | .error e => .error e
      | .ok value => rounded value none
  | function => match firstArgument arguments with
    | .error e => .error e
    | .ok argument => applyOne function argument

end LayeredConfig.Expr
