import LayeredConfig.Decimal.Reader
import LayeredConfig.Descriptor.Basic
import LayeredConfig.Value.Convert

/-!
# Converting a value to a shape

`Descriptor.convert` checks a value against a descriptor and changes it on the way: numbers and
truth values may be written as text, and absent keys take their defaults. The first fault in
declared-key and index order is reported, with its location.
-/

namespace LayeredConfig

/-- A step from a value to one of its parts. -/
inductive Step where
  | key (name : String)
  | index (place : Nat)
deriving DecidableEq, Repr

/-- Why a value does not have a shape. The location leads from the whole value to the fault. -/
inductive ValidationError where
  | missingKey (location : List Step)
  | invalid (location : List Step) (expected found : String)

namespace Step

/-- A location as a text that continues `before`: keys after a dot, places in brackets. -/
def renderAfter (before : String) : List Step → String
  | [] => before
  | key name :: steps => renderAfter (if before.isEmpty then name else before ++ "." ++ name) steps
  | index place :: steps => renderAfter (before ++ "[" ++ toString place ++ "]") steps

/-- A location as a text. -/
def render (location : List Step) : String := renderAfter "" location

end Step

/-- The wording of a validation error. -/
def ValidationError.message : ValidationError → String
  | missingKey location => "missing required key '" ++ Step.render location ++ "'"
  | invalid location expected found =>
    let path := Step.render location
    "'" ++ (if path.isEmpty then "(root)" else path) ++ "' should be " ++ expected ++ ", got " ++
      found

/-- The same error, seen from one step further up. -/
def ValidationError.below (step : Step) : ValidationError → ValidationError
  | missingKey location => missingKey (step :: location)
  | invalid location expected found => invalid (step :: location) expected found

namespace Descriptor

open LayeredConfig.Text (isDigit)

/-- One of the four numbers of an address: up to three digits, no leading zero, at most 255. -/
def isOctet (s : List Char) : Bool :=
  !s.isEmpty && s.length ≤ 3 && s.all isDigit && (s.length = 1 || s.head? ≠ some '0') &&
    Decimal.ofDigits s ≤ 255

/-- Four numbers with points between them. -/
def isIpv4 (s : String) : Bool :=
  let parts := s.toList.splitOn '.'
  parts.length = 4 && parts.all isOctet

/-- The conversion of a scalar; `none` if the descriptor rejects it. -/
def scalar? : Descriptor → Value → Option Value
  | any, v => some v
  | boolean, .bool b => some (.bool b)
  | boolean, .integer i => if i = 0 then some (.bool false) else if i = 1 then some (.bool true)
    else none
  | boolean, .string s => (Convert.boolOfWord? Convert.noWords (Convert.normalWord s)).map .bool
  | integer, .integer i => some (.integer i)
  | integer, .bool b => some (.integer (Convert.integerOfBool b))
  | integer, .float x => (Convert.integerOfFloat? x).map .integer
  | integer, .string s => (Decimal.integer? (Text.trim s)).map .integer
  | float, .float x => some (.float x)
  | float, .integer i => some (.float (Binary64.ofInt i.toInt))
  | float, .string s => (Decimal.number? (Text.trim s)).map .float
  | string, .string s => some (.string s)
  | string, .bool b => some (.string (Value.bool b).text)
  | string, .integer i => some (.string (Value.integer i).text)
  | string, .float x => some (.string (Value.float x).text)
  | ipv4, .string s => if isIpv4 s then some (.string s) else none
  | _, _ => none

/-- The outcome of a scalar conversion. -/
def convertScalar (d : Descriptor) (v : Value) : Except ValidationError Value :=
  match d.scalar? v with
  | some w => .ok w
  | none => .error (.invalid [] d.expected v.kind)

/-- The entries of undeclared keys, laid over the result. -/
def addUnknown (unknown : Option KeyMapper) (result rest : Entries Value) : Entries Value :=
  rest.foldl (fun result entry =>
    let value := match unknown with
      | some mapper => mapper entry.1 entry.2
      | none => entry.2
    Entries.insert entry.1 value result) result

/-- The items of a list, converted in order from place `place` on. -/
def convertItems (convert : Value → Except ValidationError Value) (place : Nat) :
    List Value → Except ValidationError (List Value)
  | [] => .ok []
  | v :: vs => match convert v with
    | .error e => .error (e.below (.index place))
    | .ok w => match convertItems convert (place + 1) vs with
      | .error e => .error e
      | .ok ws => .ok (w :: ws)

mutual

/-- Converts a value, or says where and why it does not have the shape. -/
def convert : Descriptor → Value → Except ValidationError Value
  | list item, .array items => match convertItems item.convert 0 items with
    | .error e => .error e
    | .ok items => .ok (.array items)
  | dict keys unknown, .map entries => match convertKeys keys entries [] with
    | .error e => .error e
    | .ok (rest, result) => .ok (.map (addUnknown unknown result rest))
  | d, v => d.convertScalar v

/-- Converts the values of the declared keys in order and adds them to `result`; also gives back
the entries whose keys are not declared. -/
def convertKeys : List (String × Descriptor × Presence) → Entries Value → Entries Value →
    Except ValidationError (Entries Value × Entries Value)
  | [], entries, result => .ok (entries, result)
  | (name, d, presence) :: keys, entries, result => match Entries.get? name entries with
    | some v => match d.convert v with
      | .error e => .error (e.below (.key name))
      | .ok w => convertKeys keys (Entries.erase name entries) (Entries.insert name w result)
    | none => match presence with
      | .required => .error (.missingKey [.key name])
      | .optional => convertKeys keys entries result
      | .default v => convertKeys keys entries (Entries.insert name v result)

end

end Descriptor

end LayeredConfig
