import LayeredConfig.Expr.Arithmetic

/-!
# Indexing

Sequences and strings are indexed by position, strings by character; a negative position counts
from the end. Maps are indexed by key.
-/

namespace LayeredConfig.Expr

/-- The place that a position denotes among `length` items. -/
def position (index : Int64) (length : Nat) : Outcome Nat :=
  match Integer.ofInt? length with
  | none => .error .overflow
  | some n =>
    match if index.toInt < 0 then unchecked .sum (index.toInt + n.toInt) else .ok index with
    | .error e => .error e
    | .ok place =>
      if 0 ≤ place.toInt ∧ place.toInt < n.toInt then .ok place.toInt.toNat
      else .error (.indexOutOfRange index)

/-- The item of a list at a position. -/
def itemAt {α : Type} (items : List α) (index : Int64) : Outcome α :=
  match position index items.length with
  | .error e => .error e
  | .ok place => match items[place]? with
    | some item => .ok item
    | none => .error (.fault .place)

/-- The part of a value at an index. -/
def indexed : Value → Value → Outcome Value
  | .map entries, .string key => match Entries.get? key entries with
    | some v => .ok v
    | none => .error (.keyNotFound key)
  | .array items, .integer i => itemAt items i
  | .string s, .integer i => (itemAt s.toList i).map fun c => .string c.toString
  | target, index => .error (.cannotIndex target.kind index.kind)

end LayeredConfig.Expr
