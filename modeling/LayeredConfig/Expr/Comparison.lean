import LayeredConfig.Expr.Arithmetic

/-!
# Comparison

Numbers are compared by value, two integers exactly and any other two as floats; strings by code
points. Values of other kinds have no order and are equal when they are alike.
-/

namespace LayeredConfig.Expr

/-- Whether two values are equal. -/
def equal (left right : Value) : Bool :=
  match Number.ofValue? left, Number.ofValue? right with
  | some (.integer a), some (.integer b) => a == b
  | some a, some b => a.toFloat == b.toFloat
  | _, _ => left.same right

/-- The order of two strings. -/
def stringOrder (a b : String) : Ordering :=
  if a < b then .lt else if a = b then .eq else .gt

/-- The order of two numbers; there is none when either is no number. -/
def numberOrder? : Number → Number → Option Ordering
  | .integer a, .integer b =>
    some (if a.toInt < b.toInt then .lt else if a.toInt = b.toInt then .eq else .gt)
  | a, b => Binary64.compare? a.toFloat b.toFloat

/-- The order of two values, if they have one. -/
def order? (left right : Value) : Option Ordering :=
  match left, right with
  | .string a, .string b => some (stringOrder a b)
  | left, right => match Number.ofValue? left, Number.ofValue? right with
    | some a, some b => numberOrder? a b
    | _, _ => none

/-- The order of two values. -/
def order (left right : Value) : Outcome Ordering :=
  match order? left right with
  | some o => .ok o
  | none => .error (.cannotOrder left.kind right.kind)

/-- Whether `part` occurs in a text. -/
def occursIn (part : List Char) : List Char → Bool
  | [] => part.isEmpty
  | c :: rest => part.isPrefixOf (c :: rest) || occursIn part rest

/-- Whether an item is a part of a string, an item of a sequence or a key of a map. -/
def contains (container item : Value) : Outcome Bool :=
  match container, item with
  | .string s, .string part => .ok (occursIn part.toList s.toList)
  | .array items, item => .ok (items.any (equal · item))
  | .map entries, .string key => .ok (Entries.contains key entries)
  | container, item => .error (.noMembership item.kind container.kind)

/-- Whether a comparison holds. -/
def holds (op : CompareOp) (left right : Value) : Outcome Bool :=
  match op with
  | .eq => .ok (equal left right)
  | .ne => .ok (!equal left right)
  | .lt => (order left right).map (· == .lt)
  | .le => (order left right).map (· != .gt)
  | .gt => (order left right).map (· == .gt)
  | .ge => (order left right).map (· != .lt)
  | .isIn => contains right left
  | .notIn => (contains right left).map not

end LayeredConfig.Expr
