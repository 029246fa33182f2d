import LayeredConfig.Expr.Lexer
import LayeredConfig.Expr.Node

/-!
# From tokens to expression trees

The grammar, from the loosest binding to the tightest:

    or         = and ("or" and)*
    and        = not ("and" not)*
    not        = "not" not | comparison
    comparison = additive (cmp additive)*      cmp = == != < <= > >= in, not in
    additive   = term (("+" | "-") term)*
    term       = unary (("*" | "/" | "//" | "%") unary)*
    unary      = ("-" | "+") unary | power
    power      = postfix ["**" unary]
    postfix    = atom ("[" or "]")*
    atom       = literal | "x" | "(" or ")" | "[" items "]" | function "(" items ")"

Operands of `not` and of signs, exponents, and whatever stands between brackets lie one level deeper
than what surrounds them. A `Level` holds the readers that a construct one level up may call, and
`Level.above` builds those of the next level up from them. Each reader is then a plain function of
the level below it, and only the repetitions recurse, over the tokens that are left.
-/

namespace LayeredConfig.Expr

/-- A reader takes a phrase off the front of the tokens. -/
abbrev Reader (α : Type) := List Token → Except SyntaxError (α × List Token)

/-- The readers for phrases one level deeper. -/
structure Level where
  or : Reader Node
  not : Reader Node
  unary : Reader Node

/-- Below the last level every phrase is too deep. -/
def Level.bottom : Level :=
  ⟨fun _ => .error .tooDeep, fun _ => .error .tooDeep, fun _ => .error .tooDeep⟩

/-- Takes a symbol off the front of the tokens. -/
def expect (symbol : Symbol) : List Token → Except SyntaxError (List Token)
  | .symbol s :: rest => if s = symbol then .ok rest else .error (.expected symbol)
  | _ => .error (.expected symbol)

/-- Reads further operands as long as an operator stands before them, and combines them with `left`
from left to right. Every round uses up a token, so `fuel` is never short when it starts as the
number of tokens. -/
def chainFrom (operand : Reader Node) (operator : Token → Option (Node → Node → Node)) :
    (fuel : Nat) → (left : Node) → Reader Node
  | 0, left, tokens => .ok (left, tokens)
  | _ + 1, left, [] => .ok (left, [])
  | fuel + 1, left, token :: rest => match operator token with
    | none => .ok (left, token :: rest)
    | some combine => match operand rest with
      | .error e => .error e
      | .ok (right, rest) => chainFrom operand operator fuel (combine left right) rest

/-- Reads operands with operators between them, combined from left to right. -/
def chain (operand : Reader Node) (operator : Token → Option (Node → Node → Node)) : Reader Node :=
  fun tokens => match operand tokens with
    | .error e => .error e
    | .ok (first, rest) => chainFrom operand operator rest.length first rest

/-- The tree builder of a keyword. -/
def keyword (name : String) (build : Node → Node → Node) : Token → Option (Node → Node → Node)
  | .word w => if w = name then some build else none
  | _ => none

/-- The operators `+` and `-` between terms. -/
def additiveOperator : Token → Option (Node → Node → Node)
  | .symbol .plus => some (.binary .add)
  | .symbol .minus => some (.binary .sub)
  | _ => none

/-- The operators `*`, `/`, `//` and `%` between factors. -/
def termOperator : Token → Option (Node → Node → Node)
  | .symbol .star => some (.binary .mul)
  | .symbol .floorDivide => some (.binary .floorDiv)
  | .symbol .slash => some (.binary .div)
  | .symbol .percent => some (.binary .mod)
  | _ => none

/-- Takes a comparison operator off the front of the tokens, if one stands there. -/
def comparison? : List Token → Option (CompareOp × List Token)
  | .symbol .equal :: rest => some (.eq, rest)
  | .symbol .notEqual :: rest => some (.ne, rest)
  | .symbol .less :: rest => some (.lt, rest)
  | .symbol .atMost :: rest => some (.le, rest)
  | .symbol .greater :: rest => some (.gt, rest)
  | .symbol .atLeast :: rest => some (.ge, rest)
  | .word first :: rest =>
    if first = "in" then some (.isIn, rest)
    else match rest with
      | .word second :: rest =>
        if first = "not" ∧ second = "in" then some (.notIn, rest) else none
      | _ => none
  | _ => none

/-- Reads the links of a chain of comparisons. -/
def linksFrom (operand : Reader Node) : (fuel : Nat) → Reader (List (CompareOp × Node))
  | 0, tokens => .ok ([], tokens)
  | fuel + 1, tokens => match comparison? tokens with
    | none => .ok ([], tokens)
    | some (op, rest) => match operand rest with
      | .error e => .error e
      | .ok (node, rest) => match linksFrom operand fuel rest with
        | .error e => .error e
        | .ok (links, rest) => .ok ((op, node) :: links, rest)

/-- A comparison without links is its first operand. -/
def Node.ofLinks (first : Node) : List (CompareOp × Node) → Node
  | [] => first
  | link :: links => .compare first (link :: links)

/-- Reads items separated by commas up to and including `close`; a comma may stand before it. -/
def itemsFrom (item : Reader Node) (close : Symbol) : (fuel : Nat) → Reader (List Node)
  | 0, _ => .error .unexpectedEnd
  | fuel + 1, tokens => match expect close tokens with
    | .ok rest => .ok ([], rest)
    | .error _ => match item tokens with
      | .error e => .error e
      | .ok (node, .symbol .comma :: rest) => match itemsFrom item close fuel rest with
        | .error e => .error e
        | .ok (nodes, rest) => .ok (node :: nodes, rest)
      | .ok (node, rest) => match expect close rest with
        | .error e => .error e
        | .ok rest => .ok ([node], rest)

/-- Reads indices in brackets after `node`. -/
def indicesFrom (item : Reader Node) : (fuel : Nat) → (node : Node) → Reader Node
  | 0, node, tokens => .ok (node, tokens)
  | fuel + 1, node, .symbol .openBracket :: rest => match item rest with
    | .error e => .error e
    | .ok (index, rest) => match expect .closeBracket rest with
      | .error e => .error e
      | .ok rest => indicesFrom item fuel (.index node index) rest
  | _ + 1, node, tokens => .ok (node, tokens)

/-- The literal or variable of a word that stands for a value. -/
def wordAtom? (name : String) : Option Node :=
  if name = "x" then some .var
  else if name = "true" ∨ name = "True" then some (.literal (.bool true))
  else if name = "false" ∨ name = "False" then some (.literal (.bool false))
  else if name = "null" ∨ name = "None" then some (.literal .null)
  else none

namespace Level

/-- Reads a call after the name of its function. -/
def call (inner : Level) (name : String) : Reader Node := fun tokens =>
  match Builtin.ofName? name with
  | none => .error (.unknownName name)
  | some function => match expect .openParen tokens with
    | .error e => .error e
    | .ok rest => match itemsFrom inner.or .closeParen (rest.length + 1) rest with
      | .error e => .error e
      | .ok (arguments, rest) =>
        if function.accepts arguments.length then .ok (.call function arguments, rest)
        else .error (.argumentCount name)

/-- Reads a literal, the variable, a parenthesis, a list or a call. -/
def atom (inner : Level) : Reader Node
  | [] => .error .unexpectedEnd
  | .integer i :: rest => .ok (.literal (.integer i), rest)
  | .float x :: rest => .ok (.literal (.float x), rest)
  | .string s :: rest => .ok (.literal (.string s), rest)
  | .symbol .openParen :: rest => match inner.or rest with
    | .error e => .error e
    | .ok (node, rest) => match expect .closeParen rest with
      | .error e => .error e
      | .ok rest => .ok (node, rest)
  | .symbol .openBracket :: rest =>
    match itemsFrom inner.or .closeBracket (rest.length + 1) rest with
    | .error e => .error e
    | .ok (items, rest) => .ok (.list items, rest)
  | .word name :: rest => match wordAtom? name with
    | some node => .ok (node, rest)
    | none => inner.call name rest
  | token :: _ => .error (.unexpected token)

/-- Reads an atom with indices after it. -/
def postfixed (inner : Level) : Reader Node := fun tokens =>
  match inner.atom tokens with
  | .error e => .error e
  | .ok (node, rest) => indicesFrom inner.or rest.length node rest

/-- Reads a base and an optional exponent. -/
def power (inner : Level) : Reader Node := fun tokens =>
  match inner.postfixed tokens with
  | .error e => .error e
  | .ok (base, .symbol .power :: rest) => match inner.unary rest with
    | .error e => .error e
    | .ok (exponent, rest) => .ok (.binary .pow base exponent, rest)
  | .ok (base, rest) => .ok (base, rest)

/-- Reads a power with signs before it. -/
def signed (inner : Level) : Reader Node
  | .symbol .minus :: rest => match inner.unary rest with
    | .error e => .error e
    | .ok (node, rest) => .ok (.neg node, rest)
  | .symbol .plus :: rest => inner.unary rest
  | tokens => inner.power tokens

/-- Reads factors. -/
def term (inner : Level) : Reader Node := chain inner.signed termOperator

/-- Reads terms. -/
def additive (inner : Level) : Reader Node := chain inner.term additiveOperator

/-- Reads a chain of comparisons. -/
def comparison (inner : Level) : Reader Node := fun tokens =>
  match inner.additive tokens with
  | .error e => .error e
  | .ok (first, rest) => match linksFrom inner.additive rest.length rest with
    | .error e => .error e
    | .ok (links, rest) => .ok (Node.ofLinks first links, rest)

/-- Reads a comparison with `not` before it. -/
def negation (inner : Level) : Reader Node
  | .word name :: rest =>
    if name = "not" then match inner.not rest with
      | .error e => .error e
      | .ok (node, rest) => .ok (.not node, rest)
    else inner.comparison (.word name :: rest)
  | tokens => inner.comparison tokens

/-- Reads operands of `and`. -/
def conjunction (inner : Level) : Reader Node := chain inner.negation (keyword "and" .and)

/-- Reads operands of `or`. -/
def disjunction (inner : Level) : Reader Node := chain inner.conjunction (keyword "or" .or)

/-- The readers one level up. -/
def above (inner : Level) : Level := ⟨inner.disjunction, inner.negation, inner.signed⟩

/-- The readers that may open `depth` more levels. -/
def ofDepth : (depth : Nat) → Level
  | 0 => above bottom
  | depth + 1 => above (ofDepth depth)

end Level

/-- Reads a list of tokens that is one expression from end to end. -/
def parseTokens (tokens : List Token) : Except SyntaxError Node :=
  if maxTokens < tokens.length then .error .tooLong
  else match (Level.ofDepth maxDepth).or tokens with
    | .error e => .error e
    | .ok (node, []) => .ok node
    | .ok (_, token :: _) => .error (.trailing token)

/-- Reads a text that is one expression. -/
def parseNode (source : String) : Except SyntaxError Node :=
  match scan source.toList with
  | .error e => .error e
  | .ok tokens => parseTokens tokens

end LayeredConfig.Expr
