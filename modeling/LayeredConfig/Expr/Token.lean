import LayeredConfig.Decimal.Layout
import LayeredConfig.Text.Quoted

/-!
# Tokens of the expression language

Numbers, strings, words and symbols. Keywords and names are both words; the parser tells them apart
by their place.
-/

namespace LayeredConfig.Expr

/-- A symbol of the expression language. -/
inductive Symbol where
  | power
  | floorDivide
  | equal
  | notEqual
  | atMost
  | atLeast
  | plus
  | minus
  | star
  | slash
  | percent
  | less
  | greater
  | openParen
  | closeParen
  | openBracket
  | closeBracket
  | comma
deriving DecidableEq, Repr

/-- The characters of a symbol. -/
def Symbol.text : Symbol → String
  | power => "**"
  | floorDivide => "//"
  | equal => "=="
  | notEqual => "!="
  | atMost => "<="
  | atLeast => ">="
  | plus => "+"
  | minus => "-"
  | star => "*"
  | slash => "/"
  | percent => "%"
  | less => "<"
  | greater => ">"
  | openParen => "("
  | closeParen => ")"
  | openBracket => "["
  | closeBracket => "]"
  | comma => ","

/-- The symbol of two characters. -/
def Symbol.ofTwo? : Char → Char → Option Symbol
  | '*', '*' => some power
  | '/', '/' => some floorDivide
  | '=', '=' => some equal
  | '!', '=' => some notEqual
  | '<', '=' => some atMost
  | '>', '=' => some atLeast
  | _, _ => none

/-- The symbol of one character. -/
def Symbol.ofOne? : Char → Option Symbol
  | '+' => some plus
  | '-' => some minus
  | '*' => some star
  | '/' => some slash
  | '%' => some percent
  | '<' => some less
  | '>' => some greater
  | '(' => some openParen
  | ')' => some closeParen
  | '[' => some openBracket
  | ']' => some closeBracket
  | ',' => some comma
  | _ => none

/-- A token of the expression language. -/
inductive Token where
  | integer (value : Int64)
  | float (value : Float)
  | string (value : String)
  | word (name : String)
  | symbol (symbol : Symbol)

/-- The kind and content of a token. -/
def Token.describe : Token → String
  | integer i => "Int(" ++ Decimal.ofInteger i ++ ")"
  | float x => "Float(" ++ Decimal.detailed x ++ ")"
  | string s => "Str(" ++ Text.quoted s ++ ")"
  | word w => "Ident(" ++ Text.quoted w ++ ")"
  | symbol s => "Op(" ++ Text.quoted s.text ++ ")"

/-- Why a text is not an expression. -/
inductive SyntaxError where
  | invalidNumber (text : String)
  | unterminatedString
  | unexpectedCharacter (c : Char)
  | attributeAccess
  | tooLong
  | tooDeep
  | trailing (token : Token)
  | unexpected (token : Token)
  | unexpectedEnd
  | expected (symbol : Symbol)
  | unknownName (name : String)
  | argumentCount (name : String)

/-- The greatest number of tokens. -/
def maxTokens : Nat := 1024

/-- The greatest number of levels. -/
def maxDepth : Nat := 64

/-- The wording of a syntax error. -/
def SyntaxError.message : SyntaxError → String
  | invalidNumber text => "invalid number literal '" ++ text ++ "'"
  | unterminatedString => "unterminated string literal"
  | unexpectedCharacter c => "unexpected character '" ++ c.toString ++ "'"
  | attributeAccess => "attribute access is not allowed"
  | tooLong => "expression longer than " ++ toString maxTokens ++ " tokens"
  | tooDeep => "expression nested deeper than " ++ toString maxDepth ++ " levels"
  | trailing token => "unexpected " ++ token.describe ++ " after end of expression"
  | unexpected token => "unexpected " ++ token.describe
  | unexpectedEnd => "unexpected end of expression"
  | expected symbol => "expected '" ++ symbol.text ++ "'"
  | unknownName name => "unknown name '" ++ name ++ "'"
  | argumentCount name => "wrong number of arguments to '" ++ name ++ "'"

end LayeredConfig.Expr
