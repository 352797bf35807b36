import LineTemplate.Comparator
import LineTemplate.Directive
import LineTemplate.Position

/-!
# Tokens

The pieces that template text falls into. The literal of a string is what stands between its
quotes with the escapes taken away, that of a text line is the line, and that of every other
token is the piece of text itself.
-/

namespace LineTemplate

namespace Token

inductive Kind where
  | directive (d : Directive)
  | comparison (c : Comparator)
  /-- The word that announces the message of a check. -/
  | throw
  | identifier
  | string
  | number
  | colon
  | comma
  | dot
  | leftBracket
  | rightBracket
  | leftParen
  | rightParen
  | pipe
  | and
  | or
  | not
  /-- A whole line that is no directive. -/
  | text
  | endOfLine
  | endOfTemplate
  | unknown
  deriving DecidableEq, Repr

namespace Kind

def quoted (symbol : String) : String := "'" ++ symbol ++ "'"

def describe : Kind → String
  | .directive d => d.text
  | .comparison c => quoted c.symbol
  | .throw => "throw"
  | .identifier => "identifier"
  | .string => "string"
  | .number => "number"
  | .colon => quoted ":"
  | .comma => quoted ","
  | .dot => quoted "."
  | .leftBracket => quoted "["
  | .rightBracket => quoted "]"
  | .leftParen => quoted "("
  | .rightParen => quoted ")"
  | .pipe => quoted "|"
  | .and => quoted "&&"
  | .or => quoted "||"
  | .not => quoted "!"
  | .text => "text"
  | .endOfLine => "end of line"
  | .endOfTemplate => "end of template"
  | .unknown => "unknown token"

def isDirective : Kind → Bool
  | .directive _ => true
  | _ => false

def isComparison : Kind → Bool
  | .comparison _ => true
  | _ => false

end Kind

end Token

structure Token where
  kind : Token.Kind
  literal : String
  pos : Position
  deriving DecidableEq, Repr

namespace Token

/-- The token as messages name it: with its text where the kind alone does not tell it. -/
def describe (t : Token) : String :=
  match t.kind with
  | .identifier | .number | .unknown => t.kind.describe ++ " '" ++ t.literal ++ "'"
  | kind => kind.describe

/-- The same token, `n` lines further down. -/
def down (n : Nat) (t : Token) : Token := { t with pos := t.pos.down n }

end Token

end LineTemplate
