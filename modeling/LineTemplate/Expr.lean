import LineTemplate.Path

/-!
# Expressions

What stands behind the word of a directive: operands, each a literal or a variable with pipes
behind it, comparisons between them, and the connectives of logic.
-/

namespace LineTemplate

inductive Literal where
  | string (s : String)
  | number (n : Number)
  | bool (b : Bool)
  | null
  | blank
  /-- A number that is beyond the doubles. -/
  | malformed (text : String) (pos : Position)
  deriving DecidableEq, Repr

/-- A pipe with its arguments; the position is that of its name. -/
structure PipeCall where
  name : String
  args : List Literal
  pos : Position
  deriving DecidableEq, Repr

inductive Term where
  | literal (l : Literal)
  | variable (p : Path)
  deriving DecidableEq, Repr

structure Operand where
  term : Term
  pipes : List PipeCall
  pos : Position
  deriving DecidableEq, Repr

inductive Expr where
  | operand (o : Operand)
  | not (e : Expr)
  | compare (c : Comparator) (left right : Expr) (pos : Position)
  | and (left right : Expr)
  | or (left right : Expr)
  deriving DecidableEq, Repr

namespace Literal

/-- The value of a literal, which for a malformed number is its text. -/
def toValue : Literal → Value
  | .string s => .string s
  | .number n => .number n
  | .bool b => .bool b
  | .null => .null
  | .blank => .string ""
  | .malformed text _ => .string text

def string? : Literal → Option String
  | .string s => some s
  | _ => none

/-- The same literal, `n` lines further down. -/
def down (n : Nat) : Literal → Literal
  | .malformed text pos => .malformed text (pos.down n)
  | l => l

end Literal

namespace PipeCall

def down (n : Nat) (c : PipeCall) : PipeCall :=
  { c with args := c.args.map (Literal.down n), pos := c.pos.down n }

end PipeCall

namespace Term

def down (n : Nat) : Term → Term
  | .literal l => .literal (l.down n)
  | .variable p => .variable p

end Term

namespace Operand

def down (n : Nat) (o : Operand) : Operand :=
  ⟨o.term.down n, o.pipes.map (PipeCall.down n), o.pos.down n⟩

end Operand

namespace Expr

def operands : Expr → List Operand
  | .operand o => [o]
  | .not e => e.operands
  | .compare _ left right _ => left.operands ++ right.operands
  | .and left right => left.operands ++ right.operands
  | .or left right => left.operands ++ right.operands

/-- The same expression, `n` lines further down. -/
def down (n : Nat) : Expr → Expr
  | .operand o => .operand (o.down n)
  | .not e => .not (e.down n)
  | .compare c left right pos => .compare c (left.down n) (right.down n) (pos.down n)
  | .and left right => .and (left.down n) (right.down n)
  | .or left right => .or (left.down n) (right.down n)

end Expr

end LineTemplate
