import LineTemplate.Text.Lines
import LineTemplate.Token

/-!
# Faults of a template

What can be wrong with a template before any data is seen: the cause, and the place that it is
reported at. The causes hold no positions, so that a fault moves with its line.
-/

namespace LineTemplate

inductive Expectation where
  | operand
  | literal
  | variableName
  | pathSegment
  | indexOrKey
  | pipeName
  | rightParen
  | commaOrRightParen
  | rightBracket
  | itemName
  | indexName
  | sourceWord
  | loopOption
  | string
  | messageWord
  | message
  | definition
  | endOfLine
  /-- A branch of the given kind, the default branch or the end of the selection. -/
  | branch (d : Directive)
  deriving DecidableEq, Repr

namespace Expectation

def text : Expectation → String
  | .operand => "operand"
  | .literal => "literal"
  | .variableName => "variable name"
  | .pathSegment => "path segment"
  | .indexOrKey => "index or quoted key"
  | .pipeName => "pipe name"
  | .rightParen => "')'"
  | .commaOrRightParen => "',' or ')'"
  | .rightBracket => "']'"
  | .itemName => "loop item name"
  | .indexName => "loop index name"
  | .sourceWord => "'of'"
  | .loopOption => "'delimiter', 'open', 'close' or end of line"
  | .string => "string"
  | .messageWord => "'throw'"
  | .message => "message string"
  | .definition => "'='"
  | .endOfLine => "end of line"
  | .branch d =>
    d.text ++ ", " ++ Directive.default.text ++ " or " ++ Directive.endSelection.text

end Expectation

inductive Fault where
  /-- A token that nothing can be made of at its place. -/
  | unexpected (kind : Token.Kind) (literal : String) (expected : Expectation)
  /-- A block that the template ends in. -/
  | unterminated (opener : Directive) (closers : List Directive)
  /-- A line that does not belong inside the block it stands in. -/
  | misplaced (kind : Token.Kind) (opener : Directive) (closers : List Directive)
  /-- A line that only makes sense inside a block and stands in none. -/
  | unmatched (kind : Token.Kind)
  | unknownDirective (literal : String)
  | duplicateDefault (opener : Directive)
  | duplicateOption (word : String)
  | invalidIndex (literal : String)
  deriving DecidableEq, Repr

namespace Fault

def choice (ds : List Directive) : String := Text.joinWith " or " (ds.map Directive.text)

def message : Fault → String
  | .unexpected kind literal expected =>
    "Unexpected " ++ Token.describe ⟨kind, literal, ⟨0, 0⟩⟩ ++ ", expected " ++ expected.text
  | .unterminated opener closers =>
    "Unterminated " ++ opener.text ++ ", expected " ++ choice closers
  | .misplaced kind opener closers =>
    "Unexpected " ++ kind.describe ++ " inside " ++ opener.text ++ ", expected " ++ choice closers
  | .unmatched kind => "Unexpected " ++ kind.describe ++ " without a matching opener"
  | .unknownDirective literal => "Unknown directive '" ++ literal ++ "'"
  | .duplicateDefault opener =>
    "Duplicate " ++ Directive.default.text ++ " in " ++ opener.text
  | .duplicateOption word => "Duplicate '" ++ word ++ "' in " ++ Directive.loop.text
  | .invalidIndex literal => "Invalid index '" ++ literal ++ "'"

end Fault

structure SyntaxError where
  fault : Fault
  pos : Position
  deriving DecidableEq, Repr

namespace SyntaxError

/-- The same fault, `n` lines further down. -/
def down (n : Nat) (e : SyntaxError) : SyntaxError := { e with pos := e.pos.down n }

end SyntaxError

/-- Two steps succeed when the second one does with what the first one gives. -/
theorem bind_eq_ok {ε α β : Type} {x : Except ε α} {f : α → Except ε β} {r : β} :
    x >>= f = .ok r ↔ ∃ a, x = .ok a ∧ f a = .ok r := by
  cases x <;> simp [bind, Except.bind]

/-- Two steps fail when the first one does or the second one with what the first one gives. -/
theorem bind_eq_error {ε α β : Type} {x : Except ε α} {f : α → Except ε β} {e : ε} :
    x >>= f = .error e ↔ x = .error e ∨ ∃ a, x = .ok a ∧ f a = .error e := by
  cases x <;> simp [bind, Except.bind]

theorem map_eq_ok {ε α β : Type} {x : Except ε α} {f : α → β} {r : β} :
    x.map f = .ok r ↔ ∃ a, x = .ok a ∧ f a = r := by
  cases x <;> simp [Except.map]

theorem map_eq_error {ε α β : Type} {x : Except ε α} {f : α → β} {e : ε} :
    x.map f = .error e ↔ x = .error e := by
  cases x <;> simp [Except.map]

theorem map_map {ε α β γ : Type} (x : Except ε α) (f : α → β) (k : β → γ) :
    (x.map f).map k = x.map fun a => k (f a) := by
  cases x <;> rfl

end LineTemplate
