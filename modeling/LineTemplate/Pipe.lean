import LineTemplate.Error
import LineTemplate.Expr

/-!
# Pipes

A pipe makes a value from a value and some literals, or fails. Pipes are found by name, and a
custom pipe is found before a built-in pipe of the same name.
-/

namespace LineTemplate

abbrev Pipe := Value → List Literal → Except Error Value

structure PipeSet where
  custom : Fields Pipe
  builtin : Fields Pipe

namespace PipeSet

def empty : PipeSet := ⟨[], []⟩

/-- The set with one more custom pipe, in place of one of the same name. -/
def register (s : PipeSet) (name : String) (pipe : Pipe) : PipeSet :=
  { s with custom := s.custom.set name pipe }

def get? (s : PipeSet) (name : String) : Option Pipe := s.custom.get? name <|> s.builtin.get? name

def contains (s : PipeSet) (name : String) : Bool := (s.get? name).isSome

def isBuiltin (s : PipeSet) (name : String) : Bool := !s.custom.has name && s.builtin.has name

end PipeSet

end LineTemplate
