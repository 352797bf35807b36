import LineTemplate.Fields
import LineTemplate.Value

/-!
# Scopes

The names that are bound at some moment of a rendering. A name is looked for in the frames of the
loops around, from the innermost outwards, then among the definitions outside of loops, then in
the data. What is defined inside a loop belongs to the current iteration of the innermost one.
-/

namespace LineTemplate

/-- The names of one iteration of a loop: those of its item and index, and those defined in it.
The loop is known by its place among all loops that the rendering has entered. -/
structure Iteration where
  occurrence : Nat
  number : Nat
  bindings : Fields Value
  vars : Fields Value

/-- What is bound, with the frames from the innermost outwards. -/
structure Scope where
  context : Fields Value
  defined : Fields Value
  frames : List Iteration

namespace Iteration

def get? (f : Iteration) (name : String) : Option Value := f.vars.get? name <|> f.bindings.get? name

end Iteration

namespace Scope

def ofContext (context : Fields Value) : Scope := ⟨context, [], []⟩

def get? (s : Scope) (name : String) : Option Value :=
  s.frames.findSome? (·.get? name) <|> s.defined.get? name <|> s.context.get? name

def isBound (s : Scope) (name : String) : Bool := (s.get? name).isSome

def inLoop (s : Scope) : Bool := !s.frames.isEmpty

def push (s : Scope) (f : Iteration) : Scope := { s with frames := f :: s.frames }

def pop (s : Scope) : Scope := { s with frames := s.frames.tail }

def define (s : Scope) (name : String) (v : Value) : Scope :=
  match s.frames with
  | [] => { s with defined := s.defined.set name v }
  | f :: outer => { s with frames := { f with vars := f.vars.set name v } :: outer }

end Scope

end LineTemplate
