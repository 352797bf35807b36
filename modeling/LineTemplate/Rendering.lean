import LineTemplate.Block
import LineTemplate.Comparison
import LineTemplate.Engine
import LineTemplate.Scope

/-!
# Rendering

A template is rendered block by block. A text line gives itself, inside loops in the form that
the formatter gives it; a directive gives the text of the body that it selects, or nothing. The
texts of a list of blocks are put together line by line, and directives of which nothing but
white space is left are dropped.

The state of a rendering is what its blocks can see or leave behind: the names that are bound,
the definitions made inside loops, the number of loops entered, and the patterns read so far.
-/

namespace LineTemplate

/-- A definition made inside a loop: its name, the place of the loop among all that have been
entered, and the number of the iteration. -/
structure LoopKey where
  name : String
  occurrence : Nat
  iteration : Nat
  deriving DecidableEq, Repr

namespace LoopKey

/-- By the name first, then by the loop, then by the iteration. -/
def precedes (a b : LoopKey) : Bool :=
  a.name < b.name || (a.name = b.name && (a.occurrence < b.occurrence
    || (a.occurrence = b.occurrence && a.iteration < b.iteration)))

end LoopKey

/-- The values of definitions made inside loops, ascending by their keys. -/
abbrev LoopVars := List (LoopKey × Value)

namespace LoopVars

def set (vars : LoopVars) (key : LoopKey) (v : Value) : LoopVars :=
  match vars with
  | [] => [(key, v)]
  | (k, old) :: rest =>
    if key.precedes k then (key, v) :: (k, old) :: rest
    else if key = k then (key, v) :: rest
    else (k, old) :: set rest key v

end LoopVars

structure State where
  scope : Scope
  loopVars : LoopVars
  /-- How many loops have been entered. -/
  loops : Nat
  patterns : Pattern.Known

namespace State

def start (context : Fields Value) : State := ⟨.ofContext context, [], 0, []⟩

end State

/-- What a template becomes: its text, the definitions outside of loops and those inside. -/
structure Rendering where
  output : String
  defined : Fields Value
  loopVars : LoopVars

namespace Literal

/-- The value of a literal, unless it is malformed. -/
def value : Literal → Except Error Value
  | .malformed text pos => .error (.operandType (.malformed text) pos)
  | l => .ok l.toValue

/-- Whether the value is equal to one of the literals, which are looked at in order. -/
def anyEq (v : Value) : List Literal → Except Error Bool
  | [] => .ok false
  | l :: more => do
    let w ← l.value
    if v.looseEq w then return true else anyEq v more

def checkAll : List Literal → Except Error Unit
  | [] => .ok ()
  | l :: more => do
    let _ ← l.value
    checkAll more

end Literal

namespace Engine

variable (g : Engine)

/-! ### Values of expressions -/

def lookup (scope : Scope) (p : Path) : Option Value :=
  (scope.get? p.root).bind fun root => g.accessor.resolve root p.rest

def pipeThrough (v : Value) : List PipeCall → Except Error Value
  | [] => .ok v
  | call :: more =>
    match g.pipes.get? call.name with
    | none => .error (.pipeNotFound call.name call.pos)
    | some pipe => do
      Literal.checkAll call.args
      let w ← pipe v call.args
      pipeThrough w more

def term (scope : Scope) : Term → Except Error Value
  | .literal l => l.value
  | .variable p => .ok ((g.lookup scope p).getD .null)

def operand (scope : Scope) (o : Operand) : Except Error Value := do
  let v ← g.term scope o.term
  g.pipeThrough v o.pipes

/-- The value of an expression, and the patterns known behind it. The right side of a connective
is looked at only if the left side does not settle it. -/
def expression (scope : Scope) :
    Expr → Pattern.Known → Except Error (Value × Pattern.Known)
  | .operand o, known => do
    let v ← g.operand scope o
    return (v, known)
  | .not e, known => do
    let (v, known) ← expression scope e known
    return (.bool !v.isTruthy, known)
  | .and l r, known => do
    let (v, known) ← expression scope l known
    if v.isTruthy then
      let (w, known) ← expression scope r known
      return (.bool w.isTruthy, known)
    else return (.bool false, known)
  | .or l r, known => do
    let (v, known) ← expression scope l known
    if v.isTruthy then return (.bool true, known)
    else
      let (w, known) ← expression scope r known
      return (.bool w.isTruthy, known)
  | .compare c l r pos, known => do
    let (v, known) ← expression scope l known
    let (w, known) ← expression scope r known
    let (holds, known) ← c.apply g.patterns v w pos known
    return (.bool holds, known)

def evaluate (e : Expr) (s : State) : Except Error (Value × State) := do
  let (v, patterns) ← g.expression s.scope e s.patterns
  return (v, { s with patterns })

def holds (e : Expr) (s : State) : Except Error (Bool × State) := do
  let (v, s) ← g.evaluate e s
  return (v.isTruthy, s)

/-! ### Loops -/

def checkFree (s : State) (b : Binding) : Except Error Unit :=
  if s.scope.isBound b.name then .error (.duplicateBinding b.name b.pos) else .ok ()

def checkLoop (s : State) (l : Loop) : Except Error Unit :=
  match l.index with
  | none => checkFree s l.item
  | some index =>
    if index.name = l.item.name then .error (.duplicateBinding index.name index.pos)
    else do
      checkFree s index
      checkFree s l.item

def iteration (l : Loop) (occurrence number : Nat) (item : Value) : Iteration where
  occurrence
  number
  bindings := match l.index with
    | none => [(l.item.name, item)]
    | some index => Fields.set [(l.item.name, item)] index.name (.count number)
  vars := []

/-- The texts that are not blank of the iterations from `number` on. -/
def iterate (body : State → Except Error (String × State)) (l : Loop) (occurrence : Nat) :
    Nat → List Value → State → Except Error (List String × State)
  | _, [], s => .ok ([], s)
  | number, item :: more, s => do
    let frame := iteration l occurrence number item
    let (text, s) ← body { s with scope := s.scope.push frame }
    let (texts, s) ← iterate body l occurrence (number + 1) more { s with scope := s.scope.pop }
    return (if Text.isBlank text then texts else text :: texts, s)

def loopText (l : Loop) : List String → String
  | [] => ""
  | texts =>
    l.opening.getD "" ++ Text.joinWith (l.delimiter.getD g.config.delimiter) texts
      ++ l.closing.getD ""

/-! ### Blocks -/

/-- A text line, formatted inside loops only. -/
def textLine (content : String) (s : State) : Except Error (String × State) :=
  if s.scope.inLoop then do
    let text ← g.formatter.format content (g.lookup s.scope)
    return (text, s)
  else .ok (content, s)

def define (name : Binding) (value : Expr) (s : State) : Except Error (String × State) := do
  checkFree s name
  let (v, s) ← g.evaluate value s
  let loopVars := match s.scope.frames with
    | [] => s.loopVars
    | f :: _ => s.loopVars.set ⟨name.name, f.occurrence, f.number⟩ v
  return ("", { s with scope := s.scope.define name.name v, loopVars })

def joinLines (result : Except Error (List String × State)) : Except Error (String × State) := do
  let (texts, s) ← result
  return (Text.joinWith "\n" texts, s)

def guardMessage : String := "guard condition failed"

mutual

def block : Block → State → Except Error (String × State)
  | .text content _, s => g.textLine content s
  | .condition test body otherwise _, s => do
    let (holds, s) ← g.holds test s
    if holds then joinLines (blocks body s) else optional otherwise s
  | .switch subject cases default _, s => do
    let v ← g.operand s.scope subject
    match ← selected v cases s with
    | some result => return result
    | none => optional default s
  | .choose whens default _, s => do
    let (result, s) ← chosen whens s
    match result with
    | some text => return (text, s)
    | none => optional default s
  | .loop header body _, s => do
    let occurrence := s.loops
    let s := { s with loops := s.loops + 1 }
    checkLoop s header
    let v ← g.operand s.scope header.source
    let (texts, s) ← iterate (fun s => joinLines (blocks body s)) header occurrence 0 v.items s
    return (g.loopText header texts, s)
  | .guard test body message pos, s => do
    let (holds, s) ← g.holds test s
    if holds then joinLines (blocks body s)
    else throw (.guardViolation (message.getD guardMessage) pos)
  | .check test message pos, s => do
    let (holds, s) ← g.holds test s
    if holds then throw (.checkViolation message pos) else return ("", s)
  | .define name value _, s => g.define name value s

/-- The texts of blocks, without the blank texts of directives. -/
def blocks : List Block → State → Except Error (List String × State)
  | [], s => .ok ([], s)
  | b :: more, s => do
    let (text, s) ← block b s
    let (texts, s) ← blocks more s
    return (if b.isText || !Text.isBlank text then text :: texts else texts, s)

def optional : Option (List Block) → State → Except Error (String × State)
  | none, s => .ok ("", s)
  | some body, s => joinLines (blocks body s)

/-- The text of the first case that the value selects, if any does. -/
def selected (v : Value) : List (Branch (List Literal) Block) → State →
    Except Error (Option (String × State))
  | [], _ => .ok none
  | ⟨values, body, _⟩ :: more, s => do
    if ← Literal.anyEq v values then
      let result ← joinLines (blocks body s)
      return some result
    else selected v more s

/-- The text of the first branch whose condition holds, if any does. -/
def chosen : List (Branch Expr Block) → State → Except Error (Option String × State)
  | [], s => .ok (none, s)
  | ⟨test, body, _⟩ :: more, s => do
    let (holds, s) ← g.holds test s
    if holds then
      let (text, s) ← joinLines (blocks body s)
      return (some text, s)
    else chosen more s

end

def renderBlocks (bs : List Block) (context : Fields Value) : Except Error Rendering := do
  let (output, s) ← joinLines (g.blocks bs (.start context))
  return ⟨output, s.scope.defined, s.loopVars⟩

end Engine

end LineTemplate
