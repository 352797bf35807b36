import Mathlib
import LineTemplate.Block.Draft

/-!
# Reading by descent

The same language read token by token. A cursor stands at a token of the template, and every
construct has a routine, which calls the routines of its parts: blocks stand in the bodies of
blocks, and expressions between the brackets of expressions. A routine looks at the token at the
cursor and may take it, which moves the cursor on. The token that ends the template is never gone
past.

What happens on the way is noted: the places that are looked at, the tokens that are taken, and
from where to where every routine and every round of a loop has read. The routines are given a bound
on the rounds of a loop and on the calls inside each other, and have no result where they meet it.
-/

namespace LineTemplate

namespace Descent

/-! ### The cursor and its notes -/

inductive Routine where
  | condition | switch | choose | loop | guard | check | define | text
  /-- The blocks in front of a token of this kind, which closes them. -/
  | blocks (closer : Token.Kind)
  | branchBody | branches
  | expression | conjunction | comparison | unary | operand | literal | literals | path

inductive Round where
  | blocks | branches | blankText | options | literals | pipes | path | expression | conjunction

inductive Note where
  | looked (place : Nat)
  | taken (place : Nat)
  /-- The routine has come to its end, and the cursor has gone from `start` to `stop`. -/
  | done (routine : Routine) (start stop : Nat)
  /-- A round that does not leave its loop. -/
  | round (loop : Round) (start stop : Nat)

/-- The place of a token, and what has happened so far, newest first. -/
structure Cursor where
  place : Nat
  notes : List Note

namespace Cursor

def start : Cursor := ⟨0, []⟩

def noting (n : Note) (c : Cursor) : Cursor := { c with notes := n :: c.notes }

end Cursor

/-- What a routine makes of the tokens at a cursor; nothing where it meets its bound. -/
abbrev Run (α : Type) := ReaderT (List Token) (ExceptT SyntaxError (StateT Cursor Option)) α

variable {α σ : Type}

def exhausted : Run α := fun _ _ => none

def here : Run Nat := fun _ c => some (.ok c.place, c)

def note (n : Note) : Run Unit := fun _ c => some (.ok (), c.noting n)

/-- The token at a place, which is the last one for the places behind it. -/
def tokenAt (tokens : List Token) (place : Nat) : Token :=
  tokens.getD (min place (tokens.length - 1)) ⟨.endOfTemplate, "", ⟨0, 0⟩⟩

def look : Run Token := fun tokens c =>
  some (.ok (tokenAt tokens c.place), c.noting (.looked c.place))

def advance : Run Unit := fun _ c =>
  some (.ok (), { c with place := c.place + 1 }.noting (.taken c.place))

def take : Run Token := do
  let t ← look
  if t.kind ≠ .endOfTemplate then advance
  return t

def unexpected (expected : Expectation) : Run α := do
  let t ← look
  throw ⟨.unexpected t.kind t.literal expected, t.pos⟩

def expect (kind : Token.Kind) (expected : Expectation) : Run Token := do
  let t ← look
  if t.kind = kind then take else unexpected expected

def endOfLine : Run Unit := do
  let _ ← expect .endOfLine .endOfLine

/-- What was made of the token `t`. -/
def accept (t : Token) : Except Refusal α → Run α
  | .ok x => return x
  | .error r => throw (r.on t.pos)

/-- With a note of where the cursor was and where it has come to. -/
def noted (name : α → Nat → Nat → Note) (m : Run α) : Run α := do
  let start ← here
  let x ← m
  let stop ← here
  note (name x start stop)
  return x

def routine (name : Routine) (m : Run α) : Run α := noted (fun _ => .done name) m

/-- Rounds of a loop, until one of them leaves it. -/
def rounds (loop : Round) (body : σ → Run (σ ⊕ α)) : Nat → σ → Run α
  | 0, _ => exhausted
  | n + 1, s => do
    let start ← here
    match ← body s with
    | .inr x => return x
    | .inl next =>
      let stop ← here
      note (.round loop start stop)
      rounds loop body n next

/-- Rounds of a loop, as long as the token at the cursor goes on with it. -/
def roundsWhile (loop : Round) (goesOn : Token → Bool) (body : σ → Run σ) : Nat → σ → Run σ :=
  rounds loop fun s => do
    let t ← look
    if goesOn t then
      let next ← body s
      return .inl next
    else return .inr s

/-! ### Operands -/

def literal : Run Literal := routine .literal do
  let t ← look
  match Reader.literal? t with
  | none => unexpected .literal
  | some l =>
    let _ ← take
    return l

def nextLiteral (ls : List Literal) : Run (List Literal) := do
  let _ ← take
  let l ← literal
  return ls ++ [l]

def literals (n : Nat) : Run (List Literal) := routine .literals do
  let first ← literal
  roundsWhile .literals (·.kind = .comma) nextLiteral n [first]

def isStep (t : Token) : Bool := t.kind = .dot || t.kind = .leftBracket

def nextSteps (steps : List Segment) : Run (List Segment) := do
  let t ← take
  let s ← look
  if t.kind = .dot then
    let these ← accept s (Reader.dotted s)
    let _ ← take
    return steps ++ these
  else
    let this ← accept s (Reader.bracketed s)
    let _ ← take
    let _ ← expect .rightBracket .rightBracket
    return steps ++ [this]

def path (n : Nat) : Run Path := routine .path do
  let root ← expect .identifier .variableName
  let steps ← roundsWhile .path isStep nextSteps n []
  return ⟨root.literal, steps⟩

def arguments (n : Nat) : Run (List Literal) := do
  let t ← look
  if t.kind = .leftParen then
    let _ ← take
    let u ← look
    if u.kind = .rightParen then
      let _ ← take
      return []
    else
      let args ← literals n
      let _ ← expect .rightParen .commaOrRightParen
      return args
  else return []

def nextPipe (n : Nat) (calls : List PipeCall) : Run (List PipeCall) := do
  let _ ← take
  let name ← expect .identifier .pipeName
  let args ← arguments n
  return calls ++ [⟨name.literal, args, name.pos⟩]

def pipes (n : Nat) : Run (List PipeCall) :=
  roundsWhile .pipes (·.kind = .pipe) (nextPipe n) n []

def term (n : Nat) : Run Term := do
  let t ← look
  if t.kind = .colon then
    let _ ← take
    let p ← path n
    return .variable p
  else if (Reader.literal? t).isSome then
    let l ← literal
    return .literal l
  else unexpected .operand

def operand (n : Nat) : Run Operand := routine .operand do
  let t ← look
  let term ← term n
  let pipes ← pipes n
  return ⟨term, pipes, t.pos⟩

/-! ### Connectives -/

def unary (expression : Run Expr) (n : Nat) : Nat → Run Expr
  | 0 => exhausted
  | limit + 1 => routine .unary do
    let t ← look
    if t.kind = .not then
      let _ ← take
      let e ← unary expression n limit
      return .not e
    else if t.kind = .leftParen then
      let _ ← take
      let e ← expression
      let _ ← expect .rightParen .rightParen
      return e
    else
      let o ← operand n
      return .operand o

def comparison (side : Run Expr) : Run Expr := routine .comparison do
  let left ← side
  let t ← look
  match Reader.comparator? t.kind with
  | none => return left
  | some c =>
    let _ ← take
    let right ← side
    return .compare c left right t.pos

def nextPart (part : Run Expr) (join : Expr → Expr → Expr) (left : Expr) : Run Expr := do
  let _ ← take
  let right ← part
  return join left right

def chain (part : Run Expr) (connective : Token.Kind) (join : Expr → Expr → Expr) (loop : Round)
    (n : Nat) : Run Expr := do
  let first ← part
  roundsWhile loop (·.kind = connective) (nextPart part join) n first

def expression : Nat → Run Expr
  | 0 => exhausted
  | n + 1 =>
    let side := comparison (unary (expression n) (n + 1) (n + 1))
    let conjunction := routine .conjunction (chain side .and .and .conjunction (n + 1))
    routine .expression (chain conjunction .or .or .expression (n + 1))

/-! ### Directive lines -/

def binding (expected : Expectation) : Run Binding := do
  let name ← expect .identifier expected
  return ⟨name.literal, name.pos⟩

def index? : Run (Option Binding) := do
  let t ← look
  if t.kind = .comma then
    let _ ← take
    let index ← binding .indexName
    return some index
  else return none

def word (w : String) (expected : Expectation) : Run Unit := do
  let t ← look
  if t.kind = .identifier ∧ t.literal = w then
    let _ ← take
  else unexpected expected

def isOption (t : Token) : Bool :=
  t.kind = .identifier && (t.literal = "delimiter" || t.literal = "open" || t.literal = "close")

/-- The option that the word names, as far as it is set, and how it is set. -/
def setting (l : Loop) (word : String) : Option String × (String → Loop) :=
  if word = "delimiter" then (l.delimiter, fun s => { l with delimiter := some s })
  else if word = "open" then (l.opening, fun s => { l with opening := some s })
  else (l.closing, fun s => { l with closing := some s })

def nextOption (l : Loop) : Run Loop := do
  let k ← take
  if (setting l k.literal).1.isSome then throw ⟨.duplicateOption k.literal, k.pos⟩
  else
    let v ← expect .string .string
    return (setting l k.literal).2 v.literal

def header (n : Nat) : Run Loop := do
  let item ← binding .itemName
  let index ← index?
  word "of" .sourceWord
  let source ← operand n
  let l ← roundsWhile .options isOption nextOption n ⟨item, index, source, none, none, none⟩
  let t ← look
  if t.kind = .endOfLine then return l else unexpected .loopOption

def message? : Run (Option String) := do
  let t ← look
  if t.kind = .string then
    let _ ← take
    return some t.literal
  else return none

def test (n : Nat) : Run (Expr × String) := do
  let e ← expression n
  let _ ← expect .throw .messageWord
  let message ← expect .string .message
  return (e, message.literal)

def definition (n : Nat) : Run (Binding × Expr) := do
  let name ← binding .variableName
  let _ ← expect (.comparison .eq) .definition
  let value ← expression n
  return (name, value)

/-! ### Blocks -/

/-- What blocks stand in: the template, or a body, with the directive that opens it and those that
may close it. -/
inductive Inside where
  | template
  | body (opener : Directive) (pos : Position) (closers : List Directive)

namespace Inside

def closes : Inside → Token.Kind → Bool
  | .template, kind => kind = .endOfTemplate
  | .body _ _ closers, .directive d => d ∈ closers
  | .body .., _ => false

/-- The error of a token that neither begins a block nor closes the body. -/
def stray (t : Token) : Inside → SyntaxError
  | .template =>
    match t.kind with
    | .unknown => ⟨.unknownDirective t.literal, t.pos⟩
    | kind => ⟨.unmatched kind, t.pos⟩
  | .body opener pos closers =>
    match t.kind with
    | .endOfTemplate => ⟨.unterminated opener closers, pos⟩
    | .unknown => ⟨.unknownDirective t.literal, t.pos⟩
    | kind => ⟨.misplaced kind opener closers, t.pos⟩

end Inside

section Blocks

variable (bodies : Inside → Run (List Block × Token)) (n : Nat)

def text : Run Block := routine .text do
  let t ← take
  return .text t.literal t.pos

def condition : Run Block := routine .condition do
  let opener ← take
  let test ← expression n
  endOfLine
  let (body, closer) ← bodies (.body .condition opener.pos [.otherwise, .endCondition])
  endOfLine
  if closer.kind = .directive .otherwise then
    let (otherwise, _) ← bodies (.body .condition opener.pos [.endCondition])
    endOfLine
    return .condition test body (some otherwise) opener.pos
  else return .condition test body none opener.pos

def loop : Run Block := routine .loop do
  let opener ← take
  let header ← header n
  endOfLine
  let (body, _) ← bodies (.body .loop opener.pos [.endLoop])
  endOfLine
  return .loop header body opener.pos

def guard : Run Block := routine .guard do
  let opener ← take
  let test ← expression n
  endOfLine
  let (body, _) ← bodies (.body .guard opener.pos [.endGuard])
  let message ← message?
  endOfLine
  return .guard test body message opener.pos

def check : Run Block := routine .check do
  let opener ← take
  let (e, message) ← test n
  endOfLine
  return .check e message opener.pos

def define : Run Block := routine .define do
  let opener ← take
  let (name, value) ← definition n
  endOfLine
  return .define name value opener.pos

def branchBody (d : Directive) (pos : Position) : Run (List Block) := routine .branchBody do
  endOfLine
  let (body, _) ← bodies (.body d pos [.endBranch])
  endOfLine
  return body

def isBlankText (t : Token) : Bool := t.kind = .text && Text.isBlank t.literal

def skipBlankText : Run Unit :=
  roundsWhile .blankText isBlankText (fun _ => do let _ ← take) n ()

variable {Head : Type}

/-- A line between the branches of a selection that `opener` opens, where `d` opens a branch. -/
def selectionLine (opener d : Directive) (head : Run Head) (s : Selection Head) :
    Run (Selection Head ⊕ Selection Head) := do
  let t ← look
  if t.kind = .directive d then
    let _ ← take
    let head ← head
    let body ← branchBody bodies d t.pos
    return .inl (s.close (some head) t.pos body)
  else if t.kind = .directive .default then
    if s.default.isSome then throw ⟨.duplicateDefault opener, t.pos⟩
    else
      let _ ← take
      let body ← branchBody bodies .default t.pos
      return .inl (s.close none t.pos body)
  else if t.kind = .directive .endSelection then
    let _ ← take
    endOfLine
    return .inr s
  else if t.kind = .endOfTemplate then throw ⟨.unterminated opener [.endSelection], s.pos⟩
  else unexpected (.branch d)

def nextBranch (opener d : Directive) (head : Run Head) (s : Selection Head) :
    Run (Selection Head ⊕ Selection Head) := do
  skipBlankText n
  selectionLine bodies opener d head s

def branches (opener d : Directive) (head : Run Head) (pos : Position) : Run (Selection Head) :=
  routine .branches (rounds .branches (nextBranch bodies n opener d head) n (.start pos []))

def switch : Run Block := routine .switch do
  let opener ← take
  let subject ← operand n
  endOfLine
  let s ← branches bodies n .switch .case (literals n) opener.pos
  return .switch subject s.branches.reverse s.default s.pos

def choose : Run Block := routine .choose do
  let opener ← take
  endOfLine
  let s ← branches bodies n .choose .when (expression n) opener.pos
  return .choose s.branches.reverse s.default s.pos

def block (inside : Inside) : Run Block := do
  let t ← look
  match t.kind with
  | .text => text
  | .directive .condition => condition bodies n
  | .directive .switch => switch bodies n
  | .directive .choose => choose bodies n
  | .directive .loop => loop bodies n
  | .directive .guard => guard bodies n
  | .directive .check => check n
  | .directive .define => define n
  | _ => throw (inside.stray t)

def nextBlock (inside : Inside) (blocks : List Block) :
    Run (List Block ⊕ List Block × Token) := do
  let t ← look
  if inside.closes t.kind then
    let closer ← take
    return .inr (blocks, closer)
  else
    let b ← block bodies n inside
    return .inl (blocks ++ [b])

end Blocks

def blocksUntil : Nat → Inside → Run (List Block × Token)
  | 0, _ => exhausted
  | n + 1, inside =>
    noted (fun found => .done (.blocks found.2.kind))
      (rounds .blocks (nextBlock (blocksUntil n) (n + 1) inside) (n + 1) [])

/-- The blocks of a whole template. -/
def parse (n : Nat) : Run (List Block) := do
  let tokens ← read
  if tokens.isEmpty then return []
  else
    let (blocks, _) ← blocksUntil n .template
    return blocks

end Descent

end LineTemplate
