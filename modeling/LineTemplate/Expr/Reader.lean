import LineTemplate.Expr
import LineTemplate.Fault
import LineTemplate.Value.Reading

/-!
# Reading expressions

A reader takes words off the front of a directive line and gives what they say and the words
behind them, or refuses them with a fault. A fault that arises where the words have run out is
reported at the end of the line.

`||` binds more loosely than `&&`, that more loosely than a comparison, and that more loosely
than `!`; comparisons do not chain.
-/

namespace LineTemplate

/-- A fault in a row of words; without a place it is at the end of the line. -/
structure Refusal where
  fault : Fault
  place : Option Position
  deriving DecidableEq, Repr

/-- The fault on a line that ends at `stop`. -/
def Refusal.on (r : Refusal) (stop : Position) : SyntaxError := ⟨r.fault, r.place.getD stop⟩

abbrev Reader (α : Type) := List Token → Except Refusal (α × List Token)

namespace Reader

/-- The refusal of the first of the words, or of the end of the line. -/
def refusal (expected : Expectation) : List Token → Refusal
  | [] => ⟨.unexpected .endOfLine "" expected, none⟩
  | t :: _ => ⟨.unexpected t.kind t.literal expected, some t.pos⟩

variable {α : Type}

def refuse (expected : Expectation) (ts : List Token) : Except Refusal α :=
  .error (refusal expected ts)

def ofKind (kind : Token.Kind) (expected : Expectation) : Reader Token
  | t :: rest => if t.kind = kind then .ok (t, rest) else refuse expected (t :: rest)
  | [] => refuse expected []

/-- What the reader makes of all the words of a line that ends at `stop`. -/
def all (reader : Reader α) (words : List Token) (stop : Position) : Except SyntaxError α :=
  match reader words with
  | .error r => .error (r.on stop)
  | .ok (x, []) => .ok x
  | .ok (_, rest) => .error ((refusal .endOfLine rest).on stop)

/-! ### Literals -/

def numeral (text : String) (pos : Position) : Literal :=
  match PlainDecimal.ofChars? text.toList with
  | none => .malformed text pos
  | some d =>
    if d.fraction.isNone && Numeral.fitsSigned 64 d.toInt then .number (.int d.toInt)
    else match d.toDouble with
      | .finite x => .number (.double x)
      | .infinite _ => .malformed text pos

def bareWord (word : String) : Literal :=
  if word = "null" then .null
  else if word = "blank" then .blank
  else if word = "true" then .bool true
  else if word = "false" then .bool false
  else .string word

def literal? (t : Token) : Option Literal :=
  match t.kind with
  | .string => some (.string t.literal)
  | .number => some (numeral t.literal t.pos)
  | .identifier => some (bareWord t.literal)
  | _ => none

def literal : Reader Literal
  | t :: rest =>
    match literal? t with
    | some l => .ok (l, rest)
    | none => refuse .literal (t :: rest)
  | [] => refuse .literal []

def literals : Reader (List Literal)
  | t :: c :: rest =>
    match literal? t with
    | none => refuse .literal (t :: c :: rest)
    | some l =>
      if c.kind = .comma then
        match literals rest with
        | .ok (ls, rest) => .ok (l :: ls, rest)
        | .error r => .error r
      else .ok ([l], c :: rest)
  | ts =>
    match literal ts with
    | .ok (l, rest) => .ok ([l], rest)
    | .error r => .error r

/-! ### Paths -/

def index (t : Token) (digits : List Char) : Except Refusal Segment :=
  match Segment.index? digits with
  | some i => .ok (.index i)
  | none => .error ⟨.invalidIndex (String.ofList digits), some t.pos⟩

/-- The segments of a word behind a point. What looks like a decimal is two indexes. -/
def dotted (t : Token) : Except Refusal (List Segment) :=
  match t.kind with
  | .identifier => .ok [.key t.literal]
  | .number =>
    match PlainDecimal.splitPoint t.literal.toList with
    | (whole, none) => do return [← index t whole]
    | (whole, some fraction) => do
      let first ← index t whole
      let second ← index t fraction
      return [first, second]
  | _ => refuse .pathSegment [t]

def bracketed (t : Token) : Except Refusal Segment :=
  match t.kind with
  | .number => index t t.literal.toList
  | .string => .ok (.key t.literal)
  | _ => refuse .indexOrKey [t]

def segments : Reader (List Segment)
  | [] => .ok ([], [])
  | t :: ts =>
    if t.kind = .dot then
      match ts with
      | [] => refuse .pathSegment []
      | s :: rest => do
        let these ← dotted s
        let (more, rest) ← segments rest
        return (these ++ more, rest)
    else if t.kind = .leftBracket then
      match ts with
      | [] => refuse .indexOrKey []
      | s :: rest => do
        let this ← bracketed s
        match rest with
        | [] => refuse .rightBracket []
        | b :: rest =>
          if b.kind = .rightBracket then do
            let (more, rest) ← segments rest
            return (this :: more, rest)
          else refuse .rightBracket (b :: rest)
    else .ok ([], t :: ts)

def path : Reader Path := fun ts => do
  let (root, rest) ← ofKind .identifier .variableName ts
  let (segments, rest) ← segments rest
  return (⟨root.literal, segments⟩, rest)

/-! ### Operands -/

/-- The arguments of a pipe, none when there are no brackets. -/
def arguments : Reader (List Literal)
  | l :: r :: rest =>
    if l.kind = .leftParen then
      if r.kind = .rightParen then .ok ([], rest)
      else do
        let (args, rest) ← literals (r :: rest)
        let (_, rest) ← ofKind .rightParen .commaOrRightParen rest
        return (args, rest)
    else .ok ([], l :: r :: rest)
  | [l] => if l.kind = .leftParen then refuse .literal [] else .ok ([], [l])
  | [] => .ok ([], [])

/-- The pipes behind a term, at most `limit` of them. -/
def pipesWithin : Nat → Reader (List PipeCall)
  | limit + 1, t :: rest =>
    if t.kind = .pipe then do
      let (name, rest) ← ofKind .identifier .pipeName rest
      let (args, rest) ← arguments rest
      let (more, rest) ← pipesWithin limit rest
      return (⟨name.literal, args, name.pos⟩ :: more, rest)
    else .ok ([], t :: rest)
  | _, ts => .ok ([], ts)

def pipes : Reader (List PipeCall) := fun ts => pipesWithin ts.length ts

def term : Reader Term
  | t :: rest =>
    if t.kind = .colon then do
      let (p, rest) ← path rest
      return (.variable p, rest)
    else match literal? t with
      | some l => .ok (.literal l, rest)
      | none => refuse .operand (t :: rest)
  | [] => refuse .operand []

def operand : Reader Operand
  | [] => refuse .operand []
  | t :: rest => do
    let (term, after) ← term (t :: rest)
    let (pipes, after) ← pipes after
    return (⟨term, pipes, t.pos⟩, after)

/-! ### Connectives -/

def comparator? : Token.Kind → Option Comparator
  | .comparison c => some c
  | _ => none

/-- An operand or an expression in brackets, with any number of negations in front. -/
def unary (expression : Reader Expr) : Reader Expr
  | [] => refuse .operand []
  | t :: rest =>
    if t.kind = .not then do
      let (e, rest) ← unary expression rest
      return (.not e, rest)
    else if t.kind = .leftParen then do
      let (e, rest) ← expression rest
      let (_, rest) ← ofKind .rightParen .rightParen rest
      return (e, rest)
    else do
      let (o, rest) ← operand (t :: rest)
      return (.operand o, rest)

def comparison (side : Reader Expr) : Reader Expr := fun ts => do
  let (left, rest) ← side ts
  match rest with
  | [] => return (left, [])
  | t :: after =>
    match comparator? t.kind with
    | none => return (left, t :: after)
    | some c => do
      let (right, rest) ← side after
      return (.compare c left right t.pos, rest)

/-- At most `limit` more parts, each behind the connective, joined from the left. -/
def chainWithin (part : Reader Expr) (connective : Token.Kind) (join : Expr → Expr → Expr) :
    Nat → Expr → Reader Expr
  | limit + 1, left, t :: rest =>
    if t.kind = connective then do
      let (right, rest) ← part rest
      chainWithin part connective join limit (join left right) rest
    else .ok (left, t :: rest)
  | _, left, ts => .ok (left, ts)

/-- One or more parts with the connective between them, joined from the left. -/
def chain (part : Reader Expr) (connective : Token.Kind) (join : Expr → Expr → Expr) :
    Reader Expr := fun ts => do
  let (first, rest) ← part ts
  chainWithin part connective join rest.length first rest

/-- An expression with brackets at most `depth` deep, less one. -/
def expressionWithin : Nat → Reader Expr
  | 0 => refuse .operand
  | depth + 1 =>
    chain (chain (comparison (unary (expressionWithin depth))) .and .and) .or .or

/-- An expression. Brackets are words, so they are never deeper than there are words. -/
def expression : Reader Expr := fun ts => expressionWithin (ts.length + 1) ts

end Reader

end LineTemplate
