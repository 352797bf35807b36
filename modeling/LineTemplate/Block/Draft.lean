import LineTemplate.Block
import LineTemplate.Expr.Reader
import LineTemplate.Line

/-!
# Reading blocks

A draft is a template of which only some lines have been read: the blocks of the innermost open
body, and the frames of the blocks that are open around it. Every line either goes into the
innermost body, opens or closes a block, or is a fault; what comes after a line never changes
what it means. A template is complete when no block is open behind its last line.

Between the branches of a selection no text may stand but blank lines, which are dropped.
-/

namespace LineTemplate

/-! ### What directive lines say -/

namespace Reader

def nothing : Reader Unit := fun ts => .ok ((), ts)

def binding (expected : Expectation) : Reader Binding := fun ts => do
  let (name, rest) ← ofKind .identifier expected ts
  return (⟨name.literal, name.pos⟩, rest)

/-- The name of the index behind the name of the item, if there is one. -/
def index? : Reader (Option Binding)
  | [] => .ok (none, [])
  | t :: rest =>
    if t.kind = .comma then do
      let (index, rest) ← binding .indexName rest
      return (some index, rest)
    else .ok (none, t :: rest)

def word (w : String) (expected : Expectation) : Reader Unit
  | [] => refuse expected []
  | t :: rest =>
    if t.kind = .identifier ∧ t.literal = w then .ok ((), rest) else refuse expected (t :: rest)

/-- The options of a loop behind its source, in any order and each at most once. -/
def options (l : Loop) : Reader Loop
  | [] => .ok (l, [])
  | k :: ts =>
    let setting : Option (Option String × (String → Loop)) :=
      if k.kind ≠ .identifier then none
      else if k.literal = "delimiter" then
        some (l.delimiter, fun s => { l with delimiter := some s })
      else if k.literal = "open" then some (l.opening, fun s => { l with opening := some s })
      else if k.literal = "close" then some (l.closing, fun s => { l with closing := some s })
      else none
    match setting with
    | none => refuse .loopOption (k :: ts)
    | some (some _, _) => .error ⟨.duplicateOption k.literal, some k.pos⟩
    | some (none, set) =>
      match ts with
      | [] => refuse .string []
      | v :: rest =>
        if v.kind = .string then options (set v.literal) rest else refuse .string (v :: rest)

def loop : Reader Loop := fun ts => do
  let (item, rest) ← binding .itemName ts
  let (index, rest) ← index? rest
  let (_, rest) ← word "of" .sourceWord rest
  let (source, rest) ← operand rest
  options ⟨item, index, source, none, none, none⟩ rest

def message? : Reader (Option String)
  | [] => .ok (none, [])
  | t :: rest => if t.kind = .string then .ok (some t.literal, rest) else .ok (none, t :: rest)

def check : Reader (Expr × String) := fun ts => do
  let (test, rest) ← expression ts
  let (_, rest) ← ofKind .throw .messageWord rest
  let (message, rest) ← ofKind .string .message rest
  return ((test, message.literal), rest)

def definition : Reader (Binding × Expr) := fun ts => do
  let (name, rest) ← binding .variableName ts
  let (_, rest) ← ofKind (.comparison .eq) .definition rest
  let (value, rest) ← expression rest
  return ((name, value), rest)

end Reader

/-! ### Drafts -/

inductive Opening where
  /-- The body of a condition that holds. -/
  | consequence (test : Expr)
  /-- The body of a condition that does not hold, behind the other one. -/
  | alternative (test : Expr) (body : List Block)
  | loop (header : Loop)
  | guard (test : Expr)

/-- A selection that is open: the branches so far, newest first, and the blocks in front of it,
newest first. -/
structure Selection (Head : Type) where
  branches : List (Branch Head Block)
  default : Option (List Block)
  pos : Position
  before : List Block

/-- A block that is open around a body. The blocks in front of it are kept newest first. In a
branch without a head the body is that of the default. -/
inductive Frame where
  | block (opening : Opening) (pos : Position) (before : List Block)
  | switchBranch (subject : Operand) (selection : Selection (List Literal))
      (head : Option (List Literal)) (pos : Position)
  | chooseBranch (selection : Selection Expr) (head : Option Expr) (pos : Position)

/-- Where the next line goes: into a body, whose blocks are kept newest first, or between the
branches of a selection. -/
inductive Place where
  | body (blocks : List Block)
  | inSwitch (subject : Operand) (selection : Selection (List Literal))
  | inChoose (selection : Selection Expr)

structure Draft where
  place : Place
  frames : List Frame

namespace Opening

/-- The directive that opens the block, and those that may close its body. -/
def words : Opening → Directive × List Directive
  | .consequence _ => (.condition, [.otherwise, .endCondition])
  | .alternative _ _ => (.condition, [.endCondition])
  | .loop _ => (.loop, [.endLoop])
  | .guard _ => (.guard, [.endGuard])

end Opening

namespace Frame

/-- The directive that opens the body, and those that may close it. -/
def words : Frame → Directive × List Directive
  | .block opening _ _ => opening.words
  | .switchBranch _ _ head _ => (if head.isSome then .case else .default, [.endBranch])
  | .chooseBranch _ head _ => (if head.isSome then .when else .default, [.endBranch])

def pos : Frame → Position
  | .block _ pos _ => pos
  | .switchBranch _ _ _ pos => pos
  | .chooseBranch _ _ pos => pos

end Frame

namespace Selection

variable {Head : Type}

def start (pos : Position) (before : List Block) : Selection Head := ⟨[], none, pos, before⟩

def close (s : Selection Head) (head : Option Head) (pos : Position) (body : List Block) :
    Selection Head :=
  match head with
  | some head => { s with branches := ⟨head, body, pos⟩ :: s.branches }
  | none => { s with default := some body }

inductive Step (Head : Type) where
  | skip
  | branch (head : Option Head) (pos : Position)
  | done

/-- What the line does where `d` opens a branch and `head` reads what it is selected by;
`opener` opens the selection. -/
def step (opener d : Directive) (head : Reader Head) (s : Selection Head) :
    Line → Except SyntaxError (Step Head)
  | .text content pos =>
    if Text.isBlank content then .ok .skip
    else .error ⟨.unexpected .text content (.branch d), pos⟩
  | .directive [] stop => .error ⟨.unexpected .endOfLine "" (.branch d), stop⟩
  | .directive (w :: rest) stop =>
    if w.kind = .directive d then do
      let head ← Reader.all head rest stop
      return .branch (some head) w.pos
    else if w.kind = .directive .default then
      if s.default.isSome then .error ⟨.duplicateDefault opener, w.pos⟩
      else do
        Reader.all Reader.nothing rest stop
        return .branch none w.pos
    else if w.kind = .directive .endSelection then do
      Reader.all Reader.nothing rest stop
      return .done
    else .error ⟨.unexpected w.kind w.literal (.branch d), w.pos⟩

end Selection

namespace Draft

def empty : Draft := ⟨.body [], []⟩

/-- The fault of a line that stands in a body and does not belong there. -/
def stray (frames : List Frame) (kind : Token.Kind) : Fault :=
  match frames with
  | [] => .unmatched kind
  | frame :: _ => .misplaced kind frame.words.1 frame.words.2

/-- A directive in a body: the blocks of the body, the frames around it, the directive and its
place, the words behind it, and the end of the line. -/
def addDirective (blocks : List Block) (frames : List Frame) (d : Directive) (pos : Position)
    (rest : List Token) (stop : Position) : Except SyntaxError Draft :=
  match d, frames with
  | .condition, _ => do
    let test ← Reader.all Reader.expression rest stop
    return ⟨.body [], .block (.consequence test) pos blocks :: frames⟩
  | .switch, _ => do
    let subject ← Reader.all Reader.operand rest stop
    return ⟨.inSwitch subject (.start pos blocks), frames⟩
  | .choose, _ => do
    Reader.all Reader.nothing rest stop
    return ⟨.inChoose (.start pos blocks), frames⟩
  | .loop, _ => do
    let header ← Reader.all Reader.loop rest stop
    return ⟨.body [], .block (.loop header) pos blocks :: frames⟩
  | .guard, _ => do
    let test ← Reader.all Reader.expression rest stop
    return ⟨.body [], .block (.guard test) pos blocks :: frames⟩
  | .check, _ => do
    let (test, message) ← Reader.all Reader.check rest stop
    return ⟨.body (.check test message pos :: blocks), frames⟩
  | .define, _ => do
    let (name, value) ← Reader.all Reader.definition rest stop
    return ⟨.body (.define name value pos :: blocks), frames⟩
  | .otherwise, .block (.consequence test) pos before :: outer => do
    Reader.all Reader.nothing rest stop
    return ⟨.body [], .block (.alternative test blocks.reverse) pos before :: outer⟩
  | .endCondition, .block (.consequence test) pos before :: outer => do
    Reader.all Reader.nothing rest stop
    return ⟨.body (.condition test blocks.reverse none pos :: before), outer⟩
  | .endCondition, .block (.alternative test body) pos before :: outer => do
    Reader.all Reader.nothing rest stop
    return ⟨.body (.condition test body (some blocks.reverse) pos :: before), outer⟩
  | .endLoop, .block (.loop header) pos before :: outer => do
    Reader.all Reader.nothing rest stop
    return ⟨.body (.loop header blocks.reverse pos :: before), outer⟩
  | .endGuard, .block (.guard test) pos before :: outer => do
    let message ← Reader.all Reader.message? rest stop
    return ⟨.body (.guard test blocks.reverse message pos :: before), outer⟩
  | .endBranch, .switchBranch subject selection head pos :: outer => do
    Reader.all Reader.nothing rest stop
    return ⟨.inSwitch subject (selection.close head pos blocks.reverse), outer⟩
  | .endBranch, .chooseBranch selection head pos :: outer => do
    Reader.all Reader.nothing rest stop
    return ⟨.inChoose (selection.close head pos blocks.reverse), outer⟩
  | d, frames => .error ⟨stray frames (.directive d), pos⟩

def addToBody (blocks : List Block) (frames : List Frame) : Line → Except SyntaxError Draft
  | .text content pos => .ok ⟨.body (.text content pos :: blocks), frames⟩
  | .directive [] stop => .error ⟨stray frames .endOfLine, stop⟩
  | .directive (w :: rest) stop =>
    match w.kind with
    | .directive d => addDirective blocks frames d w.pos rest stop
    | .unknown => .error ⟨.unknownDirective w.literal, w.pos⟩
    | kind => .error ⟨stray frames kind, w.pos⟩

def add (draft : Draft) (line : Line) : Except SyntaxError Draft :=
  match draft.place with
  | .body blocks => addToBody blocks draft.frames line
  | .inSwitch subject s => do
    match ← s.step .switch .case Reader.literals line with
    | .skip => return draft
    | .branch head pos => return ⟨.body [], .switchBranch subject s head pos :: draft.frames⟩
    | .done =>
      return ⟨.body (.switch subject s.branches.reverse s.default s.pos :: s.before), draft.frames⟩
  | .inChoose s => do
    match ← s.step .choose .when Reader.expression line with
    | .skip => return draft
    | .branch head pos => return ⟨.body [], .chooseBranch s head pos :: draft.frames⟩
    | .done =>
      return ⟨.body (.choose s.branches.reverse s.default s.pos :: s.before), draft.frames⟩

def addAll (draft : Draft) : List Line → Except SyntaxError Draft
  | [] => .ok draft
  | line :: more =>
    match draft.add line with
    | .ok next => next.addAll more
    | .error e => .error e

/-- The blocks of a draft in which none is open. -/
def finish (draft : Draft) : Except SyntaxError (List Block) :=
  match draft.place, draft.frames with
  | .body blocks, [] => .ok blocks.reverse
  | .body _, frame :: _ =>
    .error ⟨.unterminated frame.words.1 frame.words.2, frame.pos⟩
  | .inSwitch _ s, _ => .error ⟨.unterminated .switch [.endSelection], s.pos⟩
  | .inChoose s, _ => .error ⟨.unterminated .choose [.endSelection], s.pos⟩

theorem addAll_append (draft : Draft) (a b : List Line) :
    draft.addAll (a ++ b) = (draft.addAll a).bind (·.addAll b) := by
  induction a generalizing draft with
  | nil => rfl
  | cons line more ih =>
    simp only [List.cons_append, addAll]
    split
    · exact ih _
    · rfl

end Draft

namespace Block

def ofLines (lines : List Line) : Except SyntaxError (List Block) :=
  match Draft.empty.addAll lines with
  | .ok draft => draft.finish
  | .error e => .error e

def ofText (text : String) : Except SyntaxError (List Block) := ofLines (Line.ofText text)

end Block

end LineTemplate
