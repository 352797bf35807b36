import LineTemplate.Block
import LineTemplate.Placeholder

/-!
# Outlines

What a template refers to, found without any data: the names it needs, the pipes it uses, the
names it introduces, and how often each directive occurs. A name that the template introduces
anywhere is not counted among those that it needs.
-/

namespace LineTemplate

inductive Mention where
  | variable (name : String)
  | pipe (name : String)
  | definition (name : String)
  | binding (name : String)
  | directive (d : Directive)
  deriving DecidableEq, Repr

namespace Mention

def ofOperand (o : Operand) : List Mention :=
  (match o.term with
    | .variable p => [.variable p.root]
    | .literal _ => []) ++ o.pipes.map (.pipe ·.name)

def ofExpr (e : Expr) : List Mention := e.operands.flatMap ofOperand

def ofLoop (l : Loop) : List Mention :=
  ofOperand l.source ++ .binding l.item.name :: l.index.toList.map (.binding ·.name)

def ofLine (line : String) : List Mention :=
  (Placeholder.paths line).map (.variable ·.root)

mutual

/-- What a block mentions. The placeholders of a line count inside loops only. -/
def ofBlock (inLoop : Bool) : Block → List Mention
  | .text content _ => if inLoop then ofLine content else []
  | .condition test body otherwise _ =>
    .directive .condition :: (ofExpr test ++ ofBlocks inLoop body
      ++ ofOption inLoop .otherwise otherwise)
  | .switch subject cases default _ =>
    .directive .switch :: (ofOperand subject ++ ofCases inLoop cases
      ++ ofOption inLoop .default default)
  | .choose whens default _ =>
    .directive .choose :: (ofWhens inLoop whens ++ ofOption inLoop .default default)
  | .loop header body _ => .directive .loop :: (ofLoop header ++ ofBlocks true body)
  | .guard test body _ _ => .directive .guard :: (ofExpr test ++ ofBlocks inLoop body)
  | .check test _ _ => .directive .check :: ofExpr test
  | .define name value _ => .directive .define :: .definition name.name :: ofExpr value

def ofBlocks (inLoop : Bool) : List Block → List Mention
  | [] => []
  | b :: more => ofBlock inLoop b ++ ofBlocks inLoop more

/-- What a body mentions that need not be there, and the directive that opens it. -/
def ofOption (inLoop : Bool) (d : Directive) : Option (List Block) → List Mention
  | none => []
  | some body => .directive d :: ofBlocks inLoop body

def ofCases (inLoop : Bool) : List (Branch (List Literal) Block) → List Mention
  | [] => []
  | ⟨_, body, _⟩ :: more =>
    .directive .case :: (ofBlocks inLoop body ++ ofCases inLoop more)

def ofWhens (inLoop : Bool) : List (Branch Expr Block) → List Mention
  | [] => []
  | ⟨test, body, _⟩ :: more =>
    .directive .when :: (ofExpr test ++ ofBlocks inLoop body ++ ofWhens inLoop more)

end

end Mention

structure Outline where
  /-- The names that the data has to bring. -/
  needed : List String
  pipes : List String
  /-- The names of definitions. -/
  defined : List String
  /-- The names of loop items and indexes. -/
  bindings : List String
  /-- How often each directive occurs, by its text. -/
  directives : Fields Nat
  deriving DecidableEq, Repr

namespace Outline

/-- Names in ascending order, each once. -/
def nameSet (names : List String) : List String :=
  (Fields.ofList (names.map (·, ()))).names

def tally (texts : List String) : Fields Nat :=
  texts.foldl (fun counts t => counts.set t ((counts.get? t).getD 0 + 1)) []

def ofMentions (ms : List Mention) : Outline :=
  let defined := nameSet (ms.filterMap fun | .definition name => some name | _ => none)
  let bindings := nameSet (ms.filterMap fun | .binding name => some name | _ => none)
  let named := nameSet (ms.filterMap fun | .variable name => some name | _ => none)
  { needed := named.filter fun name => !defined.contains name && !bindings.contains name
    pipes := nameSet (ms.filterMap fun | .pipe name => some name | _ => none)
    defined
    bindings
    directives := tally (ms.filterMap fun | .directive d => some d.text | _ => none) }

def ofBlocks (blocks : List Block) : Outline := ofMentions (Mention.ofBlocks false blocks)

end Outline

end LineTemplate
