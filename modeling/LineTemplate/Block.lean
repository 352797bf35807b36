import LineTemplate.Expr

/-!
# Blocks

A template is a list of blocks. A block is a line of text, a directive that stands alone, or a
directive with bodies, which are lists of blocks again. The position of a block, and of a branch,
is that of the word that opens it.
-/

namespace LineTemplate

structure Binding where
  name : String
  pos : Position
  deriving DecidableEq, Repr

structure Loop where
  item : Binding
  index : Option Binding
  source : Operand
  /-- What stands between the texts of the iterations. -/
  delimiter : Option String
  /-- What stands in front of them. -/
  opening : Option String
  /-- What stands behind them. -/
  closing : Option String
  deriving DecidableEq, Repr

/-- A branch of a selection: what it is selected by, and its body. -/
structure Branch (Head Node : Type) where
  head : Head
  body : List Node
  pos : Position
  deriving Repr

inductive Block where
  | text (content : String) (pos : Position)
  | condition (test : Expr) (body : List Block) (otherwise : Option (List Block)) (pos : Position)
  | switch (subject : Operand) (cases : List (Branch (List Literal) Block))
      (default : Option (List Block)) (pos : Position)
  | choose (whens : List (Branch Expr Block)) (default : Option (List Block)) (pos : Position)
  | loop (header : Loop) (body : List Block) (pos : Position)
  | guard (test : Expr) (body : List Block) (message : Option String) (pos : Position)
  | check (test : Expr) (message : String) (pos : Position)
  | define (name : Binding) (value : Expr) (pos : Position)
  deriving Repr, Inhabited

namespace Block

def pos : Block → Position
  | .text _ pos => pos
  | .condition _ _ _ pos => pos
  | .switch _ _ _ pos => pos
  | .choose _ _ pos => pos
  | .loop _ _ pos => pos
  | .guard _ _ _ pos => pos
  | .check _ _ pos => pos
  | .define _ _ pos => pos

def isText : Block → Bool
  | .text _ _ => true
  | _ => false

/-! ### Induction -/

/-- What holds of a block when it holds of its bodies holds of all blocks. -/
theorem induction {P : Block → Prop} {Q : List Block → Prop}
    (text : ∀ content pos, P (.text content pos))
    (condition : ∀ test body otherwise pos, Q body → (∀ more ∈ otherwise, Q more) →
      P (.condition test body otherwise pos))
    (switch : ∀ subject cases default pos, (∀ c ∈ cases, Q c.body) → (∀ body ∈ default, Q body) →
      P (.switch subject cases default pos))
    (choose : ∀ whens default pos, (∀ w ∈ whens, Q w.body) → (∀ body ∈ default, Q body) →
      P (.choose whens default pos))
    (loop : ∀ header body pos, Q body → P (.loop header body pos))
    (guard : ∀ test body message pos, Q body → P (.guard test body message pos))
    (check : ∀ test message pos, P (.check test message pos))
    (define : ∀ name value pos, P (.define name value pos))
    (nil : Q []) (cons : ∀ b more, P b → Q more → Q (b :: more)) :
    (∀ b, P b) ∧ ∀ bs, Q bs := by
  have hP : ∀ b, P b := by
    intro b
    refine @Block.rec P Q (fun o => ∀ body ∈ o, Q body) (fun cs => ∀ c ∈ cs, Q c.body)
      (fun ws => ∀ w ∈ ws, Q w.body) (fun c => Q c.body) (fun w => Q w.body)
      text condition switch choose loop guard check define nil cons ?_ ?_ ?_ ?_ ?_ ?_ ?_ ?_ b
    · intro body h
      cases h
    · intro body h more hm
      cases hm
      exact h
    · intro c hc
      cases hc
    · intro c more h hs d hd
      rcases List.mem_cons.1 hd with rfl | hd
      · exact h
      · exact hs d hd
    · intro w hw
      cases hw
    · intro w more h hs d hd
      rcases List.mem_cons.1 hd with rfl | hd
      · exact h
      · exact hs d hd
    · intro _ _ _ h
      exact h
    · intro _ _ _ h
      exact h
  refine ⟨hP, fun bs => ?_⟩
  induction bs with
  | nil => exact nil
  | cons b more ih => exact cons b more (hP b) ih

end Block

namespace Binding

/-- The same name, `n` lines further down. -/
def down (n : Nat) (b : Binding) : Binding := { b with pos := b.pos.down n }

end Binding

namespace Loop

def down (n : Nat) (l : Loop) : Loop :=
  { l with
    item := l.item.down n
    index := l.index.map (Binding.down n)
    source := l.source.down n }

end Loop

namespace Block

mutual

/-- The same block, `n` lines further down. -/
def down (n : Nat) : Block → Block
  | .text content pos => .text content (pos.down n)
  | .condition test body otherwise pos =>
    .condition (test.down n) (downAll n body) (downOption n otherwise) (pos.down n)
  | .switch subject cases default pos =>
    .switch (subject.down n) (downCases n cases) (downOption n default) (pos.down n)
  | .choose whens default pos =>
    .choose (downWhens n whens) (downOption n default) (pos.down n)
  | .loop header body pos => .loop (header.down n) (downAll n body) (pos.down n)
  | .guard test body message pos => .guard (test.down n) (downAll n body) message (pos.down n)
  | .check test message pos => .check (test.down n) message (pos.down n)
  | .define name value pos => .define (name.down n) (value.down n) (pos.down n)

def downAll (n : Nat) : List Block → List Block
  | [] => []
  | b :: more => b.down n :: downAll n more

def downOption (n : Nat) : Option (List Block) → Option (List Block)
  | none => none
  | some body => some (downAll n body)

def downCases (n : Nat) :
    List (Branch (List Literal) Block) → List (Branch (List Literal) Block)
  | [] => []
  | ⟨values, body, pos⟩ :: more =>
    ⟨values.map (Literal.down n), downAll n body, pos.down n⟩ :: downCases n more

def downWhens (n : Nat) : List (Branch Expr Block) → List (Branch Expr Block)
  | [] => []
  | ⟨test, body, pos⟩ :: more => ⟨test.down n, downAll n body, pos.down n⟩ :: downWhens n more

end

end Block

end LineTemplate
