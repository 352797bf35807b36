import LineTemplate.Rendering
import Mathlib.Data.List.Forall2

/-!
# Selections

The three ways to select a body can stand for each other. A switch is a choice whose conditions ask
for the literals of its cases, and a choice is a condition with the rest of the choice as its
alternative. Such an exchange may take place anywhere in a template: what is rendered stays the
same, for a list of blocks makes nothing of a directive's text where it is blank.
-/

namespace LineTemplate

/-- The condition that the operand is equal to one of the literals, in their order. -/
inductive Expr.AsksFor (subject : Operand) : List Literal → Expr → Prop
  | one {l : Literal} {place pos : Position} :
      AsksFor subject [l]
        (.compare .eq (.operand subject) (.operand ⟨.literal l, [], place⟩) pos)
  | more {ls : List Literal} {e : Expr} {l : Literal} {place pos : Position} :
      AsksFor subject ls e →
      AsksFor subject (ls ++ [l])
        (.or e (.compare .eq (.operand subject) (.operand ⟨.literal l, [], place⟩) pos))

structure Branch.Restates (subject : Operand) (c : Branch (List Literal) Block)
    (w : Branch Expr Block) : Prop where
  head : w.head.AsksFor subject c.head
  body : w.body = c.body

namespace Block

/-- One condition for each of the branches, each but the first one in the alternative of the one
before it. -/
inductive Nests (default : Option (List Block)) : List (Branch Expr Block) → Block → Prop
  | last {w : Branch Expr Block} {pos : Position} :
      Nests default [w] (.condition w.head w.body default pos)
  | more {w : Branch Expr Block} {ws : List (Branch Expr Block)} {b : Block} {pos : Position} :
      Nests default ws b → Nests default (w :: ws) (.condition w.head w.body (some [b]) pos)

/-- The second selection does what the first one does. -/
inductive Restates : Block → Block → Prop
  | switch {subject : Operand} {cases : List (Branch (List Literal) Block)}
      {whens : List (Branch Expr Block)} {default : Option (List Block)} {pos pos' : Position} :
      cases ≠ [] → List.Forall₂ (Branch.Restates subject) cases whens →
      Restates (.switch subject cases default pos) (.choose whens default pos')
  | choose {whens : List (Branch Expr Block)} {default : Option (List Block)} {b : Block}
      {pos : Position} : Nests default whens b → Restates (.choose whens default pos) b

/-- A block that lacks one of its bodies. -/
inductive Around : (List Block → Block) → Prop
  | consequence {test : Expr} {otherwise : Option (List Block)} {pos : Position} :
      Around fun body => .condition test body otherwise pos
  | alternative {test : Expr} {consequence : List Block} {pos : Position} :
      Around fun body => .condition test consequence (some body) pos
  | case {subject : Operand} {before after : List (Branch (List Literal) Block)}
      {values : List Literal} {default : Option (List Block)} {place pos : Position} :
      Around fun body => .switch subject (before ++ ⟨values, body, place⟩ :: after) default pos
  | switchDefault {subject : Operand} {cases : List (Branch (List Literal) Block)}
      {pos : Position} : Around fun body => .switch subject cases (some body) pos
  | when {before after : List (Branch Expr Block)} {test : Expr}
      {default : Option (List Block)} {place pos : Position} :
      Around fun body => .choose (before ++ ⟨test, body, place⟩ :: after) default pos
  | chooseDefault {whens : List (Branch Expr Block)} {pos : Position} :
      Around fun body => .choose whens (some body) pos
  | loop {header : Loop} {pos : Position} : Around fun body => .loop header body pos
  | guard {test : Expr} {message : Option String} {pos : Position} :
      Around fun body => .guard test body message pos

/-- The second block is the first one with one selection in it exchanged, at any depth. -/
inductive Exchanges : Block → Block → Prop
  | here {b c : Block} : Restates b c → Exchanges b c
  | inside {hole : List Block → Block} {b c : Block} {before after : List Block} :
      Around hole → Exchanges b c →
      Exchanges (hole (before ++ b :: after)) (hole (before ++ c :: after))

theorem Nests.isText {default : Option (List Block)} {ws : List (Branch Expr Block)} {b : Block}
    (h : Nests default ws b) : b.isText = false := by
  cases h <;> rfl

theorem Around.isText {hole : List Block → Block} (h : Around hole) (body : List Block) :
    (hole body).isText = false := by
  cases h <;> rfl

theorem Exchanges.isText {b c : Block} (h : Exchanges b c) :
    b.isText = false ∧ c.isText = false := by
  cases h with
  | here h =>
    cases h with
    | switch => exact ⟨rfl, rfl⟩
    | choose hn => exact ⟨rfl, hn.isText⟩
  | inside ha _ => exact ⟨ha.isText _, ha.isText _⟩

end Block

/-! ### Asking for literals -/

theorem Literal.anyEq_append (v : Value) (ls ms : List Literal) :
    anyEq v (ls ++ ms) = (do if ← anyEq v ls then return true else anyEq v ms) := by
  induction ls with
  | nil => rfl
  | cons l more ih =>
    rw [List.cons_append, anyEq, anyEq, ih]
    cases l.value with
    | error e => rfl
    | ok w =>
      simp only [bind, Except.bind]
      split <;> rfl

namespace Engine

variable {g : Engine}

theorem operand_literal (scope : Scope) (l : Literal) (pos : Position) :
    g.operand scope ⟨.literal l, [], pos⟩ = l.value := by
  rw [operand, term]
  cases l.value <;> rfl

theorem expression_equals (scope : Scope) (subject : Operand) (l : Literal)
    (place pos : Position) (known : Pattern.Known) :
    g.expression scope (.compare .eq (.operand subject) (.operand ⟨.literal l, [], place⟩) pos)
      known = (do
        let v ← g.operand scope subject
        let holds ← Literal.anyEq v [l]
        return (.bool holds, known)) := by
  simp only [expression, operand_literal]
  cases g.operand scope subject with
  | error e => rfl
  | ok v =>
    simp only [Literal.anyEq, bind, Except.bind, pure, Except.pure, Comparator.apply]
    cases l.value with
    | error e => rfl
    | ok w =>
      simp only
      cases v.looseEq w <;> rfl

theorem expression_asksFor {subject : Operand} {ls : List Literal} {e : Expr}
    (h : e.AsksFor subject ls) (scope : Scope) (known : Pattern.Known) :
    g.expression scope e known = (do
      let v ← g.operand scope subject
      let holds ← Literal.anyEq v ls
      return (.bool holds, known)) := by
  induction h with
  | one => exact expression_equals scope subject _ _ _ known
  | @more ls e l place pos _ ih =>
    rw [expression, ih]
    simp only [expression_equals]
    cases g.operand scope subject with
    | error e => rfl
    | ok v =>
      simp only [bind, Except.bind, Literal.anyEq_append]
      cases Literal.anyEq v ls with
      | error e => rfl
      | ok b =>
        cases b with
        | true => rfl
        | false =>
          simp only [pure, Except.pure, Value.isTruthy, Bool.false_eq_true, if_false]
          cases Literal.anyEq v [l] <;> rfl

theorem holds_asksFor {subject : Operand} {ls : List Literal} {e : Expr}
    (h : e.AsksFor subject ls) (s : State) :
    g.holds e s = (do
      let v ← g.operand s.scope subject
      let holds ← Literal.anyEq v ls
      return (holds, s)) := by
  rw [holds, evaluate, expression_asksFor h]
  cases g.operand s.scope subject with
  | error e => rfl
  | ok v =>
    simp only [bind, Except.bind]
    cases Literal.anyEq v ls <;> rfl

/-! ### A switch as a choice -/

/-- What a choice gives where a switch gives `result`. -/
def asChosen (s : State) : Option (String × State) → Option String × State
  | none => (none, s)
  | some (text, s) => (some text, s)

theorem chosen_of_restates {subject : Operand} {cases : List (Branch (List Literal) Block)}
    {whens : List (Branch Expr Block)} (h : List.Forall₂ (Branch.Restates subject) cases whens)
    {s : State} {v : Value} (hv : g.operand s.scope subject = .ok v) :
    g.chosen whens s = (g.selected v cases s).map (asChosen s) := by
  induction h with
  | nil => rfl
  | @cons c w _ _ hcw _ ih =>
    obtain ⟨values, _, place⟩ := c
    obtain ⟨test, body, place'⟩ := w
    obtain ⟨hhead, hbody⟩ := hcw
    simp only at hhead hbody
    subst hbody
    rw [chosen, selected, holds_asksFor hhead, hv]
    simp only [bind, Except.bind]
    cases Literal.anyEq v values with
    | error e => rfl
    | ok b =>
      cases b with
      | true =>
        simp only [pure, Except.pure, if_true]
        cases joinLines (g.blocks body s) <;> rfl
      | false =>
        simp only [pure, Except.pure, Bool.false_eq_true, if_false]
        exact ih

theorem block_switch_eq {subject : Operand} {cases : List (Branch (List Literal) Block)}
    {whens : List (Branch Expr Block)} (hne : cases ≠ [])
    (h : List.Forall₂ (Branch.Restates subject) cases whens) (default : Option (List Block))
    (pos pos' : Position) (s : State) :
    g.block (.switch subject cases default pos) s = g.block (.choose whens default pos') s := by
  rw [block, block]
  cases hv : g.operand s.scope subject with
  | error e =>
    -- the first condition asks for the subject
    cases h with
    | nil => exact absurd rfl hne
    | @cons c w cs ws hcw _ =>
      have hw : g.chosen (w :: ws) s = .error e := by
        rw [chosen, holds_asksFor hcw.head, hv]
        rfl
      rw [hw]
      rfl
  | ok v =>
    rw [chosen_of_restates h hv]
    simp only [bind, Except.bind]
    cases g.selected v cases s with
    | error e => rfl
    | ok result =>
      cases result with
      | none => rfl
      | some r => rfl

/-! ### Blank texts -/

/-- What a list of blocks keeps of a directive: a blank text counts as none. -/
def kept (result : Except Error (String × State)) : Except Error (String × State) :=
  result.map fun (text, s) => (if Text.isBlank text then "" else text, s)

theorem kept_kept (result : Except Error (String × State)) : kept (kept result) = kept result := by
  cases result with
  | error e => rfl
  | ok r =>
    simp only [kept, Except.map]
    split <;> rfl

theorem blocks_cons {b : Block} (hb : b.isText = false) (more : List Block) (s : State) :
    g.blocks (b :: more) s = (do
      let (text, s) ← kept (g.block b s)
      let (texts, s) ← g.blocks more s
      return (if Text.isBlank text then texts else text :: texts, s)) := by
  rw [blocks, hb]
  cases g.block b s with
  | error e => rfl
  | ok r =>
    simp only [kept, Except.map, bind, Except.bind]
    cases hr : Text.isBlank r.1 with
    | true => rfl
    | false => simp [hr]

theorem joinLines_directive {b : Block} (hb : b.isText = false) (s : State) :
    joinLines (g.blocks [b] s) = kept (g.block b s) := by
  rw [blocks_cons hb, ← kept_kept]
  cases kept (g.block b s) with
  | error e => rfl
  | ok r =>
    simp only [blocks, joinLines, kept, Except.map, bind, Except.bind, pure, Except.pure]
    split <;> rfl

/-! ### A choice as conditions -/

theorem kept_nests {default : Option (List Block)} {ws : List (Branch Expr Block)} {b : Block}
    (h : Block.Nests default ws b) (pos : Position) (s : State) :
    kept (g.block (.choose ws default pos) s) = kept (g.block b s) := by
  induction h generalizing s with
  | @last w place =>
    rw [block, block, chosen]
    cases g.holds w.head s with
    | error e => rfl
    | ok r =>
      obtain ⟨holds, t⟩ := r
      cases holds with
      | true =>
        simp only [bind, Except.bind, if_true]
        cases joinLines (g.blocks w.body t) <;> rfl
      | false => rfl
  | @more w ws b place hn ih =>
    have hrest := fun t => joinLines_directive (g := g) hn.isText t
    rw [block, block, chosen]
    cases g.holds w.head s with
    | error e => rfl
    | ok r =>
      obtain ⟨holds, t⟩ := r
      cases holds with
      | true =>
        simp only [bind, Except.bind, if_true]
        cases joinLines (g.blocks w.body t) <;> rfl
      | false =>
        -- the rest of the choice is the body of an alternative here, and its text may be blank
        simp only [bind, Except.bind, Bool.false_eq_true, if_false, optional]
        rw [hrest, kept_kept, ← ih t, block]
        rfl

/-! ### Exchanges -/

theorem selected_congr {body body' : List Block} (h : g.blocks body = g.blocks body') (v : Value)
    (values : List Literal) (place : Position) (before after : List (Branch (List Literal) Block))
    (s : State) :
    g.selected v (before ++ ⟨values, body, place⟩ :: after) s =
      g.selected v (before ++ ⟨values, body', place⟩ :: after) s := by
  induction before with
  | nil => rw [List.nil_append, List.nil_append, selected, selected, h]
  | cons c before ih => rw [List.cons_append, List.cons_append, selected, selected, ih]

theorem chosen_congr {body body' : List Block} (h : g.blocks body = g.blocks body') (test : Expr)
    (place : Position) (before after : List (Branch Expr Block)) (s : State) :
    g.chosen (before ++ ⟨test, body, place⟩ :: after) s =
      g.chosen (before ++ ⟨test, body', place⟩ :: after) s := by
  induction before generalizing s with
  | nil => rw [List.nil_append, List.nil_append, chosen, chosen, h]
  | cons w before ih =>
    rw [List.cons_append, List.cons_append, chosen, chosen]
    simp only [ih]

theorem block_around {hole : List Block → Block} (h : Block.Around hole)
    {body body' : List Block} (hb : g.blocks body = g.blocks body') (s : State) :
    g.block (hole body) s = g.block (hole body') s := by
  cases h with
  | consequence => simp only [block, hb]
  | alternative => simp only [block, optional, hb]
  | case => simp only [block, selected_congr hb]
  | switchDefault => simp only [block, optional, hb]
  | when => simp only [block, chosen_congr hb]
  | chooseDefault => simp only [block, optional, hb]
  | loop => simp only [block, hb]
  | guard => simp only [block, hb]

theorem blocks_congr {b c : Block} (hb : b.isText = false) (hc : c.isText = false)
    (h : ∀ s, kept (g.block b s) = kept (g.block c s)) (before after : List Block) :
    g.blocks (before ++ b :: after) = g.blocks (before ++ c :: after) := by
  funext s
  induction before generalizing s with
  | nil => rw [List.nil_append, List.nil_append, blocks_cons hb, blocks_cons hc, h]
  | cons d before ih =>
    rw [List.cons_append, List.cons_append, blocks, blocks]
    simp only [ih]

theorem kept_exchanges {b c : Block} (h : b.Exchanges c) (s : State) :
    kept (g.block b s) = kept (g.block c s) := by
  induction h generalizing s with
  | here h =>
    cases h with
    | switch hne hcases => rw [block_switch_eq hne hcases]
    | choose hn => exact kept_nests hn _ s
  | inside ha h ih =>
    obtain ⟨hb, hc⟩ := h.isText
    rw [block_around ha (blocks_congr hb hc ih _ _)]

/-- A template with one selection in it exchanged, at any depth, is rendered alike. -/
theorem renderBlocks_exchanges {b c : Block} (h : b.Exchanges c) (before after : List Block)
    (context : Fields Value) :
    g.renderBlocks (before ++ b :: after) context =
      g.renderBlocks (before ++ c :: after) context := by
  obtain ⟨hb, hc⟩ := h.isText
  rw [renderBlocks, renderBlocks, blocks_congr hb hc (kept_exchanges h)]

theorem renderBlocks_exchanges_in_loop :
    ∃ (header : Loop) (cases : List (Branch (List Literal) Block))
      (whens : List (Branch Expr Block)) (subject : Operand),
      Block.Exchanges (.loop header [.switch subject cases none ⟨1, 0⟩] ⟨0, 0⟩)
        (.loop header [.choose whens none ⟨1, 0⟩] ⟨0, 0⟩) ∧
      standard.renderBlocks [.loop header [.switch subject cases none ⟨1, 0⟩] ⟨0, 0⟩]
          [("xs", .array [.string "b", .null])] =
        standard.renderBlocks [.loop header [.choose whens none ⟨1, 0⟩] ⟨0, 0⟩]
          [("xs", .array [.string "b", .null])] ∧
      (standard.renderBlocks [.loop header [.switch subject cases none ⟨1, 0⟩] ⟨0, 0⟩]
        [("xs", .array [.string "b", .null])]).map (·.output) = .ok "yes" := by
  let header : Loop :=
    ⟨⟨"x", ⟨0, 5⟩⟩, none, ⟨.variable ⟨"xs", []⟩, [], ⟨0, 10⟩⟩, none, none, none⟩
  let subject : Operand := ⟨.variable ⟨"x", []⟩, [], ⟨1, 8⟩⟩
  let equals (l : Literal) : Expr :=
    .compare .eq (.operand subject) (.operand ⟨.literal l, [], ⟨2, 12⟩⟩) ⟨2, 9⟩
  let case : Branch (List Literal) Block :=
    ⟨[.string "a", .string "b"], [.text "yes" ⟨3, 0⟩], ⟨2, 0⟩⟩
  let when : Branch Expr Block :=
    ⟨.or (equals (.string "a")) (equals (.string "b")), [.text "yes" ⟨3, 0⟩], ⟨2, 0⟩⟩
  have hhead : when.head.AsksFor subject ([.string "a"] ++ [.string "b"]) := .more .one
  have hcases : List.Forall₂ (Branch.Restates subject) [case] [when] := .cons ⟨hhead, rfl⟩ .nil
  have hswitch : Block.Restates (.switch subject [case] none ⟨1, 0⟩) (.choose [when] none ⟨1, 0⟩) :=
    .switch (List.cons_ne_nil case []) hcases
  have hloop : Block.Exchanges (.loop header [.switch subject [case] none ⟨1, 0⟩] ⟨0, 0⟩)
      (.loop header [.choose [when] none ⟨1, 0⟩] ⟨0, 0⟩) :=
    @Block.Exchanges.inside _ _ _ [] [] (@Block.Around.loop header ⟨0, 0⟩) (.here hswitch)
  refine ⟨header, [case], [when], subject, hloop, ?_, by decide +kernel⟩
  exact renderBlocks_exchanges hloop [] [] [("xs", .array [.string "b", .null])]

end Engine

end LineTemplate
