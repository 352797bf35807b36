import LineTemplate.Proofs.Selections

/-!
# Dead code

A condition that is the word `false`, and that has no alternative, is dead: what stands in its body
is never looked at, whatever it defines, asks for or is wrong with. Such a block may stand anywhere
in a template and leaves no trace there, neither a line nor a name, nor the number of a loop.
-/

namespace LineTemplate

namespace Block

/-- A condition that never holds, around any blocks. -/
inductive IsDead : Block → Prop
  | falseCondition {body : List Block} {place pos : Position} :
      IsDead (.condition (.operand ⟨.literal (.bool false), [], place⟩) body none pos)

/-- The second list of blocks is the first one with a dead block put in, at any depth. -/
inductive Buries : List Block → List Block → Prop
  | here {dead : Block} {before after : List Block} :
      dead.IsDead → Buries (before ++ after) (before ++ dead :: after)
  | inside {hole : List Block → Block} {body body' before after : List Block} :
      Around hole → Buries body body' →
      Buries (before ++ hole body :: after) (before ++ hole body' :: after)

theorem IsDead.isText {dead : Block} (h : dead.IsDead) : dead.isText = false := by
  cases h
  rfl

end Block

namespace Engine

variable {g : Engine}

theorem holds_false (place : Position) (s : State) :
    g.holds (.operand ⟨.literal (.bool false), [], place⟩) s = .ok (false, s) := by
  simp only [holds, evaluate, expression, operand_literal, Literal.value, bind, Except.bind, pure,
    Except.pure]
  rfl

/-- Nothing in the body of a dead block is asked for anything. -/
theorem block_dead {dead : Block} (h : dead.IsDead) (s : State) : g.block dead s = .ok ("", s) := by
  cases h with
  | falseCondition =>
    rw [block, holds_false]
    rfl

theorem blocks_dead {dead : Block} (h : dead.IsDead) (before after : List Block) :
    g.blocks (before ++ dead :: after) = g.blocks (before ++ after) := by
  funext s
  induction before generalizing s with
  | nil =>
    have hblank : Text.isBlank "" = true := rfl
    rw [List.nil_append, List.nil_append, blocks, block_dead h, h.isText]
    simp only [bind, Except.bind, hblank, Bool.not_true, Bool.or_self, Bool.false_eq_true, if_false]
    cases g.blocks after s <;> rfl
  | cons b before ih =>
    rw [List.cons_append, List.cons_append, blocks, blocks]
    simp only [ih]

/-- Lists of blocks that are rendered alike may stand for each other in any body. -/
theorem blocks_around {hole : List Block → Block} (ha : Block.Around hole)
    {body body' : List Block} (h : g.blocks body = g.blocks body') (before after : List Block) :
    g.blocks (before ++ hole body :: after) = g.blocks (before ++ hole body' :: after) := by
  refine blocks_congr (ha.isText body) (ha.isText body') (fun s => ?_) before after
  rw [block_around ha h s]

theorem blocks_buries {bs cs : List Block} (h : Block.Buries bs cs) :
    g.blocks cs = g.blocks bs := by
  induction h with
  | here hd => exact blocks_dead hd _ _
  | inside ha _ ih => exact blocks_around ha ih _ _

/-- A template is rendered as if the dead blocks in it were not there: to the same text and the same
definitions, or to the same error. -/
theorem renderBlocks_buries {bs cs : List Block} (h : Block.Buries bs cs) (context : Fields Value) :
    g.renderBlocks cs context = g.renderBlocks bs context := by
  rw [renderBlocks, renderBlocks, blocks_buries h]

/-- Inside a loop, a dead block that would define a bound name, ask for a pipe that there is not,
fail a check and leave a line. -/
theorem renderBlocks_buries_in_loop :
    let header : Loop :=
      ⟨⟨"x", ⟨0, 5⟩⟩, none, ⟨.variable ⟨"xs", []⟩, [], ⟨0, 10⟩⟩, none, none, none⟩
    let piped : Expr := .operand ⟨.variable ⟨"x", []⟩, [⟨"unknown", [], ⟨4, 13⟩⟩], ⟨4, 9⟩⟩
    let always : Expr := .operand ⟨.literal (.bool true), [], ⟨5, 7⟩⟩
    let dead : Block := .condition (.operand ⟨.literal (.bool false), [], ⟨3, 4⟩⟩)
      [.define ⟨"x", ⟨4, 5⟩⟩ piped ⟨4, 0⟩, .check always "never" ⟨5, 0⟩, .text "line" ⟨6, 0⟩]
      none ⟨3, 0⟩
    let around (body : List Block) : List Block :=
      [.loop header [.choose [] (some body) ⟨1, 0⟩] ⟨0, 0⟩]
    let data : Fields Value := [("xs", .array [.string "a", .string "b"])]
    standard.renderBlocks (around [.text "${x}" ⟨2, 0⟩, dead]) data =
        standard.renderBlocks (around [.text "${x}" ⟨2, 0⟩]) data ∧
      (standard.renderBlocks (around [.text "${x}" ⟨2, 0⟩]) data).map (·.output) = .ok "a, b" := by
  intro header piped always dead around data
  have hbody : Block.Buries [.text "${x}" ⟨2, 0⟩] [.text "${x}" ⟨2, 0⟩, dead] :=
    @Block.Buries.here dead [.text "${x}" ⟨2, 0⟩] [] .falseCondition
  have hchoose := @Block.Buries.inside _ _ _ [] [] (@Block.Around.chooseDefault [] ⟨1, 0⟩) hbody
  have hloop := @Block.Buries.inside _ _ _ [] [] (@Block.Around.loop header ⟨0, 0⟩) hchoose
  exact ⟨renderBlocks_buries hloop data, by decide +kernel⟩

end Engine

end LineTemplate
