import Mathlib
import LineTemplate.Template

/-!
# Text without directives

A text without directive lines is a template of itself: each of its lines is a block of text, its
outline is empty, and every engine renders it unchanged, whatever the data are. Reading cuts the
text at its line feeds and rendering puts them back; no line is formatted, since no loop is around
it, and blank lines stay, since they are text.
-/

namespace LineTemplate

/-- The blocks of lines that are all text, the first of which has the number `n`. -/
def Block.ofPlain (n : Nat) : List (List Char) → List Block
  | [] => []
  | cs :: more => .text (String.ofList cs) ⟨n, 0⟩ :: ofPlain (n + 1) more

section

variable {pieces : List (List Char)}

theorem Block.ofPlain_eq_mapIdx (n : Nat) (pieces : List (List Char)) :
    ofPlain n pieces =
      (pieces.map String.ofList).mapIdx fun k line => .text line ⟨n + k, 0⟩ := by
  induction pieces generalizing n with
  | nil => rfl
  | cons cs more ih =>
    have hshift : ∀ k, n + 1 + k = n + (k + 1) := by omega
    simp only [ofPlain, ih, List.map_cons, List.mapIdx_cons, hshift, Nat.add_zero]

theorem Draft.addAll_plain (h : ∀ cs ∈ pieces, Token.isDirectiveLine cs = false) (n : Nat)
    (bs : List Block) (fs : List Frame) :
    addAll ⟨.body bs, fs⟩ (Line.ofCut n pieces) =
      .ok ⟨.body ((Block.ofPlain n pieces).reverse ++ bs), fs⟩ := by
  induction pieces generalizing n bs with
  | nil => rfl
  | cons cs more ih =>
    have hline : Token.isDirectiveLine cs = false := h cs List.mem_cons_self
    have hmore := ih (fun ds hd => h ds (List.mem_cons_of_mem cs hd)) (n + 1)
      (.text (String.ofList cs) ⟨n, 0⟩ :: bs)
    simp only [Line.ofCut, Line.ofChars, hline, Bool.false_eq_true, if_false, addAll, add,
      addToBody, hmore, Block.ofPlain, List.reverse_cons, List.append_assoc, List.singleton_append]

theorem Block.ofText_plain {text : String}
    (h : ∀ line ∈ Text.lines text, Token.isDirectiveLine line.toList = false) :
    Block.ofText text = .ok (ofPlain 0 (Text.cutLines text.toList)) := by
  have hpieces : ∀ cs ∈ Text.cutLines text.toList, Token.isDirectiveLine cs = false := by
    intro cs hcs
    have hline := h (String.ofList cs) (List.mem_map_of_mem hcs)
    rw [String.toList_ofList] at hline
    exact hline
  have hadd := Draft.addAll_plain hpieces 0 [] []
  rw [List.append_nil] at hadd
  simp only [Block.ofText, Block.ofLines, Line.ofText, Draft.empty, hadd, Draft.finish,
    List.reverse_reverse]

theorem Mention.ofBlocks_plain (n : Nat) (pieces : List (List Char)) :
    ofBlocks false (Block.ofPlain n pieces) = [] := by
  induction pieces generalizing n with
  | nil => rfl
  | cons cs more ih =>
    rw [Block.ofPlain, ofBlocks, ofBlock, ih]
    rfl

/-- Outside of loops text lines are left alone. -/
theorem Engine.blocks_plain (g : Engine) {s : State} (hs : s.scope.inLoop = false) (n : Nat)
    (pieces : List (List Char)) :
    g.blocks (Block.ofPlain n pieces) s = .ok (pieces.map String.ofList, s) := by
  induction pieces generalizing n with
  | nil => rfl
  | cons cs more ih =>
    have hline : g.block (.text (String.ofList cs) ⟨n, 0⟩) s = .ok (String.ofList cs, s) := by
      rw [block, textLine, hs]
      rfl
    rw [Block.ofPlain, blocks, hline]
    simp only [bind, Except.bind, ih]
    rfl

end

namespace Engine

/-- A text none of whose lines is a directive can be read, as one block of text for each line; its
outline is empty; and whatever it is rendered with and against, it comes out as it is and nothing
is defined. -/
theorem render_plain_text {text : String}
    (h : ∀ line ∈ Text.lines text, Token.isDirectiveLine line.toList = false) :
    ∃ template, Template.ofText text = .ok template ∧
      template.blocks = (Text.lines text).mapIdx (fun n line => .text line ⟨n, 0⟩) ∧
      Outline.ofText text = .ok ⟨[], [], [], [], []⟩ ∧
      ∀ (g : Engine) (context : Fields Value),
        g.render template context = .ok ⟨text, [], []⟩ ∧
          g.evaluateText text context = .ok text := by
  have hread := Template.ofText_of_blocks (Block.ofText_plain h)
  have hrender : ∀ (g : Engine) (context : Fields Value),
      g.renderBlocks (Block.ofPlain 0 (Text.cutLines text.toList)) context =
        .ok ⟨text, [], []⟩ := by
    intro g context
    have hjoin : Text.joinWith "\n" ((Text.cutLines text.toList).map String.ofList) = text :=
      Text.joinWith_lines text
    rw [renderBlocks, blocks_plain g rfl, joinLines]
    simp only [bind, Except.bind, pure, Except.pure, hjoin]
    rfl
  refine ⟨_, hread, ?_, ?_, fun g context => ⟨hrender g context, ?_⟩⟩
  · have hblocks := Block.ofPlain_eq_mapIdx 0 (Text.cutLines text.toList)
    simp only [Nat.zero_add] at hblocks
    exact hblocks
  · rw [Outline.ofText, hread]
    simp only [bind, Except.bind, Outline.ofBlocks, Mention.ofBlocks_plain]
    rfl
  · rw [evaluateText, hread]
    simp only [bind, Except.bind, render, hrender]
    rfl

/-- Blank lines, carriage returns, placeholders and lines that only look like directives. -/
theorem render_plain_text_lookalikes :
    ∃ template, Template.ofText " \r\n##if\n\t# fi ${x}\n\u00a0#if\n\n" = .ok template ∧
      standard.render template [("x", .null)] =
        .ok ⟨" \r\n##if\n\t# fi ${x}\n\u00a0#if\n\n", [], []⟩ := by
  have h : ∀ line ∈ Text.lines " \r\n##if\n\t# fi ${x}\n\u00a0#if\n\n",
      Token.isDirectiveLine line.toList = false := by decide
  obtain ⟨template, hread, -, -, hrender⟩ := render_plain_text h
  exact ⟨template, hread, (hrender standard _).1⟩

end Engine

end LineTemplate
