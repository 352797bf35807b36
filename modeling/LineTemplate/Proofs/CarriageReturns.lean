import Mathlib
import LineTemplate.Proofs.Lexemes
import LineTemplate.Template

/-!
# Carriage returns

A carriage return at the end of a directive line does not belong to the line. So where one is put
behind directive lines that have none, the same lines are read: the tokens stay what and where they
are, save that the end of the template may move, and nothing that is read takes its position from
there.
-/

namespace LineTemplate

namespace Text

/-- The line with the number `n`, with a carriage return behind it if it is chosen. -/
def returned (chosen : Nat → Bool) (n : Nat) (line : List Char) : List Char :=
  if chosen n then line ++ ['\r'] else line

/-- The text with a carriage return behind each of the chosen lines, counted from zero. -/
def withReturns (chosen : Nat → Bool) (text : String) : String :=
  joinWith "\n" (((cutLines text.toList).mapIdx (returned chosen)).map String.ofList)

theorem notMem_returned {line : List Char} (h : '\n' ∉ line) (chosen : Nat → Bool) (n : Nat) :
    '\n' ∉ returned chosen n line := by
  rw [returned]
  split
  · rw [List.mem_append, List.mem_singleton]
    rintro (hm | hm)
    · exact h hm
    · cases hm
  · exact h

theorem cutLines_withReturns (chosen : Nat → Bool) (text : String) :
    cutLines (withReturns chosen text).toList =
      (cutLines text.toList).mapIdx (returned chosen) := by
  have hne := cutLines_ne_nil text.toList
  rw [withReturns, cutLines_joinWith (by simpa using hne), List.map_map]
  · have hid : String.toList ∘ String.ofList = id := funext fun _ => String.toList_ofList
    rw [hid, List.map_id]
  · intro piece hp
    obtain ⟨line, hline, rfl⟩ := List.mem_map.1 hp
    obtain ⟨n, hn, rfl⟩ := List.mem_mapIdx.1 hline
    rw [String.toList_ofList]
    exact cutLines_of_notMem
      (notMem_returned (notMem_of_mem_cutLines (List.getElem_mem hn)) chosen n)

end Text

namespace Line
open Token (OpensDirective isDirectiveLine_iff)

theorem opensDirective_append_return {cs : List Char} (h : OpensDirective cs) :
    OpensDirective (cs ++ ['\r']) := by
  obtain ⟨gap, c, rest, rfl, hgap, hc⟩ := h
  exact ⟨gap, c, rest ++ ['\r'], by simp, hgap, hc⟩

theorem ofChars_append_return {cs : List Char} (h : OpensDirective cs)
    (hr : cs.getLast? ≠ some '\r') (n : Nat) : ofChars n (cs ++ ['\r']) = ofChars n cs := by
  rw [ofChars, ofChars, if_pos (isDirectiveLine_iff.2 h),
    if_pos (isDirectiveLine_iff.2 (opensDirective_append_return h)), Text.dropReturn_append,
    Text.dropReturn_of_getLast hr]

/-- All chosen lines are directives of the text that do not end in a return. -/
def LackReturns (chosen : Nat → Bool) (text : String) : Prop :=
  ∀ n, chosen n = true → ∃ line, (Text.cutLines text.toList)[n]? = some line ∧
    OpensDirective line ∧ line.getLast? ≠ some '\r'

theorem ofText_withReturns {chosen : Nat → Bool} {text : String} (h : LackReturns chosen text) :
    ofText (Text.withReturns chosen text) = ofText text := by
  rw [ofText, ofText, Text.cutLines_withReturns]
  refine List.ext_getElem? fun n => ?_
  rw [getElem?_ofCut, getElem?_ofCut, List.getElem?_mapIdx, Option.map_map]
  cases hline : (Text.cutLines text.toList)[n]? with
  | none => rfl
  | some line =>
    rw [Option.map_some, Option.map_some, Function.comp_apply, Text.returned]
    split
    · next hn =>
      obtain ⟨_, he, hd, hr⟩ := h n hn
      rw [hline] at he
      cases he
      rw [ofChars_append_return hd hr]
    · rfl

end Line

namespace Template

/-- Carriage returns behind directive lines that end in none change neither the blocks of a text nor
the error that it has instead of them, and of its tokens they move at most the last one. -/
theorem blocks_withReturns {chosen : Nat → Bool} {text : String}
    (h : Line.LackReturns chosen text) :
    (ofText (Text.withReturns chosen text)).map blocks = (ofText text).map blocks ∧
      ∃ (ts : List Token) (stop stop' : Position),
        Token.tokenize text = ts ++ [⟨.endOfTemplate, "", stop⟩] ∧
        Token.tokenize (Text.withReturns chosen text) = ts ++ [⟨.endOfTemplate, "", stop'⟩] := by
  have hlines := Line.ofText_withReturns h
  have hblocks : Block.ofText (Text.withReturns chosen text) = Block.ofText text := by
    rw [Block.ofText, Block.ofText, hlines]
  refine ⟨?_, (Line.ofText text).flatMap Line.tokens, _,
    Token.endOf 0 (Text.cutLines (Text.withReturns chosen text).toList), rfl, ?_⟩
  · cases hb : Block.ofText text with
    | ok bs => simp only [ofText_of_blocks hb, ofText_of_blocks (hblocks.trans hb), Except.map]
    | error e => rw [ofText_eq_error hb, ofText_eq_error (hblocks.trans hb)]
  · rw [Token.tokenize, hlines]

/-- An open string and, behind a line of text, a condition that is never closed. -/
theorem blocks_withReturns_open :
    (ofText "#if 'a\r").map blocks =
        .error (.grammar ⟨.unexpected .unknown "'a" .operand, ⟨0, 4⟩⟩) ∧
      (ofText "#for i of :l\r\nx\n#if :i\r").map blocks =
        .error (.grammar ⟨.unterminated .condition [.otherwise, .endCondition], ⟨2, 0⟩⟩) := by
  have hstring : Line.LackReturns (· == 0) "#if 'a" := by
    intro n hn
    rw [beq_iff_eq.1 hn]
    exact ⟨"#if 'a".toList, by decide, Token.isDirectiveLine_iff.1 (by decide), by decide⟩
  have hblock : Line.LackReturns (fun n => n == 0 || n == 2) "#for i of :l\nx\n#if :i" := by
    intro n hn
    rw [Bool.or_eq_true, beq_iff_eq, beq_iff_eq] at hn
    rcases hn with rfl | rfl
    · exact ⟨"#for i of :l".toList, by decide, Token.isDirectiveLine_iff.1 (by decide), by decide⟩
    · exact ⟨"#if :i".toList, by decide, Token.isDirectiveLine_iff.1 (by decide), by decide⟩
  exact ⟨(blocks_withReturns hstring).1.trans (by cbv),
    (blocks_withReturns hblock).1.trans (by cbv)⟩

end Template

end LineTemplate
