import Mathlib
import LineTemplate.Proofs.DescentSelections

/-!
# Progress of the descent

The descent reads the same blocks as a draft that takes line by line, or stops with the same error.
-/

namespace LineTemplate

open Token (AllWords)

namespace Descent

section Body

variable {tokens : List Token} {eof : Token} {inside : Inside} {frames : List Frame}
  {blocks : List Block} {limit : Nat} {bodies : Inside → Run (List Block × Token)} {ls : List Line}
  {left : List Line} {c : Cursor} {w : Token} {ws : List Token} {stop : Position}

/-! ### Tokens that begin no block -/

theorem stray_eq (hf : inside.Fits frames) {t : Token} (ht : t.kind ≠ .endOfTemplate)
    (hu : t.kind ≠ .unknown) : inside.stray t = ⟨Draft.stray frames t.kind, t.pos⟩ := by
  cases hf <;>
  · simp only [Inside.stray]
    rfl

theorem stray_unknown {t : Token} (ht : t.kind = .unknown) :
    inside.stray t = ⟨.unknownDirective t.literal, t.pos⟩ := by
  cases inside <;> simp only [Inside.stray, ht]

theorem stray_end (heof : eof.kind = .endOfTemplate) (hf : inside.Fits frames)
    (ho : inside.closes eof.kind = false) (blocks : List Block) :
    (⟨.body blocks, frames⟩ : Draft).finish = .error (inside.stray eof) := by
  cases hf with
  | template =>
    rw [heof] at ho
    cases ho
  | body =>
    simp only [Inside.stray, heof]
    rfl

/-- The directives that begin no block. -/
def closesOnly : Directive → Bool
  | .otherwise | .endCondition | .case | .default | .endBranch | .endSelection | .when | .endLoop
  | .endGuard => true
  | _ => false

theorem addDirective_stray (hf : inside.Fits frames) {d : Directive} (hd : closesOnly d = true)
    (hc : inside.closes (.directive d) = false) (pos stop : Position) (ws : List Token) :
    Draft.addDirective blocks frames d pos ws stop =
      .error ⟨Draft.stray frames (.directive d), pos⟩ := by
  cases hf with
  | template => cases d <;> first | rfl | exact absurd hd (by decide)
  | @body frame outer =>
    cases frame with
    | block opening pos before =>
      cases opening <;> cases d <;>
        first
          | rfl
          | exact absurd hd (by decide)
          | simp [Inside.closes, Frame.words, Opening.words] at hc
    | switchBranch subject s head pos =>
      cases d <;>
        first
          | rfl
          | exact absurd hd (by decide)
          | simp [Inside.closes, Frame.words] at hc
    | chooseBranch s head pos =>
      cases d <;>
        first
          | rfl
          | exact absurd hd (by decide)
          | simp [Inside.closes, Frame.words] at hc

/-! ### All blocks -/

/-- A line that begins with a word begins a block, or the word has no place here. -/
theorem builds_block_word (heof : eof.kind = .endOfTemplate)
    (hb : ReadsBodies tokens eof limit bodies) (hf : inside.Fits frames)
    (hc : c.Before tokens eof (limit + 1) (.directive (w :: ws) stop :: left))
    (hopen : inside.closes w.kind = false) (blocks : List Block) :
    BuildsBlock tokens eof (.directive (w :: ws) stop :: left) blocks frames
      (block bodies (limit + 1) inside tokens c) := by
  have hword := hc.words w List.mem_cons_self
  have hlook := hc.looked
  -- What the draft says of a word that is out of place is what the routine says of it.
  have hstray : w.kind ≠ .unknown → (⟨.body blocks, frames⟩ : Draft).add
      (.directive (w :: ws) stop) = .error ⟨Draft.stray frames w.kind, w.pos⟩ →
      BuildsBlock tokens eof (.directive (w :: ws) stop :: left) blocks frames
        (some (.error (inside.stray w), c.noting (.looked c.place))) := by
    intro hu hadd
    rw [stray_eq hf (kind_ne_of_word hword).2 hu]
    refine .error hlook.at_lines.sound ?_
    rw [Draft.readAll_cons, hadd]
    rfl
  rw [block, look_bind, hc.lead_eq, lead, front_cons]
  cases hk : w.kind with
  | directive d =>
    rw [hk] at hopen
    cases d with
    | condition => exact builds_condition hb hlook hk
    | switch => exact builds_switch heof hb hlook hk
    | choose => exact builds_choose heof hb hlook hk
    | loop => exact builds_loop hb hlook hk
    | guard => exact builds_guard hb hlook hk
    | check => exact builds_check hlook hk
    | define => exact builds_define hlook hk
    | _ =>
      refine hstray (by simp [hk]) ?_
      simp only [Draft.add, Draft.addToBody, hk]
      exact addDirective_stray hf rfl hopen w.pos stop ws
  | unknown =>
    refine .error hlook.at_lines.sound ?_
    rw [stray_unknown hk, Draft.readAll_cons]
    simp only [Draft.add, Draft.addToBody, hk]
    rfl
  | text | endOfLine | endOfTemplate =>
    rw [hk] at hword
    cases hword
  | _ =>
    refine hstray (by simp [hk]) ?_
    simp only [Draft.add, Draft.addToBody, hk]

theorem builds_block (heof : eof.kind = .endOfTemplate) (hb : ReadsBodies tokens eof limit bodies)
    (hf : inside.Fits frames) (hc : c.Before tokens eof (limit + 1) ls)
    (hopen : inside.closes (lead eof ls).kind = false) (blocks : List Block) :
    BuildsBlock tokens eof ls blocks frames (block bodies (limit + 1) inside tokens c) := by
  have hlook := hc.looked
  match ls with
  | .directive (w :: ws) stop :: left => exact builds_block_word heof hb hf hc hopen blocks
  | [] =>
    rw [block, look_bind, hc.lead_eq, lead, heof]
    exact .error hlook.at_lines.sound (stray_end heof hf hopen blocks)
  | .text content pos :: left =>
    rw [block, look_bind, hc.lead_eq]
    exact builds_text hlook
  | .directive [] stop :: left =>
    rw [block, look_bind, hc.lead_eq]
    refine .error hlook.at_lines.sound ?_
    rw [stray_eq hf (by simp [lead, front, lineEnd]) (by simp [lead, front, lineEnd])]
    rfl

/-- The token that closes the blocks is taken. -/
theorem exists_closer (heof : eof.kind = .endOfTemplate) (hf : inside.Fits frames)
    (hc : c.Before tokens eof limit ls) (hclose : inside.closes (lead eof ls).kind = true)
    (blocks : List Block) :
    ∃ closer d, take tokens c = some (.ok closer, d) ∧
      Closes tokens eof ls inside frames ((⟨.body blocks.reverse, frames⟩ : Draft).readAll ls)
        (some (.ok (blocks, closer), d)) := by
  match ls with
  | [] =>
    have hat : c.At tokens [eof] := hc.at_lines
    rw [lead, heof] at hclose
    cases hf with
    | body => cases hclose
    | template =>
      have hgoal : (⟨.body blocks.reverse, []⟩ : Draft).readAll [] = .ok blocks :=
        congrArg Except.ok (List.reverse_reverse blocks)
      exact ⟨eof, _, hat.take_end heof, .template rfl hat.looked hgoal⟩
  | .text content pos :: left => cases hf <;> cases hclose
  | .directive [] stop :: left => cases hf <;> cases hclose
  | .directive (w :: ws) stop :: left =>
    rw [lead, front_cons] at hclose
    obtain ⟨d, htake, hd⟩ := hc.exists_take_word
    refine ⟨w, d, htake, ?_⟩
    cases hf with
    | template =>
      have hkind := (kind_ne_of_word (hc.words w List.mem_cons_self)).2
      exact absurd (of_decide_eq_true hclose) hkind
    | body =>
      cases hk : w.kind with
      | directive e =>
        rw [hk] at hclose
        exact .body rfl hk (of_decide_eq_true hclose) (List.suffix_refl _) hd rfl
      | _ =>
        rw [hk] at hclose
        cases hclose

theorem turns_nextBlock (heof : eof.kind = .endOfTemplate)
    (hb : ReadsBodies tokens eof limit bodies) (hf : inside.Fits frames)
    (hc : c.Before tokens eof (limit + 1) ls) :
    Turns tokens eof (fun ls blocks => Closes tokens eof ls inside frames
      ((⟨.body blocks.reverse, frames⟩ : Draft).readAll ls)) ls blocks
      (nextBlock bodies (limit + 1) inside blocks tokens c) := by
  rw [nextBlock, look_bind, hc.lead_eq]
  cases hclose : inside.closes (lead eof ls).kind with
  | true =>
    obtain ⟨closer, d, htake, hend⟩ := exists_closer heof hf hc.looked hclose blocks
    rw [if_pos rfl, bind_of_ok htake]
    exact .leaves hend
  | false =>
    have hblock := builds_block heof hb hf hc.looked hclose blocks.reverse
    rw [if_neg (by decide)]
    generalize he : block bodies (limit + 1) inside tokens _ = run at hblock
    cases hblock with
    | error hd hgoal =>
      rw [bind_of_error he]
      exact .fails (.error hd hgoal)
    | @ok b d left hd hs hless hgoal =>
      rw [bind_of_ok he]
      refine .goesOn hd hs hless fun run hrun => ?_
      rw [List.reverse_concat] at hrun
      rw [hgoal]
      exact hrun.mono hs

/-- Blocks have gone forward, except where the template ends in front of the first of them. -/
theorem Closes.noted {goal : Except SyntaxError (List Block)} {m : Run (List Block × Token)}
    (heof : eof.kind = .endOfTemplate) (hc : c.At tokens (stream eof ls))
    (h : Closes tokens eof ls inside frames goal (m tokens c)) :
    Closes tokens eof ls inside frames goal
      (noted (fun found => .done (.blocks found.2.kind)) m tokens c) := by
  generalize he : m tokens c = run at h
  cases h with
  | error hd hgoal =>
    rw [noted_of_error he]
    exact .error hd hgoal
  | @template blocks d hi hd hgoal =>
    have hplace := hc.length.trans hd.length.symm
    have hpos : 0 < (stream eof ls).length := by simp [stream]
    have hnote : (Note.done (.blocks eof.kind) c.place d.place).Sound tokens.length := by
      refine ⟨hd.sound.place_lt, ?_⟩
      simp only [List.length_singleton] at hplace
      rcases Nat.lt_or_eq_of_le (show c.place ≤ d.place by omega) with h | h
      · exact .inl h
      · exact .inr ⟨h, heof⟩
    rw [noted_of_ok he]
    exact .template hi (hd.noting hnote rfl) hgoal
  | @body _ _ _ stop _ blocks closer ws left d hi hk hmem hs hd hgoal =>
    have hlt : c.place < d.place := by
      refine hc.lt_place hd ?_
      have hlen : (stream eof (.directive (closer :: ws) stop :: left)).length ≤
        (stream eof ls).length := length_stream_of_suffix hs
      rw [stream_directive] at hlen
      simp only [List.length_append, List.length_cons] at hlen ⊢
      omega
    have hnote : (Note.done (.blocks closer.kind) c.place d.place).Sound tokens.length :=
      ⟨hd.sound.place_lt, .inl hlt⟩
    rw [noted_of_ok he]
    exact .body hi hk hmem hs (hd.noting hnote rfl) hgoal

theorem readsBodies_blocksUntil (heof : eof.kind = .endOfTemplate) (limit : Nat) :
    ReadsBodies tokens eof limit (blocksUntil limit) := by
  induction limit with
  | zero => exact fun _ _ _ _ hc => absurd hc.room (Nat.not_lt_zero _)
  | succ limit ih =>
    intro inside frames ls c hc hf
    refine .noted heof hc.at_lines ?_
    exact @rounds_end tokens eof _ _ .blocks (nextBlock (blocksUntil limit) (limit + 1) inside)
      (limit + 1) (fun ls blocks => Closes tokens eof ls inside frames
        ((⟨.body blocks.reverse, frames⟩ : Draft).readAll ls))
      (fun ls blocks c hc => turns_nextBlock heof ih hf hc) (limit + 1) ls [] c hc hc.room

end Body

/-! ### Whole templates -/

theorem parse_eq {tokens : List Token} (h : tokens ≠ []) (n : Nat) (c : Cursor) :
    parse n tokens c =
      (blocksUntil n .template >>= fun found => (pure found.1 : Run (List Block))) tokens c := by
  have hread : (read : Run (List Token)) tokens c = some (.ok tokens, c) := rfl
  rw [parse, bind_of_ok hread, if_neg (by simpa using h)]

/-- The descent comes to an end for every template, with what the template is read as, and leaves
the cursor sound: it never was behind the last token, every routine and every round of a loop has
gone forward, and no token has been taken twice. -/
theorem parse_progress (text : String) (more : Nat) :
    ∃ c, parse ((Token.tokenize text).length + more + 1) (Token.tokenize text) .start =
        some (Block.ofText text, c) ∧ c.Sound (Token.tokenize text) := by
  let eof : Token := ⟨.endOfTemplate, "", Token.endOf 0 (Text.cutLines text.toList)⟩
  have hstream : Token.tokenize text = stream eof (Line.ofText text) := rfl
  have hne : Token.tokenize text ≠ [] := by simp [hstream, stream]
  have hstart : Cursor.start.Before (Token.tokenize text) eof
      ((Token.tokenize text).length + more + 1) (Line.ofText text) :=
    ⟨⟨Cursor.sound_start hne, rfl⟩, Line.wordy_ofCut 0 _, by rw [hstream]; omega⟩
  have hrun := readsBodies_blocksUntil rfl ((Token.tokenize text).length + more + 1) .template []
    (Line.ofText text) .start hstart .template
  have hread : (Draft.mk (.body []) []).readAll (Line.ofText text) = Block.ofText text := rfl
  rw [hread] at hrun
  rw [parse_eq hne]
  generalize he : blocksUntil _ _ _ _ = run at hrun
  cases hrun with
  | body hi => cases hi
  | template _ hd hgoal =>
    refine ⟨_, ?_, hd.sound⟩
    rw [bind_of_ok he, hgoal]
    rfl
  | error hd hgoal =>
    refine ⟨_, ?_, hd⟩
    rw [bind_of_error he, hgoal]

example : parse 3 (Token.tokenize "a") .start = some (.ok [.text "a" ⟨0, 0⟩],
    ⟨1, [.done (.blocks .endOfTemplate) 0 1, .looked 1, .looked 1, .round .blocks 0 1,
      .done .text 0 1, .taken 0, .looked 0, .looked 0, .looked 0]⟩) := by cbv

end Descent

end LineTemplate
