import Mathlib
import LineTemplate.Proofs.DescentBlocks

/-!
# Selections of the descent

Both kinds of selections are read by one loop over their branches. A round of it goes past the blank
text in front of a line, and past the line, with the body of the branch that it opens.
-/

namespace LineTemplate

open Token (AllWords)

namespace Descent

/-! ### What a line does to a selection -/

section Step

variable {Head : Type} {s : Selection Head} {opener e : Directive} {reader : Reader Head}
  {w : Token} {ws : List Token} {stop : Position}

theorem step_word (ht : w.kind = .directive e) :
    s.step opener e reader (.directive (w :: ws) stop) =
      Reader.all reader ws stop >>= fun head => .ok (.branch (some head) w.pos) := by
  simp only [Selection.step, ht, if_true]
  rfl

theorem step_default (he : e ≠ .default) (ht : w.kind = .directive .default) :
    s.step opener e reader (.directive (w :: ws) stop) =
      if s.default.isSome then .error ⟨.duplicateDefault opener, w.pos⟩
      else Reader.all Reader.nothing ws stop >>= fun _ => .ok (.branch none w.pos) := by
  have hne : Token.Kind.directive .default ≠ .directive e := by simpa using he.symm
  simp only [Selection.step, ht, hne, if_false, if_true]
  rfl

theorem step_end (he : e ≠ .endSelection) (ht : w.kind = .directive .endSelection) :
    s.step opener e reader (.directive (w :: ws) stop) =
      Reader.all Reader.nothing ws stop >>= fun _ => .ok .done := by
  have hne : Token.Kind.directive .endSelection ≠ .directive e := by simpa using he.symm
  simp only [Selection.step, ht, hne, if_false, if_true, Token.Kind.directive.injEq, reduceCtorEq]
  rfl

theorem step_other (he : w.kind ≠ .directive e) (hd : w.kind ≠ .directive .default)
    (hs : w.kind ≠ .directive .endSelection) : s.step opener e reader (.directive (w :: ws) stop) =
      .error ⟨.unexpected w.kind w.literal (.branch e), w.pos⟩ := by
  simp only [Selection.step, he, hd, hs, if_false]

end Step

/-- The two kinds of selections: how their branches are opened and read, and what they are in a
draft. -/
structure Choice (Head : Type) where
  opener : Directive
  word : Directive
  word_ne : word ≠ .default ∧ word ≠ .endSelection
  reader : Reader Head
  place : Selection Head → Place
  frame : Selection Head → Option Head → Position → Frame
  whole : List (Branch Head Block) → Option (List Block) → Position → Block
  add_eq (s : Selection Head) (frames : List Frame) (line : Line) :
    (⟨place s, frames⟩ : Draft).add line = s.step opener word reader line >>= fun
      | .skip => .ok ⟨place s, frames⟩
      | .branch head pos => .ok ⟨.body [], frame s head pos :: frames⟩
      | .done => .ok ⟨.body (whole s.branches.reverse s.default s.pos :: s.before), frames⟩
  finish_eq (s : Selection Head) (frames : List Frame) :
    (⟨place s, frames⟩ : Draft).finish = .error ⟨.unterminated opener [.endSelection], s.pos⟩
  words_eq (s : Selection Head) (head : Option Head) (pos : Position) :
    (frame s head pos).words = (if head.isSome then word else .default, [.endBranch])
  pos_eq (s : Selection Head) (head : Option Head) (pos : Position) : (frame s head pos).pos = pos
  close_eq (s : Selection Head) (head : Option Head) (pos p stop : Position) (blocks : List Block)
      (frames : List Frame) (ws : List Token) :
    Draft.addDirective blocks (frame s head pos :: frames) .endBranch p ws stop =
      Reader.all Reader.nothing ws stop >>= fun _ =>
        .ok ⟨place (s.close head pos blocks.reverse), frames⟩

namespace Choice

def switch (subject : Operand) : Choice (List Literal) where
  opener := .switch
  word := .case
  word_ne := by decide
  reader := Reader.literals
  place := .inSwitch subject
  frame := .switchBranch subject
  whole := .switch subject
  add_eq s frames line := by
    simp only [Draft.add]
    cases s.step .switch .case Reader.literals line with
    | error e => rfl
    | ok step => cases step <;> rfl
  finish_eq _ _ := rfl
  words_eq _ _ _ := rfl
  pos_eq _ _ _ := rfl
  close_eq _ _ _ _ _ _ _ _ := rfl

def choose : Choice Expr where
  opener := .choose
  word := .when
  word_ne := by decide
  reader := Reader.expression
  place := .inChoose
  frame := .chooseBranch
  whole := .choose
  add_eq s frames line := by
    simp only [Draft.add]
    cases s.step .choose .when Reader.expression line with
    | error e => rfl
    | ok step => cases step <;> rfl
  finish_eq _ _ := rfl
  words_eq _ _ _ := rfl
  pos_eq _ _ _ := rfl
  close_eq _ _ _ _ _ _ _ _ := rfl

variable {Head : Type} (k : Choice Head) (before : List Block) (frames : List Frame)

/-- The draft with the selection of the descent, which does not know what stands in front of it. -/
def draft (s : Selection Head) : Draft := ⟨k.place { s with before := before }, frames⟩

/-- The draft behind the selection. -/
def done (s : Selection Head) : Draft :=
  ⟨.body (k.whole s.branches.reverse s.default s.pos :: before), frames⟩

end Choice

section Blocks

variable {tokens : List Token} {eof : Token} {Head : Type} {limit : Nat} {ls left : List Line}
  {c : Cursor} {ws : List Token} {stop pos : Position} {w : Token}

/-! ### Blank text -/

/-- The run goes past the blank text in front of the lines, which a selection does not read. -/
inductive Skips (tokens : List Token) (eof : Token) (k : Choice Head) (ls : List Line) :
    Option (Except SyntaxError Unit × Cursor) → Prop
  | intro {d : Cursor} {left : List Line} :
      d.At tokens (stream eof left) → left <:+ ls → isBlankText (lead eof left) = false →
      (∀ s frames, (⟨k.place s, frames⟩ : Draft).readAll ls =
        (⟨k.place s, frames⟩ : Draft).readAll left) →
      Skips tokens eof k ls (some (.ok (), d))

/-- Blank text is a line of text, and a selection goes on behind it. -/
theorem exists_of_isBlankText (heof : eof.kind = .endOfTemplate)
    (hc : c.Before tokens eof limit ls) (h : isBlankText (lead eof ls) = true) :
    ∃ content pos left, ls = .text content pos :: left ∧ Text.isBlank content = true := by
  obtain ⟨hkind, hblank⟩ :
      (lead eof ls).kind = .text ∧ Text.isBlank (lead eof ls).literal = true := by
    simpa [isBlankText] using h
  match ls with
  | [] =>
    rw [lead, heof] at hkind
    cases hkind
  | .text content pos :: left => exact ⟨content, pos, left, rfl, hblank⟩
  | .directive [] stop :: left => cases hkind
  | .directive (w :: ws) stop :: left =>
    have hword := hc.words w List.mem_cons_self
    rw [show w.kind = .text from hkind] at hword
    cases hword

theorem Choice.readAll_blank (k : Choice Head) {content : String}
    (hb : Text.isBlank content = true) (s : Selection Head) (frames : List Frame)
    (left : List Line) : (⟨k.place s, frames⟩ : Draft).readAll (.text content pos :: left) =
      (⟨k.place s, frames⟩ : Draft).readAll left := by
  rw [Draft.readAll_cons, k.add_eq]
  simp only [Selection.step, hb, if_true]
  rfl

theorem skips_skipBlankText {n : Nat} (heof : eof.kind = .endOfTemplate) (k : Choice Head)
    (hc : c.Before tokens eof limit ls) (hn : (stream eof ls).length < n) :
    Skips tokens eof k ls (skipBlankText n tokens c) := by
  refine @rounds_end tokens eof Unit Unit .blankText _ limit (fun ls _ => Skips tokens eof k ls)
    (fun ls _ c hc => ?_) n ls () c hc hn
  rw [look_bind, hc.lead_eq]
  cases hb : isBlankText (lead eof ls) with
  | false => exact .leaves (.intro hc.at_lines.looked (List.suffix_refl _) hb fun _ _ => rfl)
  | true =>
    obtain ⟨content, pos, left, rfl, hblank⟩ := exists_of_isBlankText heof hc hb
    obtain ⟨d, htake, hd⟩ := hc.looked.exists_take_text
    have hskip : (do let _ ← take : Run Unit) tokens (c.noting (.looked c.place)) =
        some (.ok (), d) := bind_of_ok htake
    rw [if_pos rfl, bind_of_ok hskip]
    refine .goesOn hd (List.suffix_cons _ _) (Nat.lt_succ_self _) ?_
    rintro run ⟨hd, hs, hlead, hread⟩
    refine .intro hd (hs.trans (List.suffix_cons _ _)) hlead fun s frames => ?_
    rw [k.readAll_blank hblank, hread]

/-! ### Branches -/

variable {bodies : Inside → Run (List Block × Token)} {head : Run Head} {least : Nat}

/-- The body of a branch, from the end of the line that opens it. -/
theorem builds_branchBody (k : Choice Head) (s : Selection Head) (head : Option Head)
    (frames : List Frame) (hb : ReadsBodies tokens eof limit bodies) {line : Line}
    (hline : ∀ d : Cursor, d.At tokens (stream eof left) → d.Before tokens eof limit left)
    (hw : AllWords ws)
    (hc : c.At tokens (ws ++ lineEnd stop :: stream eof left))
    {goal : Except SyntaxError (List Block)}
    (hgoal : goal = Reader.all Reader.nothing ws stop >>= fun _ =>
      (⟨.body [], k.frame s head pos :: frames⟩ : Draft).readAll left) :
    Builds tokens eof (line :: left) goal (fun body => ⟨k.place (s.close head pos body), frames⟩)
      (branchBody bodies (if head.isSome then k.word else .default) pos tokens c) := by
  rw [hgoal]
  refine @Builds.behind _ _ _ _ _ _ (.directive ws stop) _ _ ?_
  refine .routine .branchBody (by rw [stream_directive]; exact hc) ?_
  refine .endOfLine hw hc rfl fun d hd => ?_
  refine .body (k.frame s head pos) hb (k.words_eq s head pos) (k.pos_eq s head pos) (hline d hd)
    fun body closer e ws stop more d _ he hw hs hl hd => ?_
  cases List.mem_singleton.1 he
  rw [k.close_eq]
  exact .last hw hd (bind_assoc ..) (hs.trans (List.suffix_cons _ _)) (Nat.lt_succ_of_lt hl)

/-- A line that begins with a word opens a branch, or ends the selection, or is out of place. -/
theorem builds_selectionLine_word (k : Choice Head)
    (hhead : ∀ stop ws, ws.length < limit + 1 → Follows stop least head ws (k.reader ws))
    (hb : ReadsBodies tokens eof limit bodies) (before : List Block) (frames : List Frame)
    (s : Selection Head)
    (hc : c.Before tokens eof (limit + 1) (.directive (w :: ws) stop :: left)) :
    Builds tokens eof (.directive (w :: ws) stop :: left)
      ((k.draft before frames s).readAll (.directive (w :: ws) stop :: left))
      (Sum.elim (k.draft before frames) (k.done before frames))
      (selectionLine bodies k.opener k.word head s tokens c) := by
  have hw : AllWords ws := (Token.allWords_cons.1 hc.words).2
  have hlast : w.kind ≠ .endOfTemplate := (kind_ne_of_word (hc.words w List.mem_cons_self)).2
  have hleft : ∀ d : Cursor, d.At tokens (stream eof left) → d.Before tokens eof limit left :=
    fun d hd => hc.inside hd (List.suffix_cons _ _) (Nat.lt_succ_self _)
  obtain ⟨d, htake, hd⟩ := hc.looked.exists_take_word
  rw [Choice.draft, Draft.readAll_cons, k.add_eq, selectionLine, look_bind, hc.lead_eq, lead,
    front_cons]
  by_cases hword : w.kind = .directive k.word
  · rw [step_word hword, bind_assoc, if_pos hword, bind_of_ok htake]
    refine .words hw hd (hhead stop ws (Nat.lt_of_succ_lt hc.words_lt)) (bind_assoc ..)
      fun head rest d hw hd => ?_
    refine .bind (builds_branchBody k _ (some head) frames hb hleft hw hd rfl)
      fun body d more hd hs hl => ?_
    exact .ok hd hs hl rfl
  · rw [if_neg hword]
    by_cases hdefault : w.kind = .directive .default
    · rw [step_default k.word_ne.1 hdefault, if_pos hdefault]
      split
      · exact .error hc.at_lines.looked.sound rfl
      · rw [bind_of_ok htake, bind_assoc, bind_assoc]
        refine .bind (builds_branchBody k _ none frames hb hleft hw hd rfl)
          fun body d more hd hs hl => ?_
        exact .ok hd hs hl rfl
    · rw [if_neg hdefault]
      by_cases hend : w.kind = .directive .endSelection
      · rw [step_end k.word_ne.2 hend, if_pos hend, bind_assoc, bind_of_ok htake]
        exact .last hw hd (bind_assoc ..) (List.suffix_cons _ _) (Nat.lt_succ_self _)
      · rw [step_other hword hdefault hend, if_neg hend, if_neg hlast]
        exact builds_unexpected hc.looked rfl

theorem builds_selectionLine (heof : eof.kind = .endOfTemplate) (k : Choice Head)
    (hhead : ∀ stop ws, ws.length < limit + 1 → Follows stop least head ws (k.reader ws))
    (hb : ReadsBodies tokens eof limit bodies) (before : List Block) (frames : List Frame)
    (s : Selection Head) (hc : c.Before tokens eof (limit + 1) ls)
    (hlead : isBlankText (lead eof ls) = false) :
    Builds tokens eof ls ((k.draft before frames s).readAll ls)
      (Sum.elim (k.draft before frames) (k.done before frames))
      (selectionLine bodies k.opener k.word head s tokens c) := by
  have hlook := hc.at_lines.looked
  match ls with
  | .directive (w :: ws) stop :: left =>
    exact builds_selectionLine_word k hhead hb before frames s hc
  | [] =>
    have hne : ∀ d, eof.kind ≠ .directive d := fun d => by simp [heof]
    rw [selectionLine, look_bind, hc.lead_eq, lead, if_neg (hne _), if_neg (hne _), if_neg (hne _),
      if_pos heof]
    exact .error hlook.sound (k.finish_eq _ _)
  | .text content pos :: left =>
    have hblank : Text.isBlank content = false := by simpa [isBlankText, lead] using hlead
    rw [Choice.draft, Draft.readAll_cons, k.add_eq, selectionLine, look_bind, hc.lead_eq]
    simp only [lead, reduceCtorEq, if_false, Selection.step, hblank, Bool.false_eq_true]
    exact builds_unexpected hc.looked rfl
  | .directive [] stop :: left =>
    rw [Choice.draft, Draft.readAll_cons, k.add_eq, selectionLine, look_bind, hc.lead_eq]
    simp only [lead, front, List.headD_nil, lineEnd, reduceCtorEq, if_false]
    exact builds_unexpected hc.looked rfl

theorem builds_nextBranch (heof : eof.kind = .endOfTemplate) (k : Choice Head)
    (hhead : ∀ stop ws, ws.length < limit + 1 → Follows stop least head ws (k.reader ws))
    (hb : ReadsBodies tokens eof limit bodies) (before : List Block) (frames : List Frame)
    (s : Selection Head) (hc : c.Before tokens eof (limit + 1) ls) :
    Builds tokens eof ls ((k.draft before frames s).readAll ls)
      (Sum.elim (k.draft before frames) (k.done before frames))
      (nextBranch bodies (limit + 1) k.opener k.word head s tokens c) := by
  have hskips := skips_skipBlankText heof k hc hc.room
  rw [nextBranch]
  generalize he : skipBlankText (limit + 1) tokens c = run at hskips
  cases hskips with
  | intro hd hs hlead hread =>
    rw [bind_of_ok he, Choice.draft, hread]
    exact (builds_selectionLine heof k hhead hb before frames s (hc.later hd hs) hlead).mono hs

theorem builds_branches (heof : eof.kind = .endOfTemplate) (k : Choice Head)
    (hhead : ∀ stop ws, ws.length < limit + 1 → Follows stop least head ws (k.reader ws))
    (hb : ReadsBodies tokens eof limit bodies) (before : List Block) (frames : List Frame)
    (pos : Position) (hc : c.Before tokens eof (limit + 1) ls) :
    Builds tokens eof ls ((k.draft before frames (.start pos [])).readAll ls)
      (k.done before frames) (branches bodies (limit + 1) k.opener k.word head pos tokens c) := by
  refine .routine .branches hc.at_lines ?_
  refine @rounds_end tokens eof _ _ .branches _ (limit + 1) (fun ls s run =>
    Builds tokens eof ls ((k.draft before frames s).readAll ls) (k.done before frames) run)
    (fun ls s c hc => ?_) _ ls _ c hc hc.room
  have hround := builds_nextBranch heof k hhead hb before frames s hc
  generalize nextBranch bodies (limit + 1) k.opener k.word head s tokens c = run at hround
  cases hround with
  | error hd hgoal => exact .fails (.error hd hgoal)
  | @ok x d left hd hs hless hgoal =>
    cases x with
    | inr s => exact .leaves (.ok hd hs hless hgoal)
    | inl s =>
      refine .goesOn hd hs hless fun run hrun => ?_
      rw [hgoal]
      exact hrun.mono hs

/-! ### Selections -/

variable {blocks : List Block} {frames : List Frame}

theorem builds_switch (heof : eof.kind = .endOfTemplate) (hb : ReadsBodies tokens eof limit bodies)
    (hc : c.Before tokens eof (limit + 1) (.directive (w :: ws) stop :: left))
    (hk : w.kind = .directive .switch) :
    BuildsBlock tokens eof (.directive (w :: ws) stop :: left) blocks frames
      (switch bodies (limit + 1) tokens c) := by
  refine .directive _ hc hk fun d hw hd => ?_
  refine .words hw hd (follows_operand (Nat.lt_of_succ_lt hc.words_lt)) (bind_assoc ..)
    fun subject rest d hw hd => ?_
  refine .endOfLine hw hd rfl fun d hd => ?_
  have hbranches := builds_branches heof (.switch subject) (fun stop ws hl => follows_literals hl)
    hb blocks frames w.pos (hc.later hd (List.suffix_cons _ _))
  refine .bind (hbranches.mono (List.suffix_cons _ _)) fun s d more hd hs hl => ?_
  exact .ok hd hs hl rfl

theorem builds_choose (heof : eof.kind = .endOfTemplate) (hb : ReadsBodies tokens eof limit bodies)
    (hc : c.Before tokens eof (limit + 1) (.directive (w :: ws) stop :: left))
    (hk : w.kind = .directive .choose) :
    BuildsBlock tokens eof (.directive (w :: ws) stop :: left) blocks frames
      (choose bodies (limit + 1) tokens c) := by
  refine .directive _ hc hk fun d hw hd => ?_
  refine .endOfLine hw hd (bind_assoc ..) fun d hd => ?_
  have hbranches := builds_branches heof .choose (fun stop ws hl => follows_expression hl) hb
    blocks frames w.pos (hc.later hd (List.suffix_cons _ _))
  refine .bind (hbranches.mono (List.suffix_cons _ _)) fun s d more hd hs hl => ?_
  exact .ok hd hs hl rfl

end Blocks

end Descent

end LineTemplate
