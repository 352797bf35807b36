import Mathlib
import LineTemplate.Proofs.Lines
import LineTemplate.Template

/-!
# Templates and the grammar

Blocks are read from a text exactly when the grammar derives the tokens of the text from them,
and a row of tokens is derived from no more than one list of blocks.

That what is read is derived is an invariant of drafts: `Draft.Holds` says that the tokens read so
far are those of the open blocks and of what stands in front of them. That what is derived is read
is an induction on the derivation, whose phrases are each read in any draft. Both go through the
lines that the tokens spell.
-/

namespace LineTemplate

/-! ### What is read is derived -/

/-- The tokens are those of what stands at the place. -/
inductive Place.Holds : Place → List Token → Prop
  | body {bs : List Block} {T : List Token} :
      (Phrase.blocks bs.reverse).Yields T → Holds (.body bs) T
  | inSwitch {subject : Operand} {s : Selection (List Literal)} {ts T L U : List Token} :
      (Phrase.blocks s.before.reverse).Yields T → subject.Yields ts →
      Directive.switch.Yields s.pos ts L →
      (Phrase.cases s.branches.reverse s.default).Yields U →
      Holds (.inSwitch subject s) (T ++ L ++ U)
  | inChoose {s : Selection Expr} {T L U : List Token} :
      (Phrase.blocks s.before.reverse).Yields T → Directive.choose.Yields s.pos [] L →
      (Phrase.whens s.branches.reverse s.default).Yields U →
      Holds (.inChoose s) (T ++ L ++ U)

/-- The tokens are those in front of the open body, down to the blocks in front of its block. -/
inductive Frame.Holds : Frame → List Token → Prop
  | consequence {test : Expr} {pos : Position} {before : List Block} {ts T L : List Token} :
      Place.Holds (.body before) T → test.Yields .disjunction ts →
      Directive.condition.Yields pos ts L →
      Holds (.block (.consequence test) pos before) (T ++ L)
  | alternative {test : Expr} {body before : List Block} {pos mid : Position}
      {ts T L U M : List Token} :
      Place.Holds (.body before) T → test.Yields .disjunction ts →
      Directive.condition.Yields pos ts L → (Phrase.blocks body).Yields U →
      Directive.otherwise.Yields mid [] M →
      Holds (.block (.alternative test body) pos before) (T ++ L ++ U ++ M)
  | loop {header : Loop} {pos : Position} {before : List Block} {ts T L : List Token} :
      Place.Holds (.body before) T → header.Yields ts → Directive.loop.Yields pos ts L →
      Holds (.block (.loop header) pos before) (T ++ L)
  | guard {test : Expr} {pos : Position} {before : List Block} {ts T L : List Token} :
      Place.Holds (.body before) T → test.Yields .disjunction ts →
      Directive.guard.Yields pos ts L →
      Holds (.block (.guard test) pos before) (T ++ L)
  | case {subject : Operand} {s : Selection (List Literal)} {values : List Literal}
      {pos : Position} {ts T L : List Token} :
      Place.Holds (.inSwitch subject s) T → Literal.YieldsList values ts →
      Directive.case.Yields pos ts L →
      Holds (.switchBranch subject s (some values) pos) (T ++ L)
  | casesDefault {subject : Operand} {s : Selection (List Literal)} {pos : Position}
      {T L : List Token} :
      Place.Holds (.inSwitch subject s) T → s.default = none →
      Directive.default.Yields pos [] L →
      Holds (.switchBranch subject s none pos) (T ++ L)
  | when {s : Selection Expr} {test : Expr} {pos : Position} {ts T L : List Token} :
      Place.Holds (.inChoose s) T → test.Yields .disjunction ts →
      Directive.when.Yields pos ts L → Holds (.chooseBranch s (some test) pos) (T ++ L)
  | whensDefault {s : Selection Expr} {pos : Position} {T L : List Token} :
      Place.Holds (.inChoose s) T → s.default = none → Directive.default.Yields pos [] L →
      Holds (.chooseBranch s none pos) (T ++ L)

/-- The tokens are those of all open blocks, down to the innermost body. -/
inductive Frame.AllHold : List Frame → List Token → Prop
  | nil : AllHold [] []
  | cons {f : Frame} {fs : List Frame} {T U : List Token} :
      AllHold fs T → f.Holds U → AllHold (f :: fs) (T ++ U)

/-- The tokens are those that have been read. -/
inductive Draft.Holds : Draft → List Token → Prop
  | mk {place : Place} {fs : List Frame} {T U : List Token} :
      Frame.AllHold fs T → place.Holds U → Holds ⟨place, fs⟩ (T ++ U)

namespace Place

theorem Holds.switch {subject : Operand} {before : List Block} {pos : Position}
    {ts T L : List Token} (h : Holds (.body before) T) (hs : subject.Yields ts)
    (hl : Directive.switch.Yields pos ts L) :
    Holds (.inSwitch subject (.start pos before)) (T ++ L) := by
  cases h with
  | body hb =>
    have h := @Holds.inSwitch subject (.start pos before) _ _ _ _ hb hs hl .noCases
    rw [List.append_nil] at h
    exact h

theorem Holds.choose {before : List Block} {pos : Position} {T L : List Token}
    (h : Holds (.body before) T) (hl : Directive.choose.Yields pos [] L) :
    Holds (.inChoose (.start pos before)) (T ++ L) := by
  cases h with
  | body hb =>
    have h := @Holds.inChoose (.start pos before) _ _ _ hb hl .noWhens
    rw [List.append_nil] at h
    exact h

theorem Holds.snoc {bs : List Block} {b : Block} {T U : List Token}
    (h : Holds (.body bs) T) (hb : (Phrase.block b).Yields U) :
    Holds (.body (b :: bs)) (T ++ U) := by
  cases h with
  | body h =>
    refine .body ?_
    rw [List.reverse_cons]
    exact .snoc h hb

/-- The first line of the block stands behind the blocks in front, and its body and its last line
stand behind that. -/
theorem Holds.around {before : List Block} {b : Block} {T L U M : List Token}
    (h : Holds (.body before) T) (hb : (Phrase.block b).Yields (L ++ U ++ M)) :
    Holds (.body (b :: before)) (T ++ L ++ (U ++ M)) := by
  have hmore := h.snoc hb
  rw [List.append_assoc L, ← List.append_assoc T] at hmore
  exact hmore

theorem Holds.blocks {bs : List Block} {T : List Token} (h : Holds (.body bs) T) :
    (Phrase.blocks bs.reverse).Yields T := by
  cases h with
  | body hb => exact hb

end Place

namespace Draft

theorem Holds.opens {f : Frame} {fs : List Frame} {T U : List Token} (hfs : Frame.AllHold fs T)
    (hf : f.Holds U) : Holds ⟨.body [], f :: fs⟩ (T ++ U) := by
  have h := Holds.mk (.cons hfs hf) (@Place.Holds.body [] [] .nil)
  rw [List.append_nil] at h
  exact h

/-- A frame is closed: what comes of it stands where the frame stood. -/
theorem Holds.closes {f : Frame} {fs : List Frame} {place : Place} {T U : List Token}
    (hfs : Frame.AllHold (f :: fs) T) (h : ∀ W, f.Holds W → place.Holds (W ++ U)) :
    Holds ⟨place, fs⟩ (T ++ U) := by
  cases hfs with
  | cons hfs hf =>
    rw [List.append_assoc]
    exact .mk hfs (h _ hf)

theorem holds_endCase {subject : Operand} {s : Selection (List Literal)}
    {head : Option (List Literal)} {pos stop : Position} {bs : List Block} {T U M : List Token}
    (hf : (Frame.switchBranch subject s head pos).Holds T) (hb : Place.Holds (.body bs) U)
    (hm : Directive.endBranch.Yields stop [] M) :
    Place.Holds (.inSwitch subject (s.close head pos bs.reverse)) (T ++ U ++ M) := by
  cases hf with
  | @case _ _ values _ ts T L hs hv hl =>
    cases hs with
    | @inSwitch _ _ us A B C hbefore hsubject hopen hcases =>
      have hnext := Phrase.Yields.case hcases hv hl hb.blocks hm
      rw [← List.reverse_cons] at hnext
      have h := @Place.Holds.inSwitch subject (s.close (some values) pos bs.reverse) _ _ _ _
        hbefore hsubject hopen hnext
      simp only [List.append_assoc] at h ⊢
      exact h
  | @casesDefault _ _ _ T L hs hfree hl =>
    cases hs with
    | @inSwitch _ _ us A B C hbefore hsubject hopen hcases =>
      rw [hfree] at hcases
      have hnext := Phrase.Yields.casesDefault hcases hl hb.blocks hm
      have h := @Place.Holds.inSwitch subject (s.close none pos bs.reverse) _ _ _ _
        hbefore hsubject hopen hnext
      simp only [List.append_assoc] at h ⊢
      exact h

theorem holds_endWhen {s : Selection Expr} {head : Option Expr} {pos stop : Position}
    {bs : List Block} {T U M : List Token} (hf : (Frame.chooseBranch s head pos).Holds T)
    (hb : Place.Holds (.body bs) U) (hm : Directive.endBranch.Yields stop [] M) :
    Place.Holds (.inChoose (s.close head pos bs.reverse)) (T ++ U ++ M) := by
  cases hf with
  | @when _ test _ ts T L hs ht hl =>
    cases hs with
    | @inChoose _ A B C hbefore hopen hwhens =>
      have hnext := Phrase.Yields.when hwhens ht hl hb.blocks hm
      rw [← List.reverse_cons] at hnext
      have h := @Place.Holds.inChoose (s.close (some test) pos bs.reverse) _ _ _
        hbefore hopen hnext
      simp only [List.append_assoc] at h ⊢
      exact h
  | @whensDefault _ _ T L hs hfree hl =>
    cases hs with
    | @inChoose _ A B C hbefore hopen hwhens =>
      rw [hfree] at hwhens
      have hnext := Phrase.Yields.whensDefault hwhens hl hb.blocks hm
      have h := @Place.Holds.inChoose (s.close none pos bs.reverse) _ _ _ hbefore hopen hnext
      simp only [List.append_assoc] at h ⊢
      exact h

theorem Holds.step {draft next : Draft} {line : Line} {T : List Token}
    (h : draft.Holds T) (hs : draft.Adds line next) : next.Holds (T ++ line.tokens) := by
  -- A line that opens a block adds a frame, one that closes a block moves the tokens of the frame
  -- and the body to the blocks in front. The tokens stay in their order throughout.
  cases h with
  | @mk place fs T U hfs hplace =>
  rw [List.append_assoc]
  cases hs with
  | text => exact .mk hfs (hplace.snoc (@Phrase.Yields.text ⟨.text, _, _⟩ rfl))
  | condition hl ht => exact .opens hfs (.consequence hplace ht hl.tokens)
  | switch hl hs => exact .mk hfs (hplace.switch hs hl.tokens)
  | choose hl => exact .mk hfs (hplace.choose hl.tokens)
  | loop hl hh => exact .opens hfs (.loop hplace hh hl.tokens)
  | guard hl ht => exact .opens hfs (.guard hplace ht hl.tokens)
  | check hl hc => exact .mk hfs (hplace.snoc (.check hc hl.tokens))
  | define hl hd => exact .mk hfs (hplace.snoc (.define hd hl.tokens))
  | otherwise hl =>
    cases hfs with
    | cons hfs hf =>
      cases hf with
      | consequence hbefore ht hopen =>
        have h := Holds.opens hfs (.alternative hbefore ht hopen hplace.blocks hl.tokens)
        simp only [List.append_assoc] at h ⊢
        exact h
  | endConsequence hl =>
    refine .closes hfs fun W hf => ?_
    cases hf with
    | consequence hbefore ht hopen =>
      exact hbefore.around (.condition ht hopen hplace.blocks hl.tokens)
  | endAlternative hl =>
    refine .closes hfs fun W hf => ?_
    cases hf with
    | alternative hbefore ht hopen hbody hmid =>
      have h := hbefore.snoc (.alternative ht hopen hbody hmid hplace.blocks hl.tokens)
      simp only [List.append_assoc] at h ⊢
      exact h
  | endLoop hl =>
    refine .closes hfs fun W hf => ?_
    cases hf with
    | loop hbefore hh hopen => exact hbefore.around (.loop hh hopen hplace.blocks hl.tokens)
  | endGuard hl hm =>
    refine .closes hfs fun W hf => ?_
    cases hf with
    | guard hbefore ht hopen =>
      exact hbefore.around (.guard ht hopen hplace.blocks hm hl.tokens)
  | endCase hl =>
    refine .closes hfs fun W hf => ?_
    rw [← List.append_assoc]
    exact holds_endCase hf hplace hl.tokens
  | endWhen hl =>
    refine .closes hfs fun W hf => ?_
    rw [← List.append_assoc]
    exact holds_endWhen hf hplace hl.tokens
  | betweenCases hs =>
    cases hs with
    | @skip content pos hb =>
      cases hplace with
      | inSwitch hbefore hsubject hopen hcases =>
        have hnext := hcases.casesBlank (t := ⟨.text, content, pos⟩) rfl hb
        have h := Holds.mk hfs (.inSwitch hbefore hsubject hopen hnext)
        simp only [List.append_assoc] at h ⊢
        exact h
  | case hs =>
    cases hs with
    | branch hl hv => exact .opens hfs (.case hplace hv hl.tokens)
    | default hl hfree => exact .opens hfs (.casesDefault hplace hfree hl.tokens)
  | endSwitch hs =>
    cases hs with
    | done hl =>
      cases hplace with
      | inSwitch hbefore hsubject hopen hcases =>
        have hblock := Phrase.Yields.switch hsubject hopen hcases hl.tokens
        rw [List.append_assoc (_ ++ _)]
        exact .mk hfs ((Place.Holds.body hbefore).around hblock)
  | betweenWhens hs =>
    cases hs with
    | @skip content pos hb =>
      cases hplace with
      | inChoose hbefore hopen hwhens =>
        have hnext := hwhens.whensBlank (t := ⟨.text, content, pos⟩) rfl hb
        have h := Holds.mk hfs (.inChoose hbefore hopen hnext)
        simp only [List.append_assoc] at h ⊢
        exact h
  | when hs =>
    cases hs with
    | branch hl ht => exact .opens hfs (.when hplace ht hl.tokens)
    | default hl hfree => exact .opens hfs (.whensDefault hplace hfree hl.tokens)
  | endChoose hs =>
    cases hs with
    | done hl =>
      cases hplace with
      | inChoose hbefore hopen hwhens =>
        have hblock := Phrase.Yields.choose hopen hwhens hl.tokens
        rw [List.append_assoc (_ ++ _)]
        exact .mk hfs ((Place.Holds.body hbefore).around hblock)

theorem Holds.addAll {draft next : Draft} {ls : List Line} {T : List Token}
    (h : draft.Holds T) (hs : draft.addAll ls = .ok next) :
    next.Holds (T ++ ls.flatMap Line.tokens) := by
  induction ls generalizing draft T with
  | nil =>
    cases hs
    rw [List.flatMap_nil, List.append_nil]
    exact h
  | cons line more ih =>
    rw [Draft.addAll] at hs
    split at hs
    · next mid hmid =>
      have hn := ih (h.step (add_eq_ok.1 hmid)) hs
      rw [List.append_assoc, ← List.flatMap_cons] at hn
      exact hn
    · cases hs

theorem yields_of_finish {draft : Draft} {bs : List Block} {T : List Token} (h : draft.Holds T)
    (hf : draft.finish = .ok bs) : (Phrase.blocks bs).Yields T := by
  cases h with
  | @mk place fs T U hfs hplace =>
  cases place with
  | body blocks =>
    cases fs with
    | nil =>
      cases hf
      cases hfs
      exact hplace.blocks
    | cons f fs => cases hf
  | inSwitch subject s => cases hf
  | inChoose s => cases hf

end Draft

/-! ### What is derived is read -/

namespace Draft

/-- Lines with these tokens make the second draft of the first one. -/
def Reads (T : List Token) (draft next : Draft) : Prop :=
  ∃ ls, Line.Spelled ls T ∧ draft.addAll ls = .ok next

variable {draft middle next : Draft} {T U L : List Token}

theorem Reads.refl (draft : Draft) : Reads [] draft draft := ⟨[], .nil, rfl⟩

theorem Reads.trans (h : Reads T draft middle) (h' : Reads U middle next) :
    Reads (T ++ U) draft next := by
  obtain ⟨ls, hls, hadd⟩ := h
  obtain ⟨ms, hms, hadd'⟩ := h'
  exact ⟨ls ++ ms, hls.append hms, (addAll_of_eq_ok hadd).trans hadd'⟩

theorem Reads.text {t : Token} (hk : t.kind = .text)
    (h : draft.Adds (.text t.literal t.pos) next) : Reads [t] draft next :=
  ⟨[.text t.literal t.pos], .text hk .nil, addAll_of_adds h⟩

theorem Reads.line {d : Directive} {pos : Position} {ts : List Token} (hl : d.Yields pos ts L)
    (hw : Token.AllWords ts) (h : ∀ line, line.Says d pos ts → draft.Adds line next) :
    Reads L draft next := by
  obtain ⟨line, hline, hsays⟩ := Line.exists_of_yields hl hw
  exact ⟨[line], hline, addAll_of_adds (h line hsays)⟩

end Draft

namespace Phrase
open Draft (Reads)

/-- The tokens add the phrase to any draft that it fits into; branches fit where a selection
begins. -/
def AddedBy (T : List Token) : Phrase → Prop
  | .block b => ∀ bs fs, Reads T ⟨.body bs, fs⟩ ⟨.body (b :: bs), fs⟩
  | .blocks more => ∀ bs fs, Reads T ⟨.body bs, fs⟩ ⟨.body (more.reverse ++ bs), fs⟩
  | .cases cs default => ∀ subject pos before fs,
    Reads T ⟨.inSwitch subject (.start pos before), fs⟩
      ⟨.inSwitch subject ⟨cs.reverse, default, pos, before⟩, fs⟩
  | .whens ws default => ∀ pos before fs,
    Reads T ⟨.inChoose (.start pos before), fs⟩
      ⟨.inChoose ⟨ws.reverse, default, pos, before⟩, fs⟩

variable {inside : List Block} {frame : Frame} {fs : List Frame} {draft next : Draft}
  {pos stop : Position} {T L U M : List Token}

theorem AddedBy.body {more : List Block} (h : (blocks more).AddedBy T) (fs : List Frame) :
    Reads T ⟨.body [], fs⟩ ⟨.body more.reverse, fs⟩ := by
  have hb := h [] fs
  rw [List.append_nil] at hb
  exact hb

/-- A body between two lines: the first line opens a frame, and the last one closes it. -/
theorem AddedBy.around (h : (blocks inside).AddedBy T)
    (hopen : Reads L draft ⟨.body [], frame :: fs⟩)
    (hclose : ∀ bs, bs.reverse = inside → Reads M ⟨.body bs, frame :: fs⟩ next) :
    Reads (L ++ T ++ M) draft next :=
  (hopen.trans (h.body _)).trans (hclose _ (List.reverse_reverse inside))

/-- Behind other branches of a switch a branch is closed, with a head or without one. -/
theorem AddedBy.case {cs : List (Branch (List Literal) Block)} {default : Option (List Block)}
    {head : Option (List Literal)} (h : (cases cs default).AddedBy T)
    (hbody : (blocks inside).AddedBy U) (he : Directive.endBranch.Yields stop [] M)
    {subject : Operand} {start : Position} {before : List Block} (fs : List Frame)
    (hopen : ∀ s : Selection (List Literal), s.default = default → Reads L
      ⟨.inSwitch subject s, fs⟩ ⟨.body [], .switchBranch subject s head pos :: fs⟩) :
    Reads (T ++ (L ++ U ++ M)) ⟨.inSwitch subject (.start start before), fs⟩
      ⟨.inSwitch subject (Selection.close ⟨cs.reverse, default, start, before⟩ head pos inside),
        fs⟩ := by
  refine (h subject start before fs).trans (hbody.around (hopen _ rfl) ?_)
  rintro bs rfl
  exact .line he Token.allWords_nil fun _ hend => .endCase hend

/-- So it is behind other branches of a choice. -/
theorem AddedBy.when {ws : List (Branch Expr Block)} {default : Option (List Block)}
    {head : Option Expr} (h : (whens ws default).AddedBy T) (hbody : (blocks inside).AddedBy U)
    (he : Directive.endBranch.Yields stop [] M) {start : Position} {before : List Block}
    (fs : List Frame)
    (hopen : ∀ s : Selection Expr, s.default = default → Reads L ⟨.inChoose s, fs⟩
      ⟨.body [], .chooseBranch s head pos :: fs⟩) :
    Reads (T ++ (L ++ U ++ M)) ⟨.inChoose (.start start before), fs⟩
      ⟨.inChoose (Selection.close ⟨ws.reverse, default, start, before⟩ head pos inside), fs⟩ := by
  refine (h start before fs).trans (hbody.around (hopen _ rfl) ?_)
  rintro bs rfl
  exact .line he Token.allWords_nil fun _ hend => .endWhen hend

theorem Yields.addedBy {phrase : Phrase} (h : phrase.Yields T) : phrase.AddedBy T := by
  -- Induction on the derivation. A body is read from an empty one inside its new frame, the
  -- branches of a selection from its start.
  induction h with
  | text hk => exact fun bs fs => .text hk .text
  | condition ht hl _ he ih =>
    intro bs fs
    refine ih.around (.line hl ht.inner.words fun _ h => .condition h ht) ?_
    rintro bs rfl
    exact .line he Token.allWords_nil fun _ h => .endConsequence h
  | @alternative test body _ pos _ _ _ L V M _ _ ht hl _ hm _ he ih ihMore =>
    intro bs fs
    have hfirst : Reads (L ++ V ++ M) ⟨.body bs, fs⟩
        ⟨.body [], .block (.alternative test body) pos bs :: fs⟩ := by
      refine ih.around (.line hl ht.inner.words fun _ h => .condition h ht) ?_
      rintro bs rfl
      exact .line hm Token.allWords_nil fun _ h => .otherwise h
    refine ihMore.around hfirst ?_
    rintro bs rfl
    exact .line he Token.allWords_nil fun _ h => .endAlternative h
  | @switch subject cs default pos _ _ L _ _ hs hl _ he ih =>
    intro bs fs
    have hopen : Reads L ⟨.body bs, fs⟩ ⟨.inSwitch subject (.start pos bs), fs⟩ :=
      .line hl hs.inner.words fun _ h => .switch h hs
    refine (hopen.trans (ih subject pos bs fs)).trans ?_
    refine .line he Token.allWords_nil fun last h => ?_
    have hend := @Draft.Adds.endSwitch fs last subject ⟨cs.reverse, default, pos, bs⟩ (.done h)
    rw [List.reverse_reverse] at hend
    exact hend
  | @choose ws default pos _ L _ _ hl _ he ih =>
    intro bs fs
    have hopen : Reads L ⟨.body bs, fs⟩ ⟨.inChoose (.start pos bs), fs⟩ :=
      .line hl Token.allWords_nil fun _ h => .choose h
    refine (hopen.trans (ih pos bs fs)).trans ?_
    refine .line he Token.allWords_nil fun last h => ?_
    have hend := @Draft.Adds.endChoose fs last ⟨ws.reverse, default, pos, bs⟩ (.done h)
    rw [List.reverse_reverse] at hend
    exact hend
  | loop hh hl _ he ih =>
    intro bs fs
    refine ih.around (.line hl hh.inner.words fun _ h => .loop h hh) ?_
    rintro bs rfl
    exact .line he Token.allWords_nil fun _ h => .endLoop h
  | guard ht hl _ hm he ih =>
    intro bs fs
    refine ih.around (.line hl ht.inner.words fun _ h => .guard h ht) ?_
    rintro bs rfl
    exact .line he hm.inner.words fun _ h => .endGuard h hm
  | check hc hl => exact fun bs fs => .line hl hc.inner.words fun _ h => .check h hc
  | define hd hl => exact fun bs fs => .line hl hd.inner.words fun _ h => .define h hd
  | nil => exact fun bs fs => .refl _
  | snoc _ _ ih ih' =>
    intro bs fs
    rw [List.reverse_append]
    exact (ih bs fs).trans (ih' _ fs)
  | noCases => exact fun subject pos before fs => .refl _
  | casesBlank _ hk hb ih =>
    exact fun subject pos before fs =>
      (ih subject pos before fs).trans (.text hk (.betweenCases (.skip hb)))
  | case _ hv hl _ he ih ihBody =>
    intro subject start before fs
    rw [List.reverse_append]
    exact ih.case ihBody he fs fun s _ =>
      .line hl hv.inner.words fun _ h => .case (.branch h hv)
  | casesDefault _ hl _ he ih ihBody =>
    exact fun subject start before fs => ih.case ihBody he fs fun s hs =>
      .line hl Token.allWords_nil fun _ h => .case (.default h hs)
  | noWhens => exact fun pos before fs => .refl _
  | whensBlank _ hk hb ih =>
    exact fun pos before fs => (ih pos before fs).trans (.text hk (.betweenWhens (.skip hb)))
  | when _ ht hl _ he ih ihBody =>
    intro start before fs
    rw [List.reverse_append]
    exact ih.when ihBody he fs fun s _ => .line hl ht.inner.words fun _ h => .when (.branch h ht)
  | whensDefault _ hl _ he ih ihBody =>
    exact fun start before fs => ih.when ihBody he fs fun s hs =>
      .line hl Token.allWords_nil fun _ h => .when (.default h hs)

end Phrase

/-! ### Reading a text -/

namespace Block

/-- Lines spell only tokens that the grammar derives from the blocks that are read from them. -/
theorem ofLines_eq_ok {ls : List Line} {bs : List Block} {T : List Token}
    (hs : Line.Spelled ls T) (hw : ls.flatMap Line.tokens = T) :
    ofLines ls = .ok bs ↔ (Phrase.blocks bs).Yields T := by
  constructor
  · intro h
    unfold ofLines at h
    split at h
    · next draft hd =>
      have hempty := @Draft.Holds.mk _ _ _ _ .nil (@Place.Holds.body [] [] .nil)
      have hT := hempty.addAll hd
      simp only [List.nil_append, hw] at hT
      exact Draft.yields_of_finish hT h
    · cases h
  · intro h
    obtain ⟨ms, hms, hadd⟩ := h.addedBy.body []
    rw [hs.unique hms]
    simp only [ofLines, Draft.empty, hadd, Draft.finish, List.reverse_reverse]

end Block

/-- The blocks of a template yield the tokens of its lines. -/
theorem Template.yields_of_ofText {text : String} {t : Template} (h : ofText text = .ok t) :
    (Phrase.blocks t.blocks).Yields ((Line.ofText text).flatMap Line.tokens) :=
  (Block.ofLines_eq_ok (Line.spelled_tokens (Line.wordy_ofCut 0 _)) rfl).1 (eq_of_ofText h).1

theorem Phrase.Yields.unique {bs cs : List Block} {T : List Token}
    (h : (Phrase.blocks bs).Yields T) (h' : (Phrase.blocks cs).Yields T) : bs = cs := by
  obtain ⟨ls, hls, hadd⟩ := h.addedBy.body []
  obtain ⟨ms, hms, hadd'⟩ := h'.addedBy.body []
  rw [← hls.unique hms, hadd] at hadd'
  simp only [Except.ok.injEq, Draft.mk.injEq, Place.body.injEq, and_true] at hadd'
  exact List.reverse_inj.1 hadd'

theorem Template.Yields.unique {bs cs : List Block} {T : List Token}
    (h : Template.Yields bs T) (h' : Template.Yields cs T) : bs = cs := by
  generalize hU : T = U at h'
  cases h with
  | mk hb _ =>
    cases h' with
    | mk hc _ =>
      obtain ⟨rfl, -⟩ := List.append_inj' hU rfl
      exact hb.unique hc

/-- Blocks are read from a text exactly when the grammar derives the tokens of the text from
them, and no tokens at all are derived from two lists of blocks. -/
theorem Block.ofText_eq_ok_iff_yields :
    (∀ (text : String) (bs : List Block),
      Block.ofText text = .ok bs ↔ Template.Yields bs (Token.tokenize text)) ∧
    ∀ (T : List Token) (bs cs : List Block),
      Template.Yields bs T → Template.Yields cs T → bs = cs := by
  refine ⟨fun text bs => ?_, fun T bs cs => Template.Yields.unique⟩
  have hspell := Line.spelled_tokens (Line.wordy_ofCut 0 (Text.cutLines text.toList))
  constructor
  · intro h
    exact .mk ((Block.ofLines_eq_ok hspell rfl).1 h) rfl
  · intro h
    generalize hT : Token.tokenize text = T at h
    cases h with
    | mk hb _ =>
      obtain ⟨rfl, -⟩ := List.append_inj' hT rfl
      exact (Block.ofLines_eq_ok hspell rfl).2 hb

theorem Block.yields_of_condition_text :
    Template.Yields
        [.condition (.operand ⟨.variable ⟨"a", []⟩, [], ⟨0, 4⟩⟩) [.text " yes" ⟨1, 0⟩] none ⟨0, 0⟩]
        (Token.tokenize "#if :a\n yes\n#fi") ∧
      ¬ Template.Yields [] (Token.tokenize "#if :a\n yes\n#fi") := by
  have h := (Block.ofText_eq_ok_iff_yields.1 "#if :a\n yes\n#fi"
    [.condition (.operand ⟨.variable ⟨"a", []⟩, [], ⟨0, 4⟩⟩) [.text " yes" ⟨1, 0⟩] none
      ⟨0, 0⟩]).1 (by cbv)
  refine ⟨h, fun hnil => ?_⟩
  have he := Block.ofText_eq_ok_iff_yields.2 _ _ _ h hnil
  cases he

end LineTemplate
