import Mathlib
import LineTemplate.Proofs.Blame
import LineTemplate.Proofs.Lines
import LineTemplate.Template

/-!
# Syntax errors

A text that cannot be read either ends inside a block, and then lines that close the open blocks
make it one that can be read, or has a line that makes sense in no continuation, whatever stands
behind it.
-/

namespace LineTemplate

/-! ### Open lines -/

namespace Directive

def opens : Directive → Bool
  | .condition | .switch | .case | .default | .choose | .when | .loop | .guard => true
  | _ => false

/-- The directives that end a block or a branch. -/
def closers : List Directive := [.endCondition, .endBranch, .endSelection, .endLoop, .endGuard]

end Directive

namespace Line

def directive? : Line → Option (Directive × Position)
  | .directive (w :: _) _ =>
    match w.kind with
    | .directive d => some (d, w.pos)
    | _ => none
  | _ => none

/-- The open lines behind one more line, innermost first. -/
def nowOpen (outer : List (Directive × Position)) (line : Line) : List (Directive × Position) :=
  match line.directive? with
  | some (d, pos) =>
    if d.opens then (d, pos) :: outer
    else if d ∈ Directive.closers then outer.tail
    else outer
  | none => outer

/-- The lines that open a block or a branch and are not closed again, innermost first. -/
def stillOpen (ls : List Line) : List (Directive × Position) := ls.foldl nowOpen []

theorem Says.directive? {line : Line} {d : Directive} {pos : Position} {ts : List Token}
    (h : line.Says d pos ts) : line.directive? = some (d, pos) := by
  cases h with
  | mk hk hp => simp only [Line.directive?, hk, hp]

theorem Says.nowOpen {line : Line} {d : Directive} {pos : Position} {ts : List Token}
    (h : line.Says d pos ts) (outer : List (Directive × Position)) :
    Line.nowOpen outer line =
      if d.opens then (d, pos) :: outer
      else if d ∈ Directive.closers then outer.tail
      else outer := by
  simp only [Line.nowOpen, h.directive?]

end Line

def Frame.opened : Frame → List (Directive × Position)
  | .block opening pos _ => [(opening.words.1, pos)]
  | .switchBranch _ s head pos =>
    [(if head.isSome then .case else .default, pos), (.switch, s.pos)]
  | .chooseBranch s head pos =>
    [(if head.isSome then .when else .default, pos), (.choose, s.pos)]

def Place.opened : Place → List (Directive × Position)
  | .body _ => []
  | .inSwitch _ s => [(.switch, s.pos)]
  | .inChoose s => [(.choose, s.pos)]

namespace Draft

/-- The open lines of a draft, innermost first. -/
def opened (draft : Draft) : List (Directive × Position) :=
  draft.place.opened ++ draft.frames.flatMap Frame.opened

theorem Adds.opened {draft next : Draft} {line : Line} (h : draft.Adds line next) :
    next.opened = Line.nowOpen draft.opened line := by
  cases h with
  | text => rfl
  | condition hl _ => rw [hl.nowOpen]; rfl
  | switch hl _ => rw [hl.nowOpen]; rfl
  | choose hl => rw [hl.nowOpen]; rfl
  | loop hl _ => rw [hl.nowOpen]; rfl
  | guard hl _ => rw [hl.nowOpen]; rfl
  | check hl _ => rw [hl.nowOpen]; rfl
  | define hl _ => rw [hl.nowOpen]; rfl
  | otherwise hl => rw [hl.nowOpen]; rfl
  | endConsequence hl => rw [hl.nowOpen]; rfl
  | endAlternative hl => rw [hl.nowOpen]; rfl
  | endLoop hl => rw [hl.nowOpen]; rfl
  | endGuard hl _ => rw [hl.nowOpen]; rfl
  | @endCase bs fs line pos stop subject s head hl =>
    rw [hl.nowOpen]
    cases head <;> rfl
  | @endWhen bs fs line pos stop s head hl =>
    rw [hl.nowOpen]
    cases head <;> rfl
  | betweenCases hs | betweenWhens hs =>
    cases hs with
    | skip => rfl
  | case hs | when hs =>
    cases hs with
    | branch hl _ => rw [hl.nowOpen]; rfl
    | default hl _ => rw [hl.nowOpen]; rfl
  | endSwitch hs | endChoose hs =>
    cases hs with
    | done hl => rw [hl.nowOpen]; rfl

theorem addAll_opened {draft next : Draft} {ls : List Line} (h : draft.addAll ls = .ok next) :
    next.opened = ls.foldl Line.nowOpen draft.opened := by
  induction ls generalizing draft with
  | nil =>
    cases h
    rfl
  | cons line more ih =>
    rw [addAll] at h
    split at h
    · next mid hmid =>
      rw [ih h, (add_eq_ok.1 hmid).opened]
      rfl
    · cases h

/-- What is not complete ends in its innermost open line. -/
theorem finish_eq_error {draft : Draft} {e : SyntaxError} (h : draft.finish = .error e) :
    ∃ opener closers, e.fault = .unterminated opener closers ∧
      draft.opened.head? = some (opener, e.pos) := by
  obtain ⟨place, fs⟩ := draft
  cases place with
  | inSwitch subject s =>
    cases h
    exact ⟨_, _, rfl, rfl⟩
  | inChoose s =>
    cases h
    exact ⟨_, _, rfl, rfl⟩
  | body bs =>
    cases fs with
    | nil => cases h
    | cons f fs =>
      cases h
      cases f with
      | block opening pos before => exact ⟨_, _, rfl, rfl⟩
      | switchBranch subject s head pos => exact ⟨_, _, rfl, rfl⟩
      | chooseBranch s head pos => exact ⟨_, _, rfl, rfl⟩

end Draft

/-! ### Closing what is open -/

/-- The directives that close a frame, innermost first. -/
def Frame.closers : Frame → List Directive
  | .block (.consequence _) _ _ => [.endCondition]
  | .block (.alternative _ _) _ _ => [.endCondition]
  | .block (.loop _) _ _ => [.endLoop]
  | .block (.guard _) _ _ => [.endGuard]
  | .switchBranch _ _ _ _ => [.endBranch, .endSelection]
  | .chooseBranch _ _ _ => [.endBranch, .endSelection]

theorem Frame.closers_subset (f : Frame) : f.closers ⊆ Directive.closers := by
  cases f with
  | block opening pos before => cases opening <;> simp [closers, Directive.closers]
  | switchBranch subject s head pos => simp [closers, Directive.closers]
  | chooseBranch s head pos => simp [closers, Directive.closers]

def Place.closers : Place → List Directive
  | .body _ => []
  | .inSwitch _ _ => [.endSelection]
  | .inChoose _ => [.endSelection]

/-- The directives that close all that is open in a draft. -/
def Draft.closers (draft : Draft) : List Directive :=
  draft.place.closers ++ draft.frames.flatMap Frame.closers

/-- The lines with the numbers from `n` on that hold these directives alone. -/
def Line.ofDirectives (n : Nat) (ds : List Directive) : List Line :=
  Line.ofCut n (ds.map fun d => d.text.toList)

namespace Line

theorem ofChars_closer {d : Directive} (h : d ∈ Directive.closers) (n : Nat) :
    ofChars n d.text.toList =
      .directive [⟨.directive d, d.text, ⟨n, 0⟩⟩] ⟨n, d.text.toList.length⟩ := by
  simp only [Directive.closers, List.mem_cons, List.not_mem_nil, or_false] at h
  rcases h with rfl | rfl | rfl | rfl | rfl <;> cbv

theorem says_closer {d : Directive} (h : d ∈ Directive.closers) (n : Nat) :
    (ofChars n d.text.toList).Says d ⟨n, 0⟩ [] := by
  rw [ofChars_closer h n]
  exact .mk rfl rfl

end Line

namespace Draft

theorem addAll_closer {draft next : Draft} {d : Directive} {n : Nat} {ds : List Directive}
    (h : ∀ line, line.Says d ⟨n, 0⟩ [] → draft.Adds line next) (hd : d ∈ Directive.closers) :
    draft.addAll (Line.ofDirectives n (d :: ds)) = next.addAll (Line.ofDirectives (n + 1) ds) :=
  addAll_of_adds (h _ (Line.says_closer hd n))

theorem addAll_closers_frames (fs : List Frame) (n : Nat) (bs : List Block) :
    ∃ all, addAll ⟨.body bs, fs⟩ (Line.ofDirectives n (fs.flatMap Frame.closers)) =
      .ok ⟨.body all, []⟩ := by
  induction fs generalizing n bs with
  | nil => exact ⟨bs, rfl⟩
  | cons f fs ih =>
    rw [List.flatMap_cons]
    cases f with
    | block opening pos before =>
      cases opening with
      | consequence test =>
        rw [Frame.closers, List.singleton_append,
          addAll_closer (fun _ => .endConsequence) (by decide)]
        exact ih _ _
      | alternative test body =>
        rw [Frame.closers, List.singleton_append,
          addAll_closer (fun _ => .endAlternative) (by decide)]
        exact ih _ _
      | loop header =>
        rw [Frame.closers, List.singleton_append,
          addAll_closer (fun _ => .endLoop) (by decide)]
        exact ih _ _
      | guard test =>
        rw [Frame.closers, List.singleton_append,
          addAll_closer (fun _ hl => .endGuard hl .none) (by decide)]
        exact ih _ _
    | switchBranch subject s head pos =>
      rw [Frame.closers, List.cons_append, List.singleton_append,
        addAll_closer (fun _ => .endCase) (by decide),
        addAll_closer (fun _ hl => .endSwitch (.done hl)) (by decide)]
      exact ih _ _
    | chooseBranch s head pos =>
      rw [Frame.closers, List.cons_append, List.singleton_append,
        addAll_closer (fun _ => .endWhen) (by decide),
        addAll_closer (fun _ hl => .endChoose (.done hl)) (by decide)]
      exact ih _ _

/-- Any draft is completed by the lines that close what is open in it. -/
theorem addAll_closers (draft : Draft) (n : Nat) :
    ∃ all, draft.addAll (Line.ofDirectives n draft.closers) = .ok ⟨.body all, []⟩ := by
  obtain ⟨place, fs⟩ := draft
  cases place with
  | body bs => exact addAll_closers_frames fs n bs
  | inSwitch subject s =>
    rw [closers, Place.closers, List.singleton_append,
      addAll_closer (fun _ hl => .endSwitch (.done hl)) (by decide)]
    exact addAll_closers_frames fs (n + 1) _
  | inChoose s =>
    rw [closers, Place.closers, List.singleton_append,
      addAll_closer (fun _ hl => .endChoose (.done hl)) (by decide)]
    exact addAll_closers_frames fs (n + 1) _

theorem closers_subset (draft : Draft) : ∀ d ∈ draft.closers, d ∈ Directive.closers := by
  intro d hd
  rcases List.mem_append.1 hd with hd | hd
  · cases hp : draft.place with
    | body bs =>
      rw [hp] at hd
      cases hd
    | inSwitch subject s =>
      rw [hp] at hd
      rw [List.mem_singleton.1 hd]
      decide
    | inChoose s =>
      rw [hp] at hd
      rw [List.mem_singleton.1 hd]
      decide
  · obtain ⟨f, _, hf⟩ := List.mem_flatMap.1 hd
    exact f.closers_subset hf

theorem closers_ne_nil {draft : Draft} {e : SyntaxError} (h : draft.finish = .error e) :
    draft.closers ≠ [] := by
  intro hc
  obtain ⟨all, hall⟩ := draft.addAll_closers 0
  rw [hc] at hall
  cases hall
  cases h

end Draft

/-! ### Texts that cannot be read -/

namespace Template

def Parses (text : String) : Prop := ∃ t, ofText text = .ok t

/-- The text ends inside a block: the error is that of its innermost open line, and the text can
be read with lines behind it that close what is open. -/
def Repairable (text : String) : Prop :=
  ∃ e opener closers, ofText text = .error (.grammar e) ∧
    e.fault = .unterminated opener closers ∧
    (Line.stillOpen (Line.ofText text)).head? = some (opener, e.pos) ∧
    ∃ ds : List Directive, (∀ d ∈ ds, d ∈ Directive.closers) ∧
      Parses (text ++ "\n" ++ Text.joinWith "\n" (ds.map Directive.text))

/-- The text has a line at fault: the error is that of a token of the line, and every text with
the same lines up to that one has the same error, so no lines behind the text make up for it. -/
def Final (text : String) : Prop :=
  ∃ e t, ofText text = .error (.grammar e) ∧
    t ∈ Token.tokenize text ∧ t.kind ≠ .endOfTemplate ∧ e.Blames t ∧
    e.pos.line < (Text.lines text).length ∧
    (∀ other : String,
      (Text.lines other).take (e.pos.line + 1) = (Text.lines text).take (e.pos.line + 1) →
        ofText other = .error (.grammar e)) ∧
    ∀ more : String, ¬ Parses (text ++ "\n" ++ more)

theorem ofText_eq_ok {text : String} {bs : List Block} (h : Block.ofText text = .ok bs) :
    Parses text :=
  ⟨_, ofText_of_blocks h⟩

theorem cutLines_closers {ds : List Directive} (hne : ds ≠ []) :
    Text.cutLines (Text.joinWith "\n" (ds.map Directive.text)).toList =
      ds.map fun d => d.text.toList := by
  rw [Text.cutLines_joinWith, List.map_map]
  · rfl
  · simpa using hne
  · intro p hp
    obtain ⟨d, _, rfl⟩ := List.mem_map.1 hp
    cases d <;> rfl

theorem repairable_of_finish {text : String} {draft : Draft} {e : SyntaxError}
    (hd : Draft.empty.addAll (Line.ofText text) = .ok draft) (hf : draft.finish = .error e) :
    Repairable text := by
  obtain ⟨opener, closers, hfault, hopen⟩ := Draft.finish_eq_error hf
  refine ⟨e, opener, closers, ofText_eq_error ?_, hfault, ?_, draft.closers,
    draft.closers_subset, ?_⟩
  · simp only [Block.ofText, Block.ofLines, hd, hf]
  · rw [Draft.addAll_opened hd] at hopen
    exact hopen
  · obtain ⟨all, hall⟩ := draft.addAll_closers (Text.cutLines text.toList).length
    have hlines : Line.ofText (text ++ "\n" ++
        Text.joinWith "\n" (draft.closers.map Directive.text)) = Line.ofText text ++
          Line.ofDirectives (Text.cutLines text.toList).length draft.closers := by
      have he : (text ++ "\n" ++ Text.joinWith "\n" (draft.closers.map Directive.text)).toList =
          text.toList ++
            '\n' :: (Text.joinWith "\n" (draft.closers.map Directive.text)).toList := by
        simp [String.toList_append]
      rw [Line.ofText, he, Text.cutLines_append, cutLines_closers (Draft.closers_ne_nil hf),
        Line.ofCut_append, Nat.zero_add]
      rfl
    refine @ofText_eq_ok _ all.reverse ?_
    rw [Block.ofText, hlines, Block.ofLines, Draft.addAll_of_eq_ok hd, hall]
    rfl

theorem final_of_addAll {text : String} {e : SyntaxError}
    (h : Draft.empty.addAll (Line.ofText text) = .error e) : Final text := by
  obtain ⟨before, cs, after, t, hpieces, ht, hb, hmore⟩ := Draft.addAll_blames h
  rw [Nat.zero_add] at ht
  have hline : e.pos.line = before.length := by
    rw [hb.1]
    exact Line.line_of_mem_tokens ht
  -- The lines up to the one at fault are all that the error depends on.
  have hfirst : ∀ other : String,
      (Text.lines other).take (e.pos.line + 1) = (Text.lines text).take (e.pos.line + 1) →
      ofText other = .error (.grammar e) := by
    intro other ho
    have hcut : (Text.cutLines other.toList).take (before.length + 1) = before ++ [cs] := by
      rw [Text.lines, Text.lines, ← List.map_take, ← List.map_take, hline] at ho
      rw [(List.map_inj_right fun _ _ => String.ofList_inj.1).1 ho, hpieces,
        ← List.singleton_append, ← List.append_assoc]
      exact List.take_left' (by simp)
    have hother : Text.cutLines other.toList =
        before ++ cs :: (Text.cutLines other.toList).drop (before.length + 1) := by
      rw [← List.singleton_append, ← List.append_assoc, ← hcut, List.take_append_drop]
    refine ofText_eq_error ?_
    rw [Block.ofText, Line.ofText, hother, Block.ofLines, hmore]
  have hlines : Line.ofText text = Line.ofCut 0 before ++
      Line.ofChars before.length cs :: Line.ofCut (before.length + 1) after := by
    rw [Line.ofText, hpieces, Line.ofCut_append, Nat.zero_add]
    rfl
  have hlen : e.pos.line < (Text.lines text).length := by
    rw [hline, Text.lines, List.length_map, hpieces, List.length_append, List.length_cons]
    omega
  refine ⟨e, t, ofText_eq_error ?_, ?_, ?_, hb, hlen, hfirst, fun more => ?_⟩
  · rw [Block.ofText, Block.ofLines, h]
  · refine List.mem_append_left _ (List.mem_flatMap.2 ⟨_, ?_, ht⟩)
    rw [hlines]
    exact List.mem_append_right _ List.mem_cons_self
  · exact (Line.wordy_ofChars before.length cs).kind_ne ht
  · rintro ⟨parsed, hp⟩
    rw [hfirst] at hp
    · cases hp
    · rw [Text.lines_append, List.take_append_of_le_length hlen]

/-- Every text can be read, or ends inside a block and can be repaired, or has a line at fault
that nothing behind it makes up for; and no two of these at once. -/
theorem exactly_one_of_parses_repairable_final (text : String) :
    (Parses text ∧ ¬ Repairable text ∧ ¬ Final text) ∨
      (¬ Parses text ∧ Repairable text ∧ ¬ Final text) ∨
      (¬ Parses text ∧ ¬ Repairable text ∧ Final text) := by
  have hpr : Parses text → ¬ Repairable text := by
    rintro ⟨parsed, hp⟩ ⟨e, _, _, he, _⟩
    rw [hp] at he
    cases he
  have hpf : Parses text → ¬ Final text := by
    rintro ⟨parsed, hp⟩ ⟨e, _, he, _⟩
    rw [hp] at he
    cases he
  have hrf : Repairable text → ¬ Final text := by
    rintro ⟨e, opener, closers, he, hfault, _⟩ ⟨e', t, he', _, _, hb, _⟩
    rw [he] at he'
    cases he'
    have hblame := hb.2
    rw [hfault] at hblame
    exact hblame
  cases hd : Draft.empty.addAll (Line.ofText text) with
  | error e =>
    have hf := final_of_addAll hd
    exact .inr (.inr ⟨fun hp => hpf hp hf, fun hr => hrf hr hf, hf⟩)
  | ok draft =>
    cases hbs : draft.finish with
    | error e =>
      have hr := repairable_of_finish hd hbs
      exact .inr (.inl ⟨fun hp => hpr hp hr, hr, hrf hr⟩)
    | ok bs =>
      have hp : Parses text := by
        refine @ofText_eq_ok _ bs ?_
        simp only [Block.ofText, Block.ofLines, hd, hbs]
      exact .inl ⟨hp, hpr hp, hpf hp⟩

example : Block.ofText "#if :a\n yes" =
    .error ⟨.unterminated .condition [.otherwise, .endCondition], ⟨0, 0⟩⟩ := by cbv

example : Block.ofText " yes\n#if" =
    .error ⟨.unexpected .endOfLine "" .operand, ⟨1, 3⟩⟩ := by cbv

end Template

end LineTemplate
