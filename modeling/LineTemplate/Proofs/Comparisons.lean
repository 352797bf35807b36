import LineTemplate.Proofs.Simulation
import Mathlib.Logic.Relation

/-!
# Comparisons and known patterns

A pattern is read once and then kept, so a comparison may leave more patterns behind than were
known to it: `Known.behind` has what is known then, whether the comparison succeeds or fails. It
makes no difference to the outcome of a comparison which patterns are known, as long as they are
what their texts are read as.

`Engine.Compares` says which comparisons an expression makes, and what is known to each of them.
What an expression leaves behind has come about by its comparisons alone, one after the other.
-/

namespace LineTemplate

/-! ### Comparisons -/

/-- Two values that are compared at a place of a template. -/
structure Comparison where
  comparator : Comparator
  left : Value
  right : Value
  pos : Position

namespace Comparison

/-- Whether the comparison holds, with these patterns known to it. -/
def outcome (read : PatternReader) (c : Comparison) (known : Pattern.Known) : Except Error Bool :=
  (c.comparator.apply read c.left c.right c.pos known).map (·.1)

/-- The text of the pattern that the comparison looks for. -/
def pattern? (c : Comparison) : Option String :=
  match c.comparator with
  | .find | .notFind => some c.right.text
  | .full | .notFull => some (Pattern.wholeText c.right.text)
  | _ => none

end Comparison

variable {read : PatternReader}

namespace Pattern.Known

/-- What is known behind a comparison, whether it succeeds or fails. -/
def behind (read : PatternReader) (known : Known) (c : Comparison) : Known :=
  match c.pattern? with
  | some text => (known.consult read text).2
  | none => known

theorem consult_of_none {known : Known} {text : String}
    (h : (known.consult read text).1 = none) : known.consult read text = (none, known) := by
  unfold consult at h ⊢
  cases hg : known.get? text with
  | some p => simp [hg] at h
  | none =>
    cases hp : read text with
    | some p => simp [hg, hp] at h
    | none => rfl

theorem mem_consult {known : Known} {text : String} {entry : String × Matcher}
    (h : entry ∈ (known.consult read text).2) : entry ∈ known ∨ entry.1 = text := by
  unfold consult at h
  cases hg : known.get? text with
  | some p =>
    rw [hg] at h
    exact .inl h
  | none =>
    rw [hg] at h
    cases hp : read text with
    | none =>
      rw [hp] at h
      exact .inl h
    | some p =>
      rw [hp] at h
      rcases List.mem_cons.1 h with rfl | h
      · exact .inr rfl
      · exact .inl h

theorem mem_behind {known : Known} {c : Comparison} {entry : String × Matcher}
    (h : entry ∈ known.behind read c) : entry ∈ known ∨ c.pattern? = some entry.1 := by
  unfold behind at h
  cases hc : c.pattern? with
  | none =>
    rw [hc] at h
    exact .inl h
  | some text =>
    rw [hc] at h
    exact (mem_consult h).imp_right fun he => congrArg some he.symm

theorem Sound.behind {known : Known} (h : known.Sound read) (c : Comparison) :
    (known.behind read c).Sound read := by
  unfold Known.behind
  cases c.pattern? with
  | none => exact h
  | some text => exact (h.consult text).2

end Pattern.Known

namespace Comparison

/-- Where a comparison succeeds, it leaves behind what `Known.behind` says. -/
theorem apply_eq (c : Comparison) (known : Pattern.Known) :
    c.comparator.apply read c.left c.right c.pos known =
      (c.outcome read known).map (·, known.behind read c) := by
  obtain ⟨comparator, left, right, pos⟩ := c
  unfold outcome Pattern.Known.behind
  cases comparator with
  | eq | notEq => rfl
  | gt | lt | gtEq | ltEq => simp only [pattern?, Comparator.apply, map_map]
  | find | full | notFind | notFull =>
    simp only [pattern?, Comparator.apply, Pattern.search_eq_consult]
    split <;> rfl

theorem behind_of_apply {c : Comparison} {known more : Pattern.Known} {holds : Bool}
    (h : c.comparator.apply read c.left c.right c.pos known = .ok (holds, more)) :
    more = known.behind read c := by
  rw [apply_eq] at h
  obtain ⟨b, -, hb⟩ := map_eq_ok.1 h
  cases hb
  rfl

theorem outcome_of_refused {c : Comparison} {known : Pattern.Known} {text : String}
    (hc : c.pattern? = some text) (h : (known.consult read text).1 = none) :
    c.outcome read known = .error (.invalidPattern text c.pos) := by
  obtain ⟨comparator, left, right, pos⟩ := c
  cases comparator with
  | eq | notEq | gt | lt | gtEq | ltEq => cases hc
  | find | full | notFind | notFull =>
    cases hc
    simp only [outcome, Comparator.apply, Pattern.search_eq_consult, h]
    rfl

theorem refused_of_fails {c : Comparison} {known : Pattern.Known} {text : String} {e : Error}
    (hc : c.pattern? = some text) (h : c.outcome read known = .error e) :
    known.consult read text = (none, known) := by
  refine Pattern.Known.consult_of_none ?_
  cases hp : (known.consult read text).1 with
  | none => rfl
  | some p =>
    obtain ⟨comparator, left, right, pos⟩ := c
    cases comparator with
    | eq | notEq | gt | lt | gtEq | ltEq => cases hc
    | find | full | notFind | notFull =>
      cases hc
      simp only [outcome, Comparator.apply, Pattern.search_eq_consult, hp] at h
      cases h

/-- A comparison that fails leaves what is known as it was. -/
theorem behind_of_fails {c : Comparison} {known : Pattern.Known} {e : Error}
    (h : c.outcome read known = .error e) : known.behind read c = known := by
  unfold Pattern.Known.behind
  cases hc : c.pattern? with
  | none => rfl
  | some text => exact congrArg Prod.snd (refused_of_fails hc h)

theorem ordered_ne_invalidPattern (holds : Ordering → Bool) (l r : Value) (place pos : Position)
    (text : String) : Comparator.ordered holds l r place ≠ .error (.invalidPattern text pos) := by
  unfold Comparator.ordered
  split <;> exact nofun

theorem pattern?_of_invalidPattern {c : Comparison} {known : Pattern.Known} {text : String}
    {pos : Position} (h : c.outcome read known = .error (.invalidPattern text pos)) :
    c.pattern? = some text ∧ pos = c.pos := by
  cases hc : c.pattern? with
  | some asked =>
    rw [outcome_of_refused hc (congrArg Prod.fst (refused_of_fails hc h))] at h
    cases h
    exact ⟨rfl, rfl⟩
  | none =>
    obtain ⟨comparator, left, right, place⟩ := c
    have happly := map_eq_error.1 h
    cases comparator with
    | eq | notEq => cases happly
    | gt | lt | gtEq | ltEq =>
      exact absurd (map_eq_error.1 happly) (ordered_ne_invalidPattern _ _ _ _ _ _)
    | find | full | notFind | notFull => cases hc

/-- With sound patterns known, a comparison does what it does with none. -/
theorem outcome_of_sound {known : Pattern.Known} (h : known.Sound read) (c : Comparison) :
    c.outcome read known = c.outcome read [] :=
  (Pattern.Known.apply_alike h Pattern.Known.sound_nil c.comparator c.left c.right c.pos).map_fst

/-- A comparison refuses its pattern where the text of it is none, and only there. -/
theorem outcome_eq_invalidPattern {known : Pattern.Known} (hs : known.Sound read) {c : Comparison}
    {text : String} {pos : Position} : c.outcome read known = .error (.invalidPattern text pos) ↔
      c.pattern? = some text ∧ read text = none ∧ pos = c.pos := by
  have hread := (hs.consult text).1
  constructor
  · intro h
    obtain ⟨hc, hpos⟩ := pattern?_of_invalidPattern h
    exact ⟨hc, hread.symm.trans (congrArg Prod.fst (refused_of_fails hc h)), hpos⟩
  · rintro ⟨hc, hnone, rfl⟩
    exact outcome_of_refused hc (hread.trans hnone)

end Comparison

/-! ### Histories -/

namespace Pattern.Known

/-- One of the comparisons that are made leads from the first patterns to the second ones. -/
def Step (read : PatternReader) (Made : Comparison → Known → Prop) (known more : Known) : Prop :=
  ∃ c, Made c known ∧ more = known.behind read c

/-- Comparisons that are made, each with what the ones before it have left, lead from the first
patterns to the second ones. -/
abbrev Leads (read : PatternReader) (Made : Comparison → Known → Prop) : Known → Known → Prop :=
  Relation.ReflTransGen (Step read Made)

namespace Leads

variable {Made Made' : Comparison → Known → Prop} {known more : Known}

theorem mono (h : Leads read Made known more) (hm : ∀ c now, Made c now → Made' c now) :
    Leads read Made' known more :=
  Relation.ReflTransGen.mono (fun _ _ ⟨c, hc, he⟩ => ⟨c, hm c _ hc, he⟩) _ _ h

theorem made (h : Leads read Made known more) {c : Comparison} (hc : Made c more) :
    Leads read Made known (more.behind read c) :=
  h.tail ⟨c, hc, rfl⟩

theorem sound (h : Leads read Made known more) (hs : known.Sound read) : more.Sound read := by
  induction h with
  | refl => exact hs
  | tail _ hstep ih =>
    obtain ⟨c, -, rfl⟩ := hstep
    exact ih.behind c

/-- Every pattern was known before or was looked for by a comparison on the way. -/
theorem mem (h : Leads read Made known more) {entry : String × Matcher} (he : entry ∈ more) :
    entry ∈ known ∨ ∃ c now, Made c now ∧ c.pattern? = some entry.1 := by
  induction h with
  | refl => exact .inl he
  | tail _ hstep ih =>
    obtain ⟨c, hc, rfl⟩ := hstep
    rcases mem_behind he with he | hp
    · exact ih he
    · exact .inr ⟨c, _, hc, hp⟩

end Leads

theorem Sound.foldl {known : Known} (h : known.Sound read) (cs : List Comparison) :
    (cs.foldl (Known.behind read) known).Sound read := by
  induction cs generalizing known with
  | nil => exact h
  | cons c more ih => exact ih (h.behind c)

end Pattern.Known

open Pattern (Known)

namespace Engine

variable {g : Engine}

/-! ### Comparisons of expressions -/

/-- The evaluation of the expression, with `known` known at first, makes the comparison, with `now`
known to it. -/
inductive Compares (g : Engine) (scope : Scope) : Expr → Known → Comparison → Known → Prop
  | here {comparator : Comparator} {l r : Expr} {pos : Position} {v w : Value}
      {known left now : Known} :
      g.expression scope l known = .ok (v, left) → g.expression scope r left = .ok (w, now) →
      Compares g scope (.compare comparator l r pos) known ⟨comparator, v, w, pos⟩ now
  | left {comparator : Comparator} {l r : Expr} {pos : Position} {known now : Known}
      {c : Comparison} : Compares g scope l known c now →
      Compares g scope (.compare comparator l r pos) known c now
  | right {comparator : Comparator} {l r : Expr} {pos : Position} {v : Value}
      {known left now : Known} {c : Comparison} :
      g.expression scope l known = .ok (v, left) → Compares g scope r left c now →
      Compares g scope (.compare comparator l r pos) known c now
  | not {e : Expr} {known now : Known} {c : Comparison} :
      Compares g scope e known c now → Compares g scope (.not e) known c now
  | andLeft {l r : Expr} {known now : Known} {c : Comparison} :
      Compares g scope l known c now → Compares g scope (.and l r) known c now
  | andRight {l r : Expr} {v : Value} {known left now : Known} {c : Comparison} :
      g.expression scope l known = .ok (v, left) → v.isTruthy = true →
      Compares g scope r left c now → Compares g scope (.and l r) known c now
  | orLeft {l r : Expr} {known now : Known} {c : Comparison} :
      Compares g scope l known c now → Compares g scope (.or l r) known c now
  | orRight {l r : Expr} {v : Value} {known left now : Known} {c : Comparison} :
      g.expression scope l known = .ok (v, left) → v.isTruthy = false →
      Compares g scope r left c now → Compares g scope (.or l r) known c now

/-- What an expression leaves behind has come about by its comparisons. -/
theorem leads_of_expression {scope : Scope} {e : Expr} {known more : Known} {v : Value}
    (h : g.expression scope e known = .ok (v, more)) :
    Known.Leads g.patterns (g.Compares scope e known) known more := by
  induction e generalizing known more v with
  | operand o =>
    obtain ⟨w, -, hr⟩ := bind_eq_ok.1 h
    cases hr
    exact .refl
  | not e ih =>
    obtain ⟨⟨w, now⟩, he, hr⟩ := bind_eq_ok.1 h
    cases hr
    exact (ih he).mono fun _ _ => .not
  | compare comparator l r pos ihl ihr =>
    obtain ⟨⟨v, left⟩, hl, h⟩ := bind_eq_ok.1 h
    obtain ⟨⟨w, now⟩, hr, h⟩ := bind_eq_ok.1 h
    obtain ⟨⟨holds, behind⟩, hc, h⟩ := bind_eq_ok.1 h
    cases h
    rw [Comparison.behind_of_apply (c := ⟨comparator, v, w, pos⟩) hc]
    refine Known.Leads.made ?_ (.here hl hr)
    exact ((ihl hl).mono fun _ _ => .left).trans ((ihr hr).mono fun _ _ => .right hl)
  | and l r ihl ihr =>
    -- the right side is evaluated, and compares, only where the left one does not settle it
    obtain ⟨⟨v, left⟩, hl, h⟩ := bind_eq_ok.1 h
    refine ((ihl hl).mono fun _ _ => .andLeft).trans ?_
    cases hv : v.isTruthy with
    | false =>
      simp only [hv] at h
      cases h
      exact .refl
    | true =>
      simp only [hv, if_true] at h
      obtain ⟨⟨w, now⟩, hr, h⟩ := bind_eq_ok.1 h
      cases h
      exact (ihr hr).mono fun _ _ => .andRight hl hv
  | or l r ihl ihr =>
    obtain ⟨⟨v, left⟩, hl, h⟩ := bind_eq_ok.1 h
    refine ((ihl hl).mono fun _ _ => .orLeft).trans ?_
    cases hv : v.isTruthy with
    | true =>
      simp only [hv, if_true] at h
      cases h
      exact .refl
    | false =>
      simp only [hv] at h
      obtain ⟨⟨w, now⟩, hr, h⟩ := bind_eq_ok.1 h
      cases h
      exact (ihr hr).mono fun _ _ => .orRight hl hv

/-- What is known to a comparison has come about by the ones before it. -/
theorem Compares.leads {scope : Scope} {e : Expr} {known now : Known} {c : Comparison}
    (h : g.Compares scope e known c now) :
    Known.Leads g.patterns (g.Compares scope e known) known now := by
  induction h with
  | here hl hr =>
    exact ((leads_of_expression hl).mono fun _ _ => .left).trans
      ((leads_of_expression hr).mono fun _ _ => .right hl)
  | left _ ih => exact ih.mono fun _ _ => .left
  | right hl _ ih =>
    exact ((leads_of_expression hl).mono fun _ _ => .left).trans (ih.mono fun _ _ => .right hl)
  | not _ ih => exact ih.mono fun _ _ => .not
  | andLeft _ ih => exact ih.mono fun _ _ => .andLeft
  | andRight hl hv _ ih =>
    exact ((leads_of_expression hl).mono fun _ _ => .andLeft).trans
      (ih.mono fun _ _ => .andRight hl hv)
  | orLeft _ ih => exact ih.mono fun _ _ => .orLeft
  | orRight hl hv _ ih =>
    exact ((leads_of_expression hl).mono fun _ _ => .orLeft).trans
      (ih.mono fun _ _ => .orRight hl hv)

end Engine

end LineTemplate
