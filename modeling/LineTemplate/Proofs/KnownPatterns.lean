import LineTemplate.Proofs.Comparisons

/-!
# Known patterns during a rendering

`Engine.Makes` says which comparisons a task makes, and what is known to each of them;
`Engine.Knows` says what is known at the moments of a task.

What is known at any moment has come about by comparisons that the task has made, one after the
other (`Knows.leads`). So all of it is what its texts are read as, and a rendering does the same
as if nothing were known.
-/

namespace LineTemplate

open Pattern (Known)

namespace Engine

variable {g : Engine}

/-! ### Comparisons of tasks -/

/-- The task itself evaluates the expression, in the state that it begins in. -/
inductive Evaluates : Task → State → Expr → Prop
  | condition {test : Expr} {body : List Block} {otherwise : Option (List Block)}
      {pos : Position} {s : State} :
      Evaluates (.block (.condition test body otherwise pos)) s test
  | guard {test : Expr} {body : List Block} {message : Option String} {pos : Position}
      {s : State} : Evaluates (.block (.guard test body message pos)) s test
  | check {test : Expr} {message : String} {pos : Position} {s : State} :
      Evaluates (.block (.check test message pos)) s test
  | define {name : Binding} {value : Expr} {pos : Position} {s : State} :
      checkFree s name = .ok () → Evaluates (.block (.define name value pos)) s value
  | when {test : Expr} {body : List Block} {pos : Position} {more : List (Branch Expr Block)}
      {s : State} : Evaluates (.whens (⟨test, body, pos⟩ :: more)) s test

/-- The task, in the state, makes the comparison, with `now` known to it. -/
def Makes (g : Engine) (task : Task) (s : State) (c : Comparison) (now : Known) : Prop :=
  ∃ inner u e, g.Reaches task s inner u ∧ Evaluates inner u e ∧
    g.Compares u.scope e u.patterns c now

theorem Reaches.trans {a b d : Task} {s t u : State} (h : g.Reaches a s b t)
    (h' : g.Reaches b t d u) : g.Reaches a s d u := by
  induction h' with
  | start => exact h
  | step _ he ih => exact ih.step he

theorem Makes.within {task inner : Task} {s u : State} (h : g.Reaches task s inner u)
    {c : Comparison} {now : Known} (hm : g.Makes inner u c now) : g.Makes task s c now := by
  obtain ⟨deeper, t, e, hr, he, hc⟩ := hm
  exact ⟨deeper, t, e, h.trans hr, he, hc⟩

theorem leads_within {task inner : Task} {s u : State} (h : g.Enters task s inner u)
    {known more : Known} (hl : Known.Leads g.patterns (g.Makes inner u) known more) :
    Known.Leads g.patterns (g.Makes task s) known more :=
  hl.mono fun _ _ => .within (.step .start h)

theorem leads_of_evaluate {task : Task} {e : Expr} {s t : State} {v : Value}
    (he : Evaluates task s e) (h : g.evaluate e s = .ok (v, t)) :
    Known.Leads g.patterns (g.Makes task s) s.patterns t.patterns := by
  obtain ⟨known, hk, rfl⟩ := evaluate_eq_ok.1 h
  exact (leads_of_expression hk).mono fun c now hc => ⟨task, s, e, .start, he, hc⟩

theorem leads_of_holds {task : Task} {e : Expr} {s t : State} {b : Bool}
    (he : Evaluates task s e) (h : g.holds e s = .ok (b, t)) :
    Known.Leads g.patterns (g.Makes task s) s.patterns t.patterns := by
  obtain ⟨v, hv, -⟩ := holds_eq_ok.1 h
  exact leads_of_evaluate he hv

/-- Wherever the task succeeds, what it leaves behind has come about by its comparisons. -/
def Traced (g : Engine) (task : Task) : Prop :=
  ∀ s t, task.Ends g s t → Known.Leads g.patterns (g.Makes task s) s.patterns t.patterns

namespace Traced

theorem optional {body : Option (List Block)} (hb : ∀ bs ∈ body, g.Traced (.blocks bs)) :
    g.Traced (.optional body) := by
  rintro s t ⟨text, ht⟩
  cases body with
  | none =>
    cases ht
    exact .refl
  | some bs =>
    obtain ⟨texts, ht, -⟩ := joinLines_eq_ok.1 ht
    exact leads_within .optional (hb bs rfl s t ⟨texts, ht⟩)

theorem cases {v : Value} {branches : List (Branch (List Literal) Block)}
    (hb : ∀ c ∈ branches, g.Traced (.blocks c.body)) : g.Traced (.cases v branches) := by
  induction branches with
  | nil =>
    rintro s t ⟨text, ht⟩
    cases ht
  | cons c more ih =>
    rintro s t ⟨text, ht⟩
    obtain ⟨values, body, pos⟩ := c
    rw [selected] at ht
    obtain ⟨holds, hv, ht⟩ := bind_eq_ok.1 ht
    cases holds with
    | false =>
      have hmore := ih fun d hd => hb d (List.mem_cons_of_mem _ hd)
      exact leads_within (.laterCase hv) (hmore s t ⟨text, ht⟩)
    | true =>
      obtain ⟨⟨text', u⟩, hj, hr⟩ := bind_eq_ok.1 ht
      cases hr
      obtain ⟨texts, hj, -⟩ := joinLines_eq_ok.1 hj
      exact leads_within (.case hv) (hb _ List.mem_cons_self s t ⟨texts, hj⟩)

theorem whens {branches : List (Branch Expr Block)}
    (hb : ∀ w ∈ branches, g.Traced (.blocks w.body)) : g.Traced (.whens branches) := by
  induction branches with
  | nil =>
    rintro s t ⟨text, ht⟩
    cases ht
    exact .refl
  | cons w more ih =>
    rintro s t ⟨text, ht⟩
    obtain ⟨test, body, pos⟩ := w
    rw [chosen] at ht
    obtain ⟨⟨holds, u⟩, hh, ht⟩ := bind_eq_ok.1 ht
    refine (leads_of_holds .when hh).trans ?_
    cases holds with
    | false =>
      have hmore := ih fun d hd => hb d (List.mem_cons_of_mem _ hd)
      exact leads_within (.laterWhen hh) (hmore u t ⟨text, ht⟩)
    | true =>
      obtain ⟨⟨text', u'⟩, hj, hr⟩ := bind_eq_ok.1 ht
      cases hr
      obtain ⟨texts, hj, -⟩ := joinLines_eq_ok.1 hj
      exact leads_within (.when hh) (hb _ List.mem_cons_self u t ⟨texts, hj⟩)

theorem iterations {body : List Block} (hb : g.Traced (.blocks body)) (header : Loop)
    (occurrence number : Nat) (items : List Value) :
    g.Traced (.iterations body header occurrence number items) := by
  induction items generalizing number with
  | nil =>
    rintro s t ⟨texts, ht⟩
    cases ht
    exact .refl
  | cons item more ih =>
    rintro s t ⟨texts, ht⟩
    rw [iterate] at ht
    obtain ⟨⟨text, u⟩, hu, ht⟩ := bind_eq_ok.1 ht
    obtain ⟨⟨texts', t'⟩, ht', hr⟩ := bind_eq_ok.1 ht
    cases hr
    obtain ⟨lines, hu, -⟩ := joinLines_eq_ok.1 hu
    refine (leads_within .iteration (hb _ u ⟨lines, hu⟩)).trans ?_
    exact leads_within (.laterIteration hu) (ih (number + 1) _ t ⟨texts', ht'⟩)

end Traced

theorem traced_block_and_blocks :
    (∀ b, g.Traced (.block b)) ∧ ∀ bs, g.Traced (.blocks bs) := by
  refine Block.induction ?text ?condition ?switch ?choose ?loop ?guard ?check ?define ?nil ?cons
  case text =>
    rintro content pos s t ⟨text, ht⟩
    rw [block, textLine] at ht
    split at ht
    · obtain ⟨text', -, hr⟩ := bind_eq_ok.1 ht
      cases hr
      exact .refl
    · cases ht
      exact .refl
  case condition =>
    rintro test body otherwise pos hb ho s t ⟨text, ht⟩
    rw [block] at ht
    obtain ⟨⟨holds, u⟩, hh, ht⟩ := bind_eq_ok.1 ht
    refine (leads_of_holds .condition hh).trans ?_
    cases holds with
    | true =>
      obtain ⟨texts, ht, -⟩ := joinLines_eq_ok.1 ht
      exact leads_within (.consequence hh) (hb u t ⟨texts, ht⟩)
    | false => exact leads_within (.alternative hh) (Traced.optional ho u t ⟨text, ht⟩)
  case switch =>
    rintro subject cases default pos hc hd s t ⟨text, ht⟩
    rw [block] at ht
    obtain ⟨v, hv, ht⟩ := bind_eq_ok.1 ht
    obtain ⟨result, hs, ht⟩ := bind_eq_ok.1 ht
    cases result with
    | none => exact leads_within (.switchDefault hv hs) (Traced.optional hd s t ⟨text, ht⟩)
    | some r =>
      cases ht
      exact leads_within (.switch hv) (Traced.cases hc s t ⟨text, hs⟩)
  case choose =>
    rintro whens default pos hw hd s t ⟨text, ht⟩
    rw [block] at ht
    obtain ⟨⟨result, u⟩, hs, ht⟩ := bind_eq_ok.1 ht
    refine (leads_within .choose (Traced.whens hw s u ⟨result, hs⟩)).trans ?_
    cases result with
    | none => exact leads_within (.chooseDefault hs) (Traced.optional hd u t ⟨text, ht⟩)
    | some text' =>
      cases ht
      exact .refl
  case loop =>
    rintro header body pos hb s t ⟨text, ht⟩
    rw [block] at ht
    obtain ⟨⟨⟩, hfree, ht⟩ := bind_eq_ok.1 ht
    obtain ⟨v, hv, ht⟩ := bind_eq_ok.1 ht
    obtain ⟨⟨texts, u⟩, hi, hr⟩ := bind_eq_ok.1 ht
    cases hr
    exact leads_within (.loop hfree hv) (Traced.iterations hb header _ 0 v.items _ t ⟨texts, hi⟩)
  case guard =>
    rintro test body message pos hb s t ⟨text, ht⟩
    rw [block] at ht
    obtain ⟨⟨holds, u⟩, hh, ht⟩ := bind_eq_ok.1 ht
    cases holds with
    | true =>
      obtain ⟨texts, ht, -⟩ := joinLines_eq_ok.1 ht
      exact (leads_of_holds .guard hh).trans (leads_within (.guard hh) (hb u t ⟨texts, ht⟩))
    | false => cases ht
  case check =>
    rintro test message pos s t ⟨text, ht⟩
    rw [block] at ht
    obtain ⟨⟨holds, u⟩, hh, ht⟩ := bind_eq_ok.1 ht
    cases holds with
    | true => cases ht
    | false =>
      cases ht
      exact leads_of_holds .check hh
  case define =>
    rintro name value pos s t ⟨text, ht⟩
    rw [block] at ht
    obtain ⟨hfree, v, u, he, -, rfl⟩ := define_eq_ok.1 ht
    show Known.Leads _ _ s.patterns u.patterns
    exact leads_of_evaluate (.define (checkFree_eq_ok.2 hfree)) he
  case nil =>
    rintro s t ⟨texts, ht⟩
    cases ht
    exact .refl
  case cons =>
    rintro b more hb hm s t ⟨texts, ht⟩
    rw [blocks] at ht
    obtain ⟨⟨text, u⟩, hu, ht⟩ := bind_eq_ok.1 ht
    obtain ⟨⟨texts', t'⟩, ht', hr⟩ := bind_eq_ok.1 ht
    cases hr
    refine (leads_within .head (hb s u ⟨text, hu⟩)).trans ?_
    exact leads_within (.tail hu) (hm u t ⟨texts', ht'⟩)

theorem traced (task : Task) : g.Traced task := by
  obtain ⟨hb, hbs⟩ := traced_block_and_blocks (g := g)
  cases task with
  | block b => exact hb b
  | blocks bs => exact hbs bs
  | optional body => exact .optional fun bs _ => hbs bs
  | cases v branches => exact .cases fun c _ => hbs c.body
  | whens branches => exact .whens fun w _ => hbs w.body
  | iterations body header occurrence number items =>
    exact .iterations (hbs body) header occurrence number items

/-- A task begins with another one what its comparisons before it have left. -/
theorem Enters.leads {task inner : Task} {s t : State} (h : g.Enters task s inner t) :
    Known.Leads g.patterns (g.Makes task s) s.patterns t.patterns := by
  cases h with
  | consequence ht | alternative ht => exact leads_of_holds .condition ht
  | guard ht => exact leads_of_holds .guard ht
  | when ht | laterWhen ht => exact leads_of_holds .when ht
  | chooseDefault ht => exact leads_within .choose (traced (.whens _) _ _ ⟨none, ht⟩)
  | tail ht => exact leads_within .head (traced (.block _) _ _ ⟨_, ht⟩)
  | laterIteration ht =>
    -- the frame of the iteration is dropped, but what has become known in it is kept
    have hbody := traced (.blocks _) _ _ ⟨_, ht⟩
    exact leads_within .iteration hbody
  | switch | switchDefault | choose | head | optional | case | laterCase | loop | iteration =>
    exact .refl

theorem Reaches.leads {task inner : Task} {s t : State} (h : g.Reaches task s inner t) :
    Known.Leads g.patterns (g.Makes task s) s.patterns t.patterns := by
  induction h with
  | start => exact .refl
  | step hr he ih => exact ih.trans (he.leads.mono fun _ _ => .within hr)

/-- In every state that a rendering comes to, the patterns are what their texts are read as. -/
theorem Reaches.sound {task inner : Task} {s t : State} (h : g.Reaches task s inner t)
    (hs : s.patterns.Sound g.patterns) : t.patterns.Sound g.patterns :=
  h.leads.sound hs

/-! ### Moments of a rendering -/

/-- Patterns that are known at some moment of a task: at the beginning of a task that it leads to,
or at the end of one, before a comparison, or behind one, whether it succeeds or fails. -/
inductive Knows (g : Engine) (task : Task) (s : State) : Known → Prop
  | atBeginning {inner : Task} {u : State} :
      g.Reaches task s inner u → Knows g task s u.patterns
  | atEnd {inner : Task} {u t : State} :
      g.Reaches task s inner u → inner.Ends g u t → Knows g task s t.patterns
  | before {c : Comparison} {now : Known} : g.Makes task s c now → Knows g task s now
  | behind {c : Comparison} {now : Known} :
      g.Makes task s c now → Knows g task s (now.behind g.patterns c)

theorem Makes.leads {task : Task} {s : State} {c : Comparison} {now : Known}
    (h : g.Makes task s c now) : Known.Leads g.patterns (g.Makes task s) s.patterns now := by
  obtain ⟨inner, u, e, hr, he, hc⟩ := h
  exact hr.leads.trans (hc.leads.mono fun d known hd => ⟨inner, u, e, hr, he, hd⟩)

theorem Knows.leads {task : Task} {s : State} {known : Known} (h : g.Knows task s known) :
    Known.Leads g.patterns (g.Makes task s) s.patterns known := by
  cases h with
  | atBeginning hr => exact hr.leads
  | atEnd hr ht => exact hr.leads.trans ((traced _ _ _ ht).mono fun _ _ => .within hr)
  | before hm => exact hm.leads
  | behind hm => exact hm.leads.made hm

end Engine

/-! ### Forgetting -/

/-- Two states that differ in what is known only. -/
structure State.SameButKnown (read : PatternReader) (s t : State) : Prop where
  scope : s.scope = t.scope
  loopVars : s.loopVars = t.loopVars
  loops : s.loops = t.loops
  sound : Pattern.Known.BothSound read s.patterns t.patterns

namespace Engine

variable {g : Engine}

theorem simulation_of_sameButKnown :
    Simulation g g (fun _ => True) (· = ·) (State.SameButKnown g.patterns) where
  accessor := rfl
  reader := rfl
  delimiter := rfl
  agree hR m _ := agree_of_get? (fun _ => by rw [hR.scope]) m
  inLoop hR := by rw [hR.scope]
  format hR _ := by rw [hR.scope]
  sound hR := hR.sound
  patterns hR hpq := { hR with sound := hpq }
  bind name v hR := by
    refine ⟨?_, ?_, hR.loops, hR.sound⟩
    · simp only [State.define, hR.scope]
    · simp only [State.define, hR.scope, hR.loopVars]
  loops hR := hR.loops
  enter hR := { hR with loops := congrArg (· + 1) hR.loops }
  push l number item hR hij := by
    subst hij
    refine { hR with scope := ?_ }
    rw [hR.scope]
  leave hR hR' := { hR' with scope := hR.scope }

/-- Blocks come to the same end when everything known is forgotten before them. -/
theorem blocks_of_forgotten {s : State} (h : s.patterns.Sound g.patterns) (bs : List Block) :
    Alike (State.SameButKnown g.patterns) (g.blocks bs s) (g.blocks bs { s with patterns := [] }) :=
  simulation_of_sameButKnown.block_and_blocks.2 bs _ (fun _ _ => trivial) s _
    ⟨rfl, rfl, rfl, h, Pattern.Known.sound_nil⟩ rfl

/-- Whatever is known at some moment of a rendering has been looked for by a comparison, and is
what its text is read as; a text that is no pattern adds nothing to it. No comparison can tell it
from nothing, whichever comparisons have been made since: it has the same outcome, and refuses
its pattern at its own place, leaving what is known as it was. So nothing that is rendered from
there on depends on what is known. -/
theorem known_patterns_transparent (g : Engine) {template : List Block} {context : Fields Value}
    {known : Known} (h : g.Knows (.blocks template) (.start context) known) :
    (∀ entry ∈ known, g.patterns entry.1 = some entry.2 ∧
      ∃ c now, g.Makes (.blocks template) (.start context) c now ∧ c.pattern? = some entry.1) ∧
    (∀ text, g.patterns text = none → known.consult g.patterns text = (none, known)) ∧
    (∀ c : Comparison,
      (∀ others : List Comparison,
        c.outcome g.patterns (others.foldl (Known.behind g.patterns) known) =
          c.outcome g.patterns []) ∧
      (∀ text pos, c.outcome g.patterns known = .error (.invalidPattern text pos) ↔
        c.pattern? = some text ∧ g.patterns text = none ∧ pos = c.pos) ∧
      ∀ e, c.outcome g.patterns known = .error e → known.behind g.patterns c = known) ∧
    ∀ s bs, s.patterns = known →
      Alike (State.SameButKnown g.patterns) (g.blocks bs s)
        (g.blocks bs { s with patterns := [] }) := by
  have hsound : known.Sound g.patterns := h.leads.sound Known.sound_nil
  refine ⟨fun entry he => ⟨hsound entry he, ?_⟩, fun text hnone => ?_, fun c => ?_, ?_⟩
  · exact (h.leads.mem he).resolve_left List.not_mem_nil
  · exact Known.consult_of_none ((hsound.consult text).1.trans hnone)
  · refine ⟨fun others => ?_, fun text pos => ?_, fun e => Comparison.behind_of_fails⟩
    · exact Comparison.outcome_of_sound (hsound.foldl others) c
    · exact Comparison.outcome_eq_invalidPattern hsound
  · rintro s bs rfl
    exact blocks_of_forgotten hsound bs

/-- The text that one comparison has matched whole is the one that the next comparison looks for;
what is known to it is the pattern of the first one. -/
theorem known_patterns_transparent_shared :
    ∃ (template : List Block) (c : Comparison) (known : Known),
      standard.Makes (.blocks template) (.start []) c known ∧
      standard.Knows (.blocks template) (.start []) known ∧
      known.map (·.1) = ["^(?:a)$"] ∧ c.comparator = .find ∧ c.pattern? = some "^(?:a)$" ∧
      c.outcome standard.patterns known = c.outcome standard.patterns [] ∧
      c.outcome standard.patterns [] = .ok true ∧
      standard.patterns "(" = none ∧ known.consult standard.patterns "(" = (none, known) := by
  let text (s : String) : Expr := .operand ⟨.literal (.string s), [], ⟨0, 0⟩⟩
  let whole : Expr := .compare .full (text "a") (text "a") ⟨0, 13⟩
  let part : Expr := .compare .find (text "a") (text "^(?:a)$") ⟨1, 13⟩
  let template : List Block :=
    [.define ⟨"whole", ⟨0, 5⟩⟩ whole ⟨0, 0⟩, .define ⟨"part", ⟨1, 5⟩⟩ part ⟨1, 0⟩]
  have h0 : standard.Reaches (.blocks template) (.start []) _ _ := .start
  have h1 := (h0.step (.tail rfl)).step .head
  have hmakes : standard.Makes (.blocks template) (.start [])
      ⟨.find, .string "a", .string "^(?:a)$", ⟨1, 13⟩⟩ _ :=
    ⟨_, _, part, h1, .define rfl, .here rfl rfl⟩
  obtain ⟨-, hnone, hall, -⟩ := known_patterns_transparent standard (.before hmakes)
  exact ⟨template, _, _, hmakes, .before hmakes, rfl, rfl, rfl, (hall _).1 [], rfl, rfl,
    hnone "(" rfl⟩

/-- The iterations of a loop read a pattern once. -/
example : (blocks { standard with formatter := .verbatim }
    [.loop ⟨⟨"w", ⟨0, 5⟩⟩, none, ⟨.variable ⟨"words", []⟩, [], ⟨0, 10⟩⟩, none, none, none⟩
      [.condition (.compare .find (.operand ⟨.variable ⟨"w", []⟩, [], ⟨1, 4⟩⟩)
          (.operand ⟨.literal (.string "^a"), [], ⟨1, 9⟩⟩) ⟨1, 7⟩)
        [.text "found" ⟨2, 0⟩] none ⟨1, 0⟩] ⟨0, 0⟩]
    (.start [("words", .array [.string "ab", .string "ba"])])).map
      (fun (texts, s) => (texts, s.patterns.map (·.1))) = .ok (["found"], ["^a"]) := by rfl

end Engine

end LineTemplate
