import LineTemplate.Rendering

/-!
# Visits

A rendering visits blocks and lists of blocks, each of them in some state. `Enters` says which
visits a visit begins itself, and in which states; `Reaches` says which visits it leads to in the
end. `Stepwise` relations are those that hold between the states before and behind everything
that a rendering can do to its state in one step; `Stepwise.ends` says that they then hold between
the states before and behind every visit that succeeds. A relation that depends on the number of
a loop is none of these, but may still follow every loop as a whole, as in `Follows`.
-/

namespace LineTemplate

namespace State

/-- The state with one more definition, which inside loops is also recorded. -/
def define (s : State) (name : String) (v : Value) : State :=
  { s with
    scope := s.scope.define name v
    loopVars := match s.scope.frames with
      | [] => s.loopVars
      | f :: _ => s.loopVars.set ⟨name, f.occurrence, f.number⟩ v }

theorem define_outside {s : State} (h : s.scope.frames = []) (name : String) (v : Value) :
    s.define name v =
      { s with scope := { s.scope with defined := s.scope.defined.set name v } } := by
  simp only [define, Scope.define, h]

theorem define_inside {s : State} {f : Iteration} {outer : List Iteration}
    (h : s.scope.frames = f :: outer) (name : String) (v : Value) :
    s.define name v =
      { s with
        scope := { s.scope with frames := { f with vars := f.vars.set name v } :: outer }
        loopVars := s.loopVars.set ⟨name, f.occurrence, f.number⟩ v } := by
  simp only [define, Scope.define, h]

end State

namespace Engine

variable {g : Engine}

/-! ### What single steps do -/

theorem evaluate_eq_ok {e : Expr} {s t : State} {v : Value} :
    g.evaluate e s = .ok (v, t) ↔
      ∃ known, g.expression s.scope e s.patterns = .ok (v, known) ∧
        t = { s with patterns := known } := by
  unfold evaluate
  rw [bind_eq_ok]
  constructor
  · rintro ⟨⟨w, known⟩, he, hr⟩
    cases hr
    exact ⟨known, he, rfl⟩
  · rintro ⟨known, he, rfl⟩
    exact ⟨(v, known), he, rfl⟩

theorem holds_eq_ok {e : Expr} {s t : State} {b : Bool} :
    g.holds e s = .ok (b, t) ↔ ∃ v, g.evaluate e s = .ok (v, t) ∧ v.isTruthy = b := by
  unfold holds
  rw [bind_eq_ok]
  constructor
  · rintro ⟨⟨v, u⟩, he, hr⟩
    cases hr
    exact ⟨v, he, rfl⟩
  · rintro ⟨v, he, rfl⟩
    exact ⟨(v, t), he, rfl⟩

theorem checkFree_eq_ok {s : State} {b : Binding} :
    checkFree s b = .ok () ↔ s.scope.isBound b.name = false := by
  unfold checkFree
  split <;> simp_all

theorem define_eq_ok {name : Binding} {value : Expr} {s t : State} {text : String} :
    g.define name value s = .ok (text, t) ↔ s.scope.isBound name.name = false ∧
      ∃ v u, g.evaluate value s = .ok (v, u) ∧ text = "" ∧ t = u.define name.name v := by
  unfold define
  rw [bind_eq_ok]
  constructor
  · rintro ⟨⟨⟩, hfree, hr⟩
    obtain ⟨⟨v, u⟩, he, hr⟩ := bind_eq_ok.1 hr
    cases hr
    exact ⟨checkFree_eq_ok.1 hfree, v, u, he, rfl, rfl⟩
  · rintro ⟨hfree, v, u, he, rfl, rfl⟩
    exact ⟨(), checkFree_eq_ok.2 hfree, bind_eq_ok.2 ⟨(v, u), he, rfl⟩⟩

theorem joinLines_eq_ok {r : Except Error (List String × State)} {text : String} {t : State} :
    joinLines r = .ok (text, t) ↔
      ∃ texts, r = .ok (texts, t) ∧ text = Text.joinWith "\n" texts := by
  unfold joinLines
  rw [bind_eq_ok]
  constructor
  · rintro ⟨⟨texts, u⟩, he, hr⟩
    cases hr
    exact ⟨texts, he, rfl⟩
  · rintro ⟨texts, he, rfl⟩
    exact ⟨(texts, t), he, rfl⟩

/-! ### Relations between the states of a rendering -/

/-- The relation holds between the states before and behind every success. -/
def Within {α : Type} (R : State → State → Prop)
    (f : State → Except Error (α × State)) : Prop :=
  ∀ s x t, f s = .ok (x, t) → R s t

theorem Within.joinLines {R : State → State → Prop}
    {f : State → Except Error (List String × State)} (hf : Within R f) :
    Within R fun s => Engine.joinLines (f s) := by
  intro s text t ht
  obtain ⟨texts, ht, -⟩ := joinLines_eq_ok.1 ht
  exact hf s texts t ht

theorem Within.selected {R : State → State → Prop} {v : Value}
    {cases : List (Branch (List Literal) Block)}
    (hb : ∀ c ∈ cases, Within R (g.blocks c.body)) {s t : State} {text : String}
    (ht : g.selected v cases s = .ok (some (text, t))) : R s t := by
  induction cases with
  | nil => cases ht
  | cons c more ih =>
    obtain ⟨values, body, pos⟩ := c
    rw [Engine.selected] at ht
    obtain ⟨holds, -, ht⟩ := bind_eq_ok.1 ht
    cases holds with
    | false => exact ih (fun d hd => hb d (List.mem_cons_of_mem _ hd)) ht
    | true =>
      obtain ⟨⟨text', u⟩, hj, hr⟩ := bind_eq_ok.1 ht
      cases hr
      exact (hb _ List.mem_cons_self).joinLines s text t hj

/-- The relation follows all that a rendering does outside of loops, and every loop whose body it
follows. -/
structure Follows (g : Engine) (R : State → State → Prop) : Prop where
  refl (s : State) : R s s
  trans {s t u : State} : R s t → R t u → R s u
  evaluate (e : Expr) : Within R (g.evaluate e)
  define {s : State} {name : String} (v : Value) :
    s.scope.isBound name = false → R s (s.define name v)
  loop {body : State → Except Error (String × State)} (l : Loop) (items : List Value)
    {s t : State} {texts : List String} : Within R body →
    Engine.iterate body l s.loops 0 items { s with loops := s.loops + 1 } = .ok (texts, t) → R s t

namespace Follows

variable {R : State → State → Prop} (h : g.Follows R)

include h

theorem holds (e : Expr) : Within R (g.holds e) := by
  intro s b t ht
  obtain ⟨v, hv, -⟩ := holds_eq_ok.1 ht
  exact h.evaluate e s v t hv

theorem optional {body : Option (List Block)}
    (hb : ∀ bs ∈ body, Within R (g.blocks bs)) : Within R (g.optional body) := by
  intro s text t ht
  cases body with
  | none =>
    cases ht
    exact h.refl s
  | some bs => exact (hb bs rfl).joinLines s text t ht

theorem chosen {whens : List (Branch Expr Block)}
    (hb : ∀ w ∈ whens, Within R (g.blocks w.body)) : Within R (g.chosen whens) := by
  induction whens with
  | nil =>
    intro s text t ht
    cases ht
    exact h.refl s
  | cons w more ih =>
    intro s text t ht
    obtain ⟨test, body, pos⟩ := w
    rw [Engine.chosen] at ht
    obtain ⟨⟨holds, u⟩, hh, ht⟩ := bind_eq_ok.1 ht
    have hsu := h.holds test s holds u hh
    cases holds with
    | false =>
      have hut := ih (fun d hd => hb d (List.mem_cons_of_mem _ hd)) u text t ht
      exact h.trans hsu hut
    | true =>
      obtain ⟨⟨text', u'⟩, hj, hr⟩ := bind_eq_ok.1 ht
      cases hr
      exact h.trans hsu ((hb _ List.mem_cons_self).joinLines u text' t hj)

/-- Blocks and lists of blocks that succeed are followed. -/
theorem block_and_blocks :
    (∀ b, Within R (g.block b)) ∧ ∀ bs, Within R (g.blocks bs) := by
  refine Block.induction ?text ?condition ?switch ?choose ?loop ?guard ?check ?define ?nil ?cons
  case text =>
    intro content pos s text t ht
    rw [Engine.block, textLine] at ht
    split at ht
    · obtain ⟨text', -, hr⟩ := bind_eq_ok.1 ht
      cases hr
      exact h.refl s
    · cases ht
      exact h.refl s
  case condition =>
    intro test body otherwise pos hb ho s text t ht
    rw [Engine.block] at ht
    obtain ⟨⟨holds, u⟩, hh, ht⟩ := bind_eq_ok.1 ht
    have hsu := h.holds test s holds u hh
    cases holds with
    | true => exact h.trans hsu (hb.joinLines u text t ht)
    | false => exact h.trans hsu (h.optional ho u text t ht)
  case switch =>
    intro subject cases default pos hc hd s text t ht
    rw [Engine.block] at ht
    obtain ⟨v, -, ht⟩ := bind_eq_ok.1 ht
    obtain ⟨result, hs, ht⟩ := bind_eq_ok.1 ht
    cases result with
    | none => exact h.optional hd s text t ht
    | some r =>
      cases ht
      exact Within.selected hc hs
  case choose =>
    intro whens default pos hw hd s text t ht
    rw [Engine.block] at ht
    obtain ⟨⟨result, u⟩, hs, ht⟩ := bind_eq_ok.1 ht
    have hsu := h.chosen hw s result u hs
    cases result with
    | none => exact h.trans hsu (h.optional hd u text t ht)
    | some text' =>
      cases ht
      exact hsu
  case loop =>
    intro header body pos hb s text t ht
    rw [Engine.block] at ht
    obtain ⟨⟨⟩, -, ht⟩ := bind_eq_ok.1 ht
    obtain ⟨v, -, ht⟩ := bind_eq_ok.1 ht
    obtain ⟨⟨texts, u⟩, hi, hr⟩ := bind_eq_ok.1 ht
    cases hr
    exact h.loop header v.items (Within.joinLines hb) hi
  case guard =>
    intro test body message pos hb s text t ht
    rw [Engine.block] at ht
    obtain ⟨⟨holds, u⟩, hh, ht⟩ := bind_eq_ok.1 ht
    cases holds with
    | true => exact h.trans (h.holds test s true u hh) (hb.joinLines u text t ht)
    | false => cases ht
  case check =>
    intro test message pos s text t ht
    rw [Engine.block] at ht
    obtain ⟨⟨holds, u⟩, hh, ht⟩ := bind_eq_ok.1 ht
    cases holds with
    | true => cases ht
    | false =>
      cases ht
      exact h.holds test s false t hh
  case define =>
    intro name value pos s text t ht
    rw [Engine.block] at ht
    obtain ⟨hfree, v, u, he, -, rfl⟩ := define_eq_ok.1 ht
    obtain ⟨known, -, rfl⟩ := evaluate_eq_ok.1 he
    exact h.trans (h.evaluate value s v _ he) (h.define v hfree)
  case nil =>
    intro s texts t ht
    cases ht
    exact h.refl s
  case cons =>
    intro b more hb hm s texts t ht
    rw [Engine.blocks] at ht
    obtain ⟨⟨text, u⟩, hu, ht⟩ := bind_eq_ok.1 ht
    obtain ⟨⟨texts', t'⟩, ht', hr⟩ := bind_eq_ok.1 ht
    cases hr
    exact h.trans (hb s text u hu) (hm u texts' t ht')

end Follows

/-- The relation follows a rendering step by step. -/
structure Stepwise (g : Engine) (R : State → State → Prop) : Prop where
  refl (s : State) : R s s
  trans {s t u : State} : R s t → R t u → R s u
  evaluate (e : Expr) : Within R (g.evaluate e)
  define {s : State} {name : String} (v : Value) :
    s.scope.isBound name = false → R s (s.define name v)
  enter (s : State) : R s { s with loops := s.loops + 1 }
  iterate {s t : State} {frame : Iteration} :
    R { s with scope := s.scope.push frame } t → R s { t with scope := t.scope.pop }

namespace Stepwise

variable {R : State → State → Prop} (h : g.Stepwise R)

include h

theorem iterations {body : State → Except Error (String × State)} (hb : Within R body)
    (l : Loop) (occurrence : Nat) (items : List Value) (number : Nat) :
    Within R (Engine.iterate body l occurrence number items) := by
  induction items generalizing number with
  | nil =>
    intro s texts t ht
    cases ht
    exact h.refl s
  | cons item more ih =>
    intro s texts t ht
    rw [Engine.iterate] at ht
    obtain ⟨⟨text, u⟩, hu, ht⟩ := bind_eq_ok.1 ht
    obtain ⟨⟨texts', t'⟩, ht', hr⟩ := bind_eq_ok.1 ht
    cases hr
    exact h.trans (h.iterate (hb _ text u hu)) (ih (number + 1) _ texts' t ht')

theorem follows : g.Follows R where
  refl := h.refl
  trans := h.trans
  evaluate := h.evaluate
  define := h.define
  loop l items s t texts hb hi :=
    h.trans (h.enter s) (h.iterations hb l s.loops items 0 _ texts t hi)

theorem holds (e : Expr) : Within R (g.holds e) := h.follows.holds e

theorem block_and_blocks :
    (∀ b, Within R (g.block b)) ∧ ∀ bs, Within R (g.blocks bs) := h.follows.block_and_blocks

end Stepwise

end Engine

/-! ### Visits -/

/-- What a rendering can be at work on. -/
inductive Task where
  | block (b : Block)
  | blocks (bs : List Block)
  | optional (body : Option (List Block))
  | cases (v : Value) (branches : List (Branch (List Literal) Block))
  | whens (branches : List (Branch Expr Block))
  | iterations (body : List Block) (header : Loop) (occurrence number : Nat) (items : List Value)

/-- The task succeeds when it begins in `s`, and leaves `t` behind. -/
def Task.Ends (g : Engine) (s t : State) : Task → Prop
  | .block b => ∃ text, g.block b s = .ok (text, t)
  | .blocks bs => ∃ texts, g.blocks bs s = .ok (texts, t)
  | .optional body => ∃ text, g.optional body s = .ok (text, t)
  | .cases v branches => ∃ text, g.selected v branches s = .ok (some (text, t))
  | .whens branches => ∃ text, g.chosen branches s = .ok (text, t)
  | .iterations body header occurrence number items =>
    ∃ texts, Engine.iterate (fun s => Engine.joinLines (g.blocks body s)) header occurrence
      number items s = .ok (texts, t)

namespace Engine

/-- The first task, in the first state, begins the second task in the second state. -/
inductive Enters (g : Engine) : Task → State → Task → State → Prop
  | consequence {test : Expr} {body : List Block} {otherwise : Option (List Block)}
      {pos : Position} {s t : State} : g.holds test s = .ok (true, t) →
      Enters g (.block (.condition test body otherwise pos)) s (.blocks body) t
  | alternative {test : Expr} {body : List Block} {otherwise : Option (List Block)}
      {pos : Position} {s t : State} : g.holds test s = .ok (false, t) →
      Enters g (.block (.condition test body otherwise pos)) s (.optional otherwise) t
  | switch {subject : Operand} {cases : List (Branch (List Literal) Block)}
      {default : Option (List Block)} {pos : Position} {s : State} {v : Value} :
      g.operand s.scope subject = .ok v →
      Enters g (.block (.switch subject cases default pos)) s (.cases v cases) s
  | switchDefault {subject : Operand} {cases : List (Branch (List Literal) Block)}
      {default : Option (List Block)} {pos : Position} {s : State} {v : Value} :
      g.operand s.scope subject = .ok v → g.selected v cases s = .ok none →
      Enters g (.block (.switch subject cases default pos)) s (.optional default) s
  | choose {whens : List (Branch Expr Block)} {default : Option (List Block)} {pos : Position}
      {s : State} : Enters g (.block (.choose whens default pos)) s (.whens whens) s
  | chooseDefault {whens : List (Branch Expr Block)} {default : Option (List Block)}
      {pos : Position} {s t : State} : g.chosen whens s = .ok (none, t) →
      Enters g (.block (.choose whens default pos)) s (.optional default) t
  | loop {header : Loop} {body : List Block} {pos : Position} {s : State} {v : Value} :
      checkLoop { s with loops := s.loops + 1 } header = .ok () →
      g.operand s.scope header.source = .ok v →
      Enters g (.block (.loop header body pos)) s (.iterations body header s.loops 0 v.items)
        { s with loops := s.loops + 1 }
  | guard {test : Expr} {body : List Block} {message : Option String} {pos : Position}
      {s t : State} : g.holds test s = .ok (true, t) →
      Enters g (.block (.guard test body message pos)) s (.blocks body) t
  | head {b : Block} {more : List Block} {s : State} :
      Enters g (.blocks (b :: more)) s (.block b) s
  | tail {b : Block} {more : List Block} {s t : State} {text : String} :
      g.block b s = .ok (text, t) → Enters g (.blocks (b :: more)) s (.blocks more) t
  | optional {body : List Block} {s : State} :
      Enters g (.optional (some body)) s (.blocks body) s
  | case {v : Value} {values : List Literal} {body : List Block} {pos : Position}
      {more : List (Branch (List Literal) Block)} {s : State} :
      Literal.anyEq v values = .ok true →
      Enters g (.cases v (⟨values, body, pos⟩ :: more)) s (.blocks body) s
  | laterCase {v : Value} {values : List Literal} {body : List Block} {pos : Position}
      {more : List (Branch (List Literal) Block)} {s : State} :
      Literal.anyEq v values = .ok false →
      Enters g (.cases v (⟨values, body, pos⟩ :: more)) s (.cases v more) s
  | when {test : Expr} {body : List Block} {pos : Position} {more : List (Branch Expr Block)}
      {s t : State} : g.holds test s = .ok (true, t) →
      Enters g (.whens (⟨test, body, pos⟩ :: more)) s (.blocks body) t
  | laterWhen {test : Expr} {body : List Block} {pos : Position}
      {more : List (Branch Expr Block)} {s t : State} : g.holds test s = .ok (false, t) →
      Enters g (.whens (⟨test, body, pos⟩ :: more)) s (.whens more) t
  | iteration {body : List Block} {header : Loop} {occurrence number : Nat} {item : Value}
      {more : List Value} {s : State} :
      Enters g (.iterations body header occurrence number (item :: more)) s (.blocks body)
        { s with scope := s.scope.push (Engine.iteration header occurrence number item) }
  | laterIteration {body : List Block} {header : Loop} {occurrence number : Nat} {item : Value}
      {more : List Value} {s t : State} {texts : List String} :
      g.blocks body
        { s with scope := s.scope.push (Engine.iteration header occurrence number item) }
        = .ok (texts, t) →
      Enters g (.iterations body header occurrence number (item :: more)) s
        (.iterations body header occurrence (number + 1) more) { t with scope := t.scope.pop }

/-- The first task, in the first state, leads to the second task in the second state. -/
inductive Reaches (g : Engine) (task : Task) (s : State) : Task → State → Prop
  | start : Reaches g task s task s
  | step {a b : Task} {u v : State} :
      Reaches g task s a u → Enters g a u b v → Reaches g task s b v

/-- A stepwise relation holds between the states before and behind a task. -/
theorem Stepwise.ends {g : Engine} {R : State → State → Prop} (h : g.Stepwise R) (task : Task)
    {s t : State} (ht : task.Ends g s t) : R s t := by
  have hb := h.block_and_blocks
  cases task with
  | block b =>
    obtain ⟨text, ht⟩ := ht
    exact hb.1 b s text t ht
  | blocks bs =>
    obtain ⟨texts, ht⟩ := ht
    exact hb.2 bs s texts t ht
  | optional body =>
    obtain ⟨text, ht⟩ := ht
    exact h.follows.optional (fun bs _ => hb.2 bs) s text t ht
  | cases v branches =>
    obtain ⟨text, ht⟩ := ht
    exact Within.selected (fun c _ => hb.2 c.body) ht
  | whens branches =>
    obtain ⟨text, ht⟩ := ht
    exact h.follows.chosen (fun w _ => hb.2 w.body) s text t ht
  | iterations body header occurrence number items =>
    obtain ⟨texts, ht⟩ := ht
    exact h.iterations (hb.2 body).joinLines header occurrence items number s texts t ht

end Engine

end LineTemplate
