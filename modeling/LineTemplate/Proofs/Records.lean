import LineTemplate.Proofs.Bindings
import LineTemplate.Proofs.Log
import LineTemplate.Proofs.Union

/-!
# Records of definitions

No definition made inside a loop is lost or overwritten. The key of such a definition has the
number of the innermost loop around and that of its iteration. The loops around have numbers that
descend outwards, all of them below the number of the next loop, and what is recorded under the
number of one of them comes from an earlier iteration or is bound in this one. So a name that is
free has no record in the iteration, and the state of a rendering has the records of all events in
its log, and only these.
-/

namespace LineTemplate

namespace State

/-- The records are under numbers of loops that have been entered, and for each of the loops around
they are those of its earlier iterations and of names that are bound in this one. -/
structure Tidy (s : State) : Prop where
  keys : ∀ key ∈ s.loopVars.keys, key.occurrence < s.loops
  below : ∀ f ∈ s.scope.frames, f.occurrence < s.loops
  descending : s.scope.frames.Pairwise fun f outer => outer.occurrence < f.occurrence
  current : ∀ f ∈ s.scope.frames, ∀ key ∈ s.loopVars.keys, key.occurrence = f.occurrence →
    key.iteration < f.number ∨ key.iteration = f.number ∧ key.name ∈ f.vars.names
  distinct : s.loopVars.keys.Nodup
  names : s.scope.defined.names.Nodup

/-- The loop with the number `occurrence` runs in the innermost one around, and nothing is recorded
for its iterations from `number` on. -/
structure Awaits (s : State) (occurrence number : Nat) : Prop where
  entered : occurrence < s.loops
  inside : ∀ f ∈ s.scope.frames, f.occurrence < occurrence
  fresh : ∀ key ∈ s.loopVars.keys, key.occurrence = occurrence → key.iteration < number

theorem tidy_start (context : Fields Value) : (start context).Tidy where
  keys _ h := nomatch h
  below _ h := nomatch h
  descending := .nil
  current _ h := nomatch h
  distinct := .nil
  names := .nil

theorem notMem_defined {s : State} {name : String}
    (hfree : s.scope.isBound name = false) : name ∉ s.scope.defined.names := by
  have hlayer : s.scope.defined ∈ s.scope.layers := by simp [Scope.layers]
  exact Scope.isBound_eq_false.1 hfree _ hlayer

namespace Tidy

variable {s t : State} (h : s.Tidy)

include h

theorem patterns (known : Pattern.Known) : Tidy { s with patterns := known } :=
  { h with }

theorem enter : Tidy { s with loops := s.loops + 1 } :=
  { h with
    keys := fun key hk => Nat.lt_succ_of_lt (h.keys key hk)
    below := fun f hf => Nat.lt_succ_of_lt (h.below f hf) }

theorem awaits : Awaits { s with loops := s.loops + 1 } s.loops 0 where
  entered := Nat.lt_succ_self s.loops
  inside := h.below
  fresh key hk ho := absurd ho (Nat.ne_of_lt (h.keys key hk))

theorem push {occurrence number : Nat} (ha : s.Awaits occurrence number) (l : Loop) (item : Value) :
    Tidy { s with scope := s.scope.push (Engine.iteration l occurrence number item) } :=
  { h with
    below := List.forall_mem_cons.2 ⟨ha.entered, h.below⟩
    descending := List.pairwise_cons.2 ⟨ha.inside, h.descending⟩
    current := List.forall_mem_cons.2 ⟨fun key hk ho => .inl (ha.fresh key hk ho), h.current⟩ }

theorem pop : Tidy { s with scope := s.scope.pop } :=
  { h with
    below := fun f hf => h.below f (List.mem_of_mem_tail hf)
    descending := h.descending.sublist (List.tail_sublist _)
    current := fun f hf => h.current f (List.mem_of_mem_tail hf) }

/-- A definition that a name is free for has no record yet. -/
theorem notMem_keys {f : Iteration} {outer : List Iteration} (hf : s.scope.frames = f :: outer)
    {name : String} (hfree : s.scope.isBound name = false) :
    ⟨name, f.occurrence, f.number⟩ ∉ s.loopVars.keys := by
  intro hk
  have hmem : f ∈ s.scope.frames := by
    rw [hf]
    exact List.mem_cons_self
  rcases h.current f hmem _ hk rfl with hlt | ⟨-, hname⟩
  · exact Nat.lt_irrefl _ hlt
  · have hlayer : f.vars ∈ s.scope.layers := by simp [Scope.layers, hf]
    exact Scope.isBound_eq_false.1 hfree _ hlayer hname

theorem define {name : String} (hfree : s.scope.isBound name = false) (v : Value) :
    (s.define name v).Tidy := by
  cases hf : s.scope.frames with
  | nil =>
    rw [define_outside hf]
    have hnew := notMem_defined hfree
    have hperm := (Fields.set_perm hnew v).map (·.1)
    exact { h with names := hperm.nodup_iff.2 (List.nodup_cons.2 ⟨hnew, h.names⟩) }
  | cons f outer =>
    have hnew := h.notMem_keys hf hfree
    have hbelow := h.below
    have hdescending := h.descending
    have hcurrent := h.current
    rw [hf] at hbelow hdescending hcurrent
    obtain ⟨hfirst, hbelow⟩ := List.forall_mem_cons.1 hbelow
    obtain ⟨hlower, hdescending⟩ := List.pairwise_cons.1 hdescending
    obtain ⟨hcurrent, hothers⟩ := List.forall_mem_cons.1 hcurrent
    rw [define_inside hf]
    refine { h with
      keys := fun key hk => ?_
      below := List.forall_mem_cons.2 ⟨hfirst, hbelow⟩
      descending := List.pairwise_cons.2 ⟨hlower, hdescending⟩
      current := List.forall_mem_cons.2 ⟨fun key hk ho => ?_, fun o ho key hk hkey => ?_⟩
      distinct := ?_ }
    · rcases LoopVars.mem_keys_set hk with rfl | hk
      · exact hfirst
      · exact h.keys key hk
    · rcases LoopVars.mem_keys_set hk with rfl | hk
      · exact .inr ⟨rfl, Fields.mem_names_set.2 (.inl rfl)⟩
      · exact (hcurrent key hk ho).imp_right fun hn => ⟨hn.1, Fields.mem_names_set.2 (.inr hn.2)⟩
    · -- the new key is under the innermost loop, and the ones around have lower numbers
      rcases LoopVars.mem_keys_set hk with rfl | hk
      · exact absurd hkey (Nat.ne_of_gt (hlower o ho))
      · exact hothers o ho key hk hkey
    · have hperm := (LoopVars.set_perm hnew v).map (·.1)
      exact hperm.nodup_iff.2 (List.nodup_cons.2 ⟨hnew, h.distinct⟩)

end Tidy

/-! ### What events add -/

/-- The state `t` has what `s` has and what the events record, and nothing else. -/
structure Adds (es : List Event) (s t : State) : Prop where
  tidy : t.Tidy
  entered : List.range s.loops ++ es.filterMap Event.entered? = List.range t.loops
  recorded : t.loopVars.Perm (s.loopVars ++ es.filterMap Event.recorded?)
  defined : t.scope.defined.Perm (s.scope.defined ++ es.filterMap Event.defined?)

namespace Adds

variable {es fs : List Event} {s t u : State}

theorem nil (ht : t.Tidy) (hl : t.loops = s.loops) (hv : t.loopVars = s.loopVars)
    (hd : t.scope.defined = s.scope.defined) : Adds [] s t where
  tidy := ht
  entered := by rw [hl]; exact List.append_nil _
  recorded := by rw [hv]; exact .of_eq (List.append_nil _).symm
  defined := by rw [hd]; exact .of_eq (List.append_nil _).symm

theorem trans (h : Adds es s t) (h' : Adds fs t u) : Adds (es ++ fs) s u where
  tidy := h'.tidy
  entered := by rw [List.filterMap_append, ← List.append_assoc, h.entered, h'.entered]
  recorded := by
    rw [List.filterMap_append, ← List.append_assoc]
    exact h'.recorded.trans (h.recorded.append_right _)
  defined := by
    rw [List.filterMap_append, ← List.append_assoc]
    exact h'.defined.trans (h.defined.append_right _)

theorem loops_le (h : Adds es s t) : s.loops ≤ t.loops := by
  have hlength := congrArg List.length h.entered
  rw [List.length_append, List.length_range, List.length_range] at hlength
  omega

theorem enter (hs : s.Tidy) : Adds [.enter s.loops] s { s with loops := s.loops + 1 } where
  tidy := hs.enter
  entered := List.range_succ.symm
  recorded := .of_eq (List.append_nil _).symm
  defined := .of_eq (List.append_nil _).symm

theorem define (hs : s.Tidy) {name : String} (hfree : s.scope.isBound name = false) (v : Value) :
    Adds [.define name v s.scope.frames] s (s.define name v) := by
  have htidy := hs.define hfree v
  cases hf : s.scope.frames with
  | nil =>
    have hnew := notMem_defined hfree
    rw [define_outside hf] at htidy ⊢
    exact ⟨htidy, List.append_nil _, .of_eq (List.append_nil _).symm,
      (Fields.set_perm hnew v).trans (List.perm_append_singleton _ _).symm⟩
  | cons f outer =>
    have hnew := hs.notMem_keys hf hfree
    rw [define_inside hf] at htidy ⊢
    exact ⟨htidy, List.append_nil _,
      (LoopVars.set_perm hnew v).trans (List.perm_append_singleton _ _).symm,
      .of_eq (List.append_nil _).symm⟩

end Adds

/-- The events from the start of a rendering on are what the state has records of. -/
structure Accounts (es : List Event) (s : State) : Prop where
  /-- The loop that was entered after `k` others has the number `k`. -/
  entered : es.filterMap Event.entered? = List.range s.loops
  recorded : s.loopVars.Perm (es.filterMap Event.recorded?)
  defined : s.scope.defined.Perm (es.filterMap Event.defined?)
  below : ∀ key ∈ s.loopVars.keys, key.occurrence < s.loops
  distinct : s.loopVars.keys.Nodup
  names : s.scope.defined.names.Nodup

theorem Adds.accounts {es : List Event} {context : Fields Value} {s : State}
    (h : Adds es (start context) s) : Accounts es s where
  entered := h.entered
  recorded := h.recorded
  defined := h.defined
  below := h.tidy.keys
  distinct := h.tidy.distinct
  names := h.tidy.names

end State

def Task.Orderly (s : State) : Task → Prop
  | .iterations _ _ occurrence number _ => s.Awaits occurrence number
  | _ => True

namespace Engine

open State (Adds Accounts)

variable {g : Engine}

theorem adds_evaluate {e : Expr} {s t : State} {v : Value} (hs : s.Tidy)
    (h : g.evaluate e s = .ok (v, t)) : Adds [] s t := by
  obtain ⟨known, -, rfl⟩ := evaluate_eq_ok.1 h
  exact .nil (hs.patterns known) rfl rfl rfl

theorem adds_holds {e : Expr} {s t : State} {b : Bool} (hs : s.Tidy)
    (h : g.holds e s = .ok (b, t)) : Adds [] s t := by
  obtain ⟨v, hv, -⟩ := holds_eq_ok.1 h
  exact adds_evaluate hs hv

/-- Where this succeeds, its log has what it adds. -/
def Logs {α : Type} (f : State → Except Error (α × State)) (log : State → List Event) : Prop :=
  ∀ s x t, s.Tidy → f s = .ok (x, t) → Adds (log s) s t

theorem Logs.joinLines {f : State → Except Error (List String × State)}
    {log : State → List Event} (hf : Logs f log) : Logs (fun s => Engine.joinLines (f s)) log := by
  intro s text t hs ht
  obtain ⟨texts, ht, -⟩ := joinLines_eq_ok.1 ht
  exact hf s texts t hs ht

/-! ### Loops -/

theorem frames_of_push {s t : State} {f : Iteration} (h : (s.scope.push f).Grows t.scope) :
    ∃ vars, t.scope.frames = { f with vars } :: s.scope.frames := by
  obtain ⟨-, -, vars, hframes, -⟩ := h
  exact ⟨vars, hframes⟩

/-- One iteration, from the state before it to the state that the next one begins in. -/
theorem adds_iteration {α : Type} {body : State → Except Error (α × State)}
    {events : State → List Event}
    (hb : Logs body events) (hg : Within (fun s t => s.scope.Grows t.scope) body) {l : Loop}
    {occurrence number : Nat} {item : Value} {s t : State} {x : α} (hs : s.Tidy)
    (ha : s.Awaits occurrence number)
    (h : body { s with scope := s.scope.push (iteration l occurrence number item) } = .ok (x, t)) :
    Adds (events { s with scope := s.scope.push (iteration l occurrence number item) }) s
        { t with scope := t.scope.pop } ∧
      State.Awaits { t with scope := t.scope.pop } occurrence (number + 1) := by
  have hgrows := hg _ x t h
  have hpop := Scope.Grows.pop_push hgrows
  obtain ⟨vars, hframes⟩ := frames_of_push hgrows
  have hadds := hb _ x t (hs.push ha l item) h
  have hle := hadds.loops_le
  constructor
  · exact ⟨hadds.tidy.pop, hadds.entered, hadds.recorded, hadds.defined⟩
  · refine ⟨Nat.lt_of_lt_of_le ha.entered hle, ?_, fun key hk ho => ?_⟩
    · rw [hpop]
      exact ha.inside
    · -- what is recorded for the loop is current in the iteration that is left here
      have hmem : { iteration l occurrence number item with vars } ∈ t.scope.frames := by
        rw [hframes]
        exact List.mem_cons_self
      rcases hadds.tidy.current _ hmem key hk ho with hlt | ⟨he, -⟩
      · exact Nat.lt_succ_of_lt hlt
      · exact Nat.lt_succ_of_le (Nat.le_of_eq he)

theorem adds_iterate {body : State → Except Error (String × State)} {events : State → List Event}
    (hb : Logs body events) (hg : Within (fun s t => s.scope.Grows t.scope) body) {l : Loop}
    {occurrence number : Nat} {items : List Value} {s t : State} {texts : List String}
    (hs : s.Tidy) (ha : s.Awaits occurrence number)
    (h : iterate body l occurrence number items s = .ok (texts, t)) :
    Adds (iterateLog body events l occurrence number items s) s t := by
  induction items generalizing number s texts with
  | nil =>
    cases h
    exact .nil hs rfl rfl rfl
  | cons item more ih =>
    rw [iterate] at h
    obtain ⟨⟨text, u⟩, hu, h⟩ := bind_eq_ok.1 h
    obtain ⟨⟨texts', t'⟩, ht', hr⟩ := bind_eq_ok.1 h
    cases hr
    obtain ⟨hadds, hnext⟩ := adds_iteration hb hg hs ha hu
    simp only [iterateLog, hu]
    exact hadds.trans (ih hadds.tidy hnext ht')

/-! ### Selections -/

theorem logs_optional {body : Option (List Block)}
    (hb : ∀ bs ∈ body, Logs (g.blocks bs) (g.blocksLog bs)) :
    Logs (g.optional body) (g.optionalLog body) := by
  intro s text t hs ht
  cases body with
  | none =>
    cases ht
    exact .nil hs rfl rfl rfl
  | some bs => exact (hb bs rfl).joinLines s text t hs ht

theorem adds_selected {v : Value} {cases : List (Branch (List Literal) Block)}
    (hb : ∀ c ∈ cases, Logs (g.blocks c.body) (g.blocksLog c.body)) {s t : State} {text : String}
    (hs : s.Tidy) (h : g.selected v cases s = .ok (some (text, t))) :
    Adds (g.casesLog v cases s) s t := by
  induction cases with
  | nil => cases h
  | cons c more ih =>
    obtain ⟨values, body, pos⟩ := c
    rw [selected] at h
    obtain ⟨holds, hv, h⟩ := bind_eq_ok.1 h
    cases holds with
    | false =>
      simp only [casesLog, hv]
      exact ih (fun d hd => hb d (List.mem_cons_of_mem _ hd)) h
    | true =>
      obtain ⟨⟨text', u⟩, hj, hr⟩ := bind_eq_ok.1 h
      cases hr
      simp only [casesLog, hv]
      exact (hb _ List.mem_cons_self).joinLines s text t hs hj

theorem casesLog_of_none {v : Value} {cases : List (Branch (List Literal) Block)} {s : State}
    (h : g.selected v cases s = .ok none) : g.casesLog v cases s = [] := by
  induction cases with
  | nil => rfl
  | cons c more ih =>
    obtain ⟨values, body, pos⟩ := c
    rw [selected] at h
    obtain ⟨holds, hv, h⟩ := bind_eq_ok.1 h
    cases holds with
    | false =>
      simp only [casesLog, hv]
      exact ih h
    | true =>
      obtain ⟨_, _, hr⟩ := bind_eq_ok.1 h
      cases hr

theorem logs_chosen {whens : List (Branch Expr Block)}
    (hb : ∀ w ∈ whens, Logs (g.blocks w.body) (g.blocksLog w.body)) :
    Logs (g.chosen whens) (g.whensLog whens) := by
  induction whens with
  | nil =>
    intro s result t hs ht
    cases ht
    exact .nil hs rfl rfl rfl
  | cons w more ih =>
    intro s result t hs ht
    obtain ⟨test, body, pos⟩ := w
    rw [chosen] at ht
    obtain ⟨⟨holds, u⟩, hh, ht⟩ := bind_eq_ok.1 ht
    have hu := adds_holds hs hh
    cases holds with
    | false =>
      simp only [whensLog, hh]
      exact hu.trans (ih (fun d hd => hb d (List.mem_cons_of_mem _ hd)) u result t hu.tidy ht)
    | true =>
      obtain ⟨⟨text', u'⟩, hj, hr⟩ := bind_eq_ok.1 ht
      cases hr
      simp only [whensLog, hh]
      exact hu.trans ((hb _ List.mem_cons_self).joinLines u text' t hu.tidy hj)

/-! ### Blocks -/

theorem logs_blocks :
    (∀ b, Logs (g.block b) (g.blockLog b)) ∧ ∀ bs, Logs (g.blocks bs) (g.blocksLog bs) := by
  refine Block.induction ?text ?condition ?switch ?choose ?loop ?guard ?check ?define ?nil ?cons
  case text =>
    intro content pos s text t hs ht
    rw [block, textLine] at ht
    rw [blockLog]
    split at ht
    · obtain ⟨text', -, hr⟩ := bind_eq_ok.1 ht
      cases hr
      exact .nil hs rfl rfl rfl
    · cases ht
      exact .nil hs rfl rfl rfl
  case condition =>
    intro test body otherwise pos hb ho s text t hs ht
    rw [block] at ht
    obtain ⟨⟨holds, u⟩, hh, ht⟩ := bind_eq_ok.1 ht
    have hu := adds_holds hs hh
    simp only [blockLog, hh]
    cases holds with
    | true => exact hu.trans (hb.joinLines u text t hu.tidy ht)
    | false => exact hu.trans (logs_optional ho u text t hu.tidy ht)
  case switch =>
    intro subject cases default pos hc hd s text t hs ht
    rw [block] at ht
    obtain ⟨v, hv, ht⟩ := bind_eq_ok.1 ht
    obtain ⟨result, hr, ht⟩ := bind_eq_ok.1 ht
    simp only [blockLog, hv, hr]
    cases result with
    | none =>
      rw [casesLog_of_none hr]
      exact logs_optional hd s text t hs ht
    | some r =>
      cases ht
      simp only [List.append_nil]
      exact adds_selected hc hs hr
  case choose =>
    intro whens default pos hw hd s text t hs ht
    rw [block] at ht
    obtain ⟨⟨result, u⟩, hr, ht⟩ := bind_eq_ok.1 ht
    have hu := logs_chosen hw s result u hs hr
    simp only [blockLog, hr]
    cases result with
    | none => exact hu.trans (logs_optional hd u text t hu.tidy ht)
    | some text' =>
      cases ht
      simp only [List.append_nil]
      exact hu
  case loop =>
    intro header body pos hb s text t hs ht
    rw [block] at ht
    obtain ⟨⟨⟩, hfree, ht⟩ := bind_eq_ok.1 ht
    obtain ⟨v, hv, ht⟩ := bind_eq_ok.1 ht
    obtain ⟨⟨texts, u⟩, hi, hr⟩ := bind_eq_ok.1 ht
    cases hr
    have hgrows := Within.joinLines (stepwise_grows (g := g).block_and_blocks.2 body)
    have hrest := adds_iterate hb.joinLines hgrows hs.enter hs.awaits hi
    simp only [blockLog, hfree, hv]
    exact (Adds.enter hs).trans hrest
  case guard =>
    intro test body message pos hb s text t hs ht
    rw [block] at ht
    obtain ⟨⟨holds, u⟩, hh, ht⟩ := bind_eq_ok.1 ht
    have hu := adds_holds hs hh
    simp only [blockLog, hh]
    cases holds with
    | true => exact hu.trans (hb.joinLines u text t hu.tidy ht)
    | false => cases ht
  case check =>
    intro test message pos s text t hs ht
    rw [block] at ht
    obtain ⟨⟨holds, u⟩, hh, ht⟩ := bind_eq_ok.1 ht
    cases holds with
    | true => cases ht
    | false =>
      cases ht
      exact adds_holds hs hh
  case define =>
    intro name value pos s text t hs ht
    rw [block] at ht
    obtain ⟨hfree, v, u, he, -, rfl⟩ := define_eq_ok.1 ht
    have hu := adds_evaluate hs he
    obtain ⟨known, -, rfl⟩ := evaluate_eq_ok.1 he
    simp only [blockLog, checkFree_eq_ok.2 hfree, he]
    exact hu.trans (.define hu.tidy hfree v)
  case nil =>
    intro s texts t hs ht
    cases ht
    exact .nil hs rfl rfl rfl
  case cons =>
    intro b more hb hm s texts t hs ht
    rw [blocks] at ht
    obtain ⟨⟨text, u⟩, hu, ht⟩ := bind_eq_ok.1 ht
    obtain ⟨⟨texts', t'⟩, ht', hr⟩ := bind_eq_ok.1 ht
    cases hr
    have hadds := hb s text u hs hu
    simp only [blocksLog, hu]
    exact hadds.trans (hm u texts' t hadds.tidy ht')

/-! ### Tasks -/

theorem adds_of_ends {task : Task} {s t : State} (hs : s.Tidy) (h : task.Ends g s t)
    (ho : task.Orderly s) : Adds (task.log g s) s t := by
  have hb := logs_blocks (g := g)
  cases task with
  | block b =>
    obtain ⟨text, h⟩ := h
    exact hb.1 b s text t hs h
  | blocks bs =>
    obtain ⟨texts, h⟩ := h
    exact hb.2 bs s texts t hs h
  | optional body =>
    obtain ⟨text, h⟩ := h
    exact logs_optional (fun bs _ => hb.2 bs) s text t hs h
  | cases v branches =>
    obtain ⟨text, h⟩ := h
    exact adds_selected (fun c _ => hb.2 c.body) hs h
  | whens branches =>
    obtain ⟨text, h⟩ := h
    exact logs_chosen (fun w _ => hb.2 w.body) s text t hs h
  | iterations body header occurrence number items =>
    obtain ⟨texts, h⟩ := h
    have hgrows := Within.joinLines (stepwise_grows (g := g).block_and_blocks.2 body)
    exact adds_iterate (hb.2 body).joinLines hgrows hs ho h

/-- A task begins with another one what the events before it have added; the events of the other
task are the next ones in its log. -/
theorem Enters.adds {task inner : Task} {s t : State} (h : g.Enters task s inner t)
    (hs : s.Tidy) (ho : task.Orderly s) :
    inner.Orderly t ∧ ∃ es, es ++ inner.log g t <+: task.log g s ∧ Adds es s t := by
  have hsame : ∀ {inner : Task}, inner.Orderly s → inner.log g s <+: task.log g s →
      inner.Orderly s ∧ ∃ es, es ++ inner.log g s <+: task.log g s ∧ Adds es s s :=
    fun hi hp => ⟨hi, [], hp, .nil hs rfl rfl rfl⟩
  cases h with
  | consequence ht | alternative ht | guard ht =>
    refine ⟨trivial, [], ?_, adds_holds hs ht⟩
    simp only [Task.log, blockLog, ht]
    exact List.prefix_rfl
  | when ht | laterWhen ht =>
    refine ⟨trivial, [], ?_, adds_holds hs ht⟩
    simp only [Task.log, whensLog, ht]
    exact List.prefix_rfl
  | switch hv =>
    refine hsame trivial ?_
    simp only [Task.log, blockLog, hv]
    exact List.prefix_append _ _
  | switchDefault hv hn =>
    refine hsame trivial ?_
    simp only [Task.log, blockLog, hv, hn, casesLog_of_none hn]
    exact List.prefix_rfl
  | choose =>
    refine hsame trivial ?_
    simp only [Task.log, blockLog]
    exact List.prefix_append _ _
  | chooseDefault hn =>
    have hends : (Task.whens _).Ends g s t := ⟨none, hn⟩
    refine ⟨trivial, _, ?_, adds_of_ends hs hends trivial⟩
    simp only [Task.log, blockLog, hn]
    exact List.prefix_rfl
  | loop hfree hv =>
    refine ⟨hs.awaits, _, ?_, .enter hs⟩
    simp only [Task.log, blockLog, hfree, hv]
    exact List.prefix_rfl
  | head =>
    refine hsame trivial ?_
    simp only [Task.log, blocksLog]
    exact List.prefix_append _ _
  | tail ht =>
    have hends : (Task.block _).Ends g s t := ⟨_, ht⟩
    refine ⟨trivial, _, ?_, adds_of_ends hs hends trivial⟩
    simp only [Task.log, blocksLog, ht]
    exact List.prefix_rfl
  | optional => exact hsame trivial List.prefix_rfl
  | case hv | laterCase hv =>
    refine hsame trivial ?_
    simp only [Task.log, casesLog, hv]
    exact List.prefix_rfl
  | iteration =>
    refine ⟨trivial, [], ?_, .nil (hs.push ho _ _) rfl rfl rfl⟩
    simp only [Task.log, iterateLog]
    exact List.prefix_append _ _
  | @laterIteration body header occurrence number item more _ u texts hu =>
    obtain ⟨hadds, hnext⟩ := adds_iteration (logs_blocks.2 body)
      (stepwise_grows.block_and_blocks.2 body) hs ho hu
    have hjoin := joinLines_eq_ok.2 ⟨texts, hu, rfl⟩
    refine ⟨hnext, _, ?_, hadds⟩
    simp only [Task.log, iterateLog, hjoin]
    exact List.prefix_rfl

theorem Reaches.adds {task inner : Task} {s t : State} (h : g.Reaches task s inner t)
    (hs : s.Tidy) (ho : task.Orderly s) :
    inner.Orderly t ∧ ∃ es, es ++ inner.log g t <+: task.log g s ∧ Adds es s t := by
  induction h with
  | start => exact ⟨ho, [], List.prefix_rfl, .nil hs rfl rfl rfl⟩
  | step _ he ih =>
    obtain ⟨ho', es, hp, hadds⟩ := ih
    obtain ⟨hi, fs, hp', hadds'⟩ := he.adds hadds.tidy ho'
    refine ⟨hi, es ++ fs, ?_, hadds.trans hadds'⟩
    rw [List.append_assoc]
    exact ((List.prefix_append_right_inj es).2 hp').trans hp

/-- Every state that a rendering comes to has exactly the records of the events before it, and a
definition that is executed there inside a loop has no record yet; so a rendering that succeeds
ends with one record for each definition executed inside a loop, and with one definition for each
that was executed outside of loops. -/
theorem renderBlocks_records (g : Engine) (template : List Block) (context : Fields Value) :
    (∀ task s, g.Reaches (.blocks template) (.start context) task s →
      ∃ es, es ++ task.log g s <+: g.blocksLog template (.start context) ∧ Accounts es s ∧
        (∀ t, task.Ends g s t → Accounts (es ++ task.log g s) t) ∧
        (∀ header body pos inner t, task = .block (.loop header body pos) →
          g.Enters task s inner t →
          ∃ items, inner = .iterations body header (es.filterMap Event.entered?).length 0 items) ∧
        ∀ name value pos text t f outer, task = .block (.define name value pos) →
          g.define name value s = .ok (text, t) → s.scope.frames = f :: outer →
          ⟨name.name, f.occurrence, f.number⟩ ∉ s.loopVars.keys) ∧
    ∀ r, g.renderBlocks template context = .ok r →
      r.loopVars.Perm
          ((g.blocksLog template (.start context)).filterMap Event.recorded?) ∧
        r.loopVars.keys.Nodup ∧
        r.defined.Perm ((g.blocksLog template (.start context)).filterMap Event.defined?) ∧
        r.defined.names.Nodup := by
  have hstart := State.tidy_start context
  constructor
  · intro task s h
    obtain ⟨ho, es, hp, hadds⟩ := h.adds hstart trivial
    refine ⟨es, hp, hadds.accounts, fun t ht => ?_, ?_, ?_⟩
    · exact (hadds.trans (adds_of_ends hadds.tidy ht ho)).accounts
    · rintro header body pos inner t rfl he
      rw [hadds.accounts.entered, List.length_range]
      cases he with
      | loop => exact ⟨_, rfl⟩
    · rintro name value pos text t f outer - hd hf
      exact hadds.tidy.notMem_keys hf (define_eq_ok.1 hd).1
  · intro r hr
    obtain ⟨⟨output, s⟩, hj, hr⟩ := bind_eq_ok.1 hr
    obtain ⟨texts, hs, -⟩ := joinLines_eq_ok.1 hj
    cases hr
    have haccounts := (logs_blocks.2 template _ texts s hstart hs).accounts
    exact ⟨haccounts.recorded, haccounts.distinct, haccounts.defined, haccounts.names⟩

/-- A loop inside of one is entered again in every iteration. -/
example : (standard.blocksLog
    [.loop ⟨⟨"x", ⟨0, 5⟩⟩, none, ⟨.variable ⟨"xs", []⟩, [], ⟨0, 10⟩⟩, none, none, none⟩
      [.loop ⟨⟨"y", ⟨1, 5⟩⟩, none, ⟨.variable ⟨"x", []⟩, [], ⟨1, 10⟩⟩, none, none, none⟩
        [.define ⟨"z", ⟨2, 5⟩⟩ (.operand ⟨.variable ⟨"y", []⟩, [], ⟨2, 9⟩⟩) ⟨2, 0⟩] ⟨1, 0⟩] ⟨0, 0⟩]
    (.start [("xs", .array [.array [.null, .null], .array [], .array [.null]])])).filterMap
      Event.recorded? =
    [(⟨"z", 1, 0⟩, .null), (⟨"z", 1, 1⟩, .null), (⟨"z", 3, 0⟩, .null)] := by cbv

end Engine

end LineTemplate
