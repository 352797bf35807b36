import LineTemplate.Outline
import LineTemplate.Proofs.Bindings

/-!
# Renderings side by side

Two renderings of the same blocks, by two engines and in two states, come to the same end when
their states are related by a simulation: the states agree on every name and the engines on every
pipe that the blocks mention, and every step of a rendering leads to related states again.

Patterns that have been read are no part of the comparison. They must be sound, that is, what
their texts are read as; then it makes no difference which of them are known.
-/

namespace LineTemplate

/-! ### Outcomes -/

/-- Both fail with one error, or both succeed with one result and related states behind it. -/
inductive Alike {α σ : Type} (R : σ → σ → Prop) :
    Except Error (α × σ) → Except Error (α × σ) → Prop
  | ok (x : α) {s t : σ} (h : R s t) : Alike R (.ok (x, s)) (.ok (x, t))
  | error (e : Error) : Alike R (.error e) (.error e)

namespace Alike

variable {α β σ τ : Type} {R : σ → σ → Prop} {S : τ → τ → Prop}

theorem bind {x y : Except Error (α × σ)} {k l : α × σ → Except Error (β × τ)} (h : Alike R x y)
    (hk : ∀ a s t, x = .ok (a, s) → y = .ok (a, t) → R s t → Alike S (k (a, s)) (l (a, t))) :
    Alike S (x >>= k) (y >>= l) := by
  cases h with
  | ok a h => exact hk a _ _ rfl rfl h
  | error e => exact .error e

theorem bind_eq {x y : Except Error α} {k l : α → Except Error (β × τ)} (h : x = y)
    (hk : ∀ a, x = .ok a → Alike S (k a) (l a)) : Alike S (x >>= k) (y >>= l) := by
  subst h
  cases x with
  | ok a => exact hk a rfl
  | error e => exact .error e

theorem bind_congr {x y : Except Error (α × σ)} {k l : α × σ → Except Error β} (h : Alike R x y)
    (hk : ∀ a s t, R s t → k (a, s) = l (a, t)) : x >>= k = y >>= l := by
  cases h with
  | ok a h => exact hk a _ _ h
  | error e => rfl

theorem map (f : α → β) {x y : Except Error (α × σ)} (h : Alike R x y) :
    Alike R (x.map fun p => (f p.1, p.2)) (y.map fun p => (f p.1, p.2)) := by
  cases h with
  | ok a h => exact .ok (f a) h
  | error e => exact .error e

theorem map_fst {x y : Except Error (α × σ)} (h : Alike R x y) : x.map (·.1) = y.map (·.1) := by
  cases h with
  | ok a h => rfl
  | error e => rfl

end Alike

/-! ### Known patterns -/

namespace Pattern.Known

/-- Every pattern is what its text is read as. -/
def Sound (read : PatternReader) (known : Known) : Prop :=
  ∀ entry ∈ known, read entry.1 = some entry.2

variable {read : PatternReader}

theorem sound_nil : Sound read [] := by
  intro entry h
  cases h

theorem Sound.get? {known : Known} (h : known.Sound read) {text : String} {p : Matcher}
    (hp : known.get? text = some p) : read text = some p := by
  induction known with
  | nil => cases hp
  | cons entry rest ih =>
    obtain ⟨key, q⟩ := entry
    rw [Known.get?] at hp
    split at hp
    · rename_i hk
      cases hp
      rw [← hk]
      exact h (key, p) List.mem_cons_self
    · exact ih (fun e he => h e (List.mem_cons_of_mem _ he)) hp

theorem Sound.consult {known : Known} (h : known.Sound read) (text : String) :
    (known.consult read text).1 = read text ∧ (known.consult read text).2.Sound read := by
  unfold Known.consult
  cases hg : known.get? text with
  | some p => exact ⟨(h.get? hg).symm, h⟩
  | none =>
    cases hp : read text with
    | none => exact ⟨rfl, h⟩
    | some p =>
      refine ⟨rfl, ?_⟩
      intro entry he
      rcases List.mem_cons.1 he with rfl | he
      · exact hp
      · exact h entry he

def BothSound (read : PatternReader) (p q : Known) : Prop := p.Sound read ∧ q.Sound read

theorem search_alike {p q : Known} (hp : p.Sound read) (hq : q.Sound read)
    (pattern subject : String) (pos : Position) : Alike (BothSound read)
      (search read p pattern subject pos) (search read q pattern subject pos) := by
  obtain ⟨hpr, hps⟩ := hp.consult pattern
  obtain ⟨hqr, hqs⟩ := hq.consult pattern
  rw [search_eq_consult, search_eq_consult, hpr, hqr]
  cases read pattern with
  | none => exact .error _
  | some x => exact .ok _ ⟨hps, hqs⟩

theorem ordered_alike {p q : Known} (hp : p.Sound read) (hq : q.Sound read)
    (r : Except Error Bool) : Alike (BothSound read) (r.map (·, p)) (r.map (·, q)) := by
  cases r with
  | ok b => exact .ok b ⟨hp, hq⟩
  | error e => exact .error e

theorem apply_alike {p q : Known} (hp : p.Sound read) (hq : q.Sound read) (c : Comparator)
    (l r : Value) (pos : Position) :
    Alike (BothSound read) (c.apply read l r pos p) (c.apply read l r pos q) := by
  cases c with
  | eq | notEq => exact .ok _ ⟨hp, hq⟩
  | gt | lt | gtEq | ltEq => exact ordered_alike hp hq _
  | find | full => exact search_alike hp hq _ _ pos
  | notFind | notFull => exact (search_alike hp hq _ _ pos).map (!·)

end Pattern.Known

namespace Engine

/-! ### Values -/

/-- What is mentioned is the same on both sides: the value of the name, or the pipe. -/
def Agree (g h : Engine) (s t : Scope) : Mention → Prop
  | .variable name | .definition name | .binding name => s.get? name = t.get? name
  | .pipe name => g.pipes.get? name = h.pipes.get? name
  | .directive _ => True

section Values

variable {g h : Engine} {s t : Scope} (ha : g.accessor = h.accessor)

theorem pipeThrough_agree (calls : List PipeCall)
    (hm : ∀ m ∈ calls.map (Mention.pipe ·.name), Agree g h s t m) (v : Value) :
    g.pipeThrough v calls = h.pipeThrough v calls := by
  induction calls generalizing v with
  | nil => rfl
  | cons call more ih =>
    have hcall : g.pipes.get? call.name = h.pipes.get? call.name := hm _ List.mem_cons_self
    have hmore := ih fun m hmem => hm m (List.mem_cons_of_mem _ hmem)
    rw [pipeThrough, pipeThrough, hcall]
    cases h.pipes.get? call.name with
    | none => rfl
    | some pipe => simp only [hmore]

include ha

theorem lookup_agree {p : Path} (hp : s.get? p.root = t.get? p.root) :
    g.lookup s p = h.lookup t p := by
  rw [lookup, lookup, hp, ha]

theorem operand_agree {o : Operand} (hm : ∀ m ∈ Mention.ofOperand o, Agree g h s t m) :
    g.operand s o = h.operand t o := by
  unfold Mention.ofOperand at hm
  have hterm : g.term s o.term = h.term t o.term := by
    rcases ho : o.term with l | p
    · rfl
    · rw [ho] at hm
      have hp : s.get? p.root = t.get? p.root := hm (.variable p.root) (by simp)
      rw [term, term, lookup_agree ha hp]
  have hpipes := pipeThrough_agree (g := g) (h := h) (s := s) (t := t) o.pipes
    fun m hmem => hm m (List.mem_append_right _ hmem)
  unfold operand
  rw [hterm]
  congr 1
  funext v
  exact hpipes v

/-- Expressions that mention only what both sides agree on have the same value. -/
theorem expression_alike (hr : g.patterns = h.patterns) (e : Expr)
    (hm : ∀ m ∈ Mention.ofExpr e, Agree g h s t m) {p q : Pattern.Known}
    (hp : p.Sound g.patterns) (hq : q.Sound g.patterns) :
    Alike (Pattern.Known.BothSound g.patterns) (g.expression s e p) (h.expression t e q) := by
  induction e generalizing p q with
  | operand o =>
    have ho := operand_agree (s := s) (t := t) ha (o := o) fun m hmem => hm m (by
      simpa [Mention.ofExpr, Expr.operands] using hmem)
    exact .bind_eq ho fun v _ => .ok v ⟨hp, hq⟩
  | not e ih =>
    exact (ih hm hp hq).bind fun v _ _ _ _ hpq => .ok _ hpq
  | compare c l r pos ihl ihr =>
    simp only [Mention.ofExpr, Expr.operands, List.flatMap_append, List.mem_append] at hm
    refine (ihl (fun m hmem => hm m (.inl hmem)) hp hq).bind ?_
    intro v p' q' _ _ hpq
    refine (ihr (fun m hmem => hm m (.inr hmem)) hpq.1 hpq.2).bind ?_
    intro w p' q' _ _ hpq
    rw [← hr]
    refine (Pattern.Known.apply_alike hpq.1 hpq.2 c v w pos).bind ?_
    intro holds p' q' _ _ hpq
    exact .ok _ hpq
  | and l r ihl ihr =>
    simp only [Mention.ofExpr, Expr.operands, List.flatMap_append, List.mem_append] at hm
    refine (ihl (fun m hmem => hm m (.inl hmem)) hp hq).bind ?_
    intro v p' q' _ _ hpq
    cases hv : v.isTruthy with
    | true =>
      simp only [hv, if_true]
      exact (ihr (fun m hmem => hm m (.inr hmem)) hpq.1 hpq.2).bind
        fun w _ _ _ _ hpq => .ok _ hpq
    | false =>
      simp only [hv]
      exact .ok _ hpq
  | or l r ihl ihr =>
    simp only [Mention.ofExpr, Expr.operands, List.flatMap_append, List.mem_append] at hm
    refine (ihl (fun m hmem => hm m (.inl hmem)) hp hq).bind ?_
    intro v p' q' _ _ hpq
    cases hv : v.isTruthy with
    | true =>
      simp only [hv, if_true]
      exact .ok _ hpq
    | false =>
      simp only [hv]
      exact (ihr (fun m hmem => hm m (.inr hmem)) hpq.1 hpq.2).bind
        fun w _ _ _ _ hpq => .ok _ hpq

end Values

theorem agree_of_get? {g : Engine} {s t : Scope} (h : ∀ name, s.get? name = t.get? name)
    (m : Mention) : Agree g g s t m := by
  cases m with
  | pipe name => exact rfl
  | directive d => trivial
  | _ name => exact h name

theorem lookup_eq_of_get? {g : Engine} {s t : Scope} (h : ∀ name, s.get? name = t.get? name) :
    g.lookup s = g.lookup t := by
  funext p
  exact lookup_agree rfl (h p.root)

theorem checkFree_agree {s t : State} {b : Binding}
    (hb : s.scope.get? b.name = t.scope.get? b.name) : checkFree s b = checkFree t b := by
  unfold checkFree Scope.isBound
  rw [hb]

/-! ### Mentions in bodies -/

theorem mem_ofOption {inLoop : Bool} {d : Directive} {o : Option (List Block)} {body : List Block}
    (hb : body ∈ o) {m : Mention} (hm : m ∈ Mention.ofBlocks inLoop body) :
    m ∈ Mention.ofOption inLoop d o := by
  cases hb
  exact List.mem_cons_of_mem _ hm

theorem mem_ofCases {inLoop : Bool} {cases : List (Branch (List Literal) Block)}
    {c : Branch (List Literal) Block} (hc : c ∈ cases) {m : Mention}
    (hm : m ∈ Mention.ofBlocks inLoop c.body) : m ∈ Mention.ofCases inLoop cases := by
  induction cases with
  | nil => cases hc
  | cons d more ih =>
    rw [Mention.ofCases, List.mem_cons, List.mem_append]
    rcases List.mem_cons.1 hc with rfl | hc
    · exact .inr (.inl hm)
    · exact .inr (.inr (ih hc))

theorem mem_ofWhens {inLoop : Bool} {whens : List (Branch Expr Block)} {w : Branch Expr Block}
    (hw : w ∈ whens) {m : Mention}
    (hm : m ∈ Mention.ofExpr w.head ∨ m ∈ Mention.ofBlocks inLoop w.body) :
    m ∈ Mention.ofWhens inLoop whens := by
  induction whens with
  | nil => cases hw
  | cons d more ih =>
    rw [Mention.ofWhens, List.mem_cons, List.mem_append, List.mem_append]
    rcases List.mem_cons.1 hw with rfl | hw
    · exact .inr (.inl hm)
    · exact .inr (.inr (ih hw))

/-! ### Blocks -/

section Bodies

variable {g h : Engine} {R : State → State → Prop}

theorem joinLines_alike {x y : Except Error (List String × State)} (hxy : Alike R x y) :
    Alike R (joinLines x) (joinLines y) :=
  hxy.bind fun _ _ _ _ _ hR => .ok _ hR

theorem optional_alike {o : Option (List Block)} {s t : State} (hR : R s t)
    (ho : ∀ bs ∈ o, Alike R (g.blocks bs s) (h.blocks bs t)) :
    Alike R (g.optional o s) (h.optional o t) := by
  cases o with
  | none => exact .ok "" hR
  | some bs => exact joinLines_alike (ho bs rfl)

theorem selected_alike {v : Value} {cases : List (Branch (List Literal) Block)} {s t : State}
    {k l : Option (String × State) → Except Error (String × State)}
    (hbody : ∀ c ∈ cases, Alike R (g.blocks c.body s) (h.blocks c.body t))
    (hsome : ∀ r, k (some r) = .ok r ∧ l (some r) = .ok r) (hnone : Alike R (k none) (l none)) :
    Alike R (g.selected v cases s >>= k) (h.selected v cases t >>= l) := by
  induction cases with
  | nil => exact hnone
  | cons c more ih =>
    obtain ⟨values, body, pos⟩ := c
    have hmore := ih fun d hd => hbody d (List.mem_cons_of_mem _ hd)
    rw [selected, selected, bind_assoc, bind_assoc]
    refine .bind_eq rfl fun holds _ => ?_
    cases holds with
    | false => exact hmore
    | true =>
      simp only [if_true, bind_assoc, pure_bind]
      refine (joinLines_alike (hbody _ List.mem_cons_self)).bind ?_
      intro text s' t' _ _ hR'
      rw [(hsome (text, s')).1, (hsome (text, t')).2]
      exact .ok text hR'

end Bodies

/-- States related by `R` stay related whatever is rendered in them that mentions only what `M`
allows. `O` relates the numbers under which loops are known. -/
structure Simulation (g h : Engine) (M : Mention → Prop) (O : Nat → Nat → Prop)
    (R : State → State → Prop) : Prop where
  accessor : g.accessor = h.accessor
  reader : g.patterns = h.patterns
  delimiter : g.config.delimiter = h.config.delimiter
  agree {s t : State} : R s t → ∀ m, M m → Agree g h s.scope t.scope m
  inLoop {s t : State} : R s t → s.scope.inLoop = t.scope.inLoop
  format {s t : State} {line : String} : R s t → (∀ m ∈ Mention.ofLine line, M m) →
    g.formatter.format line (g.lookup s.scope) = h.formatter.format line (h.lookup t.scope)
  sound {s t : State} : R s t → Pattern.Known.BothSound g.patterns s.patterns t.patterns
  patterns {s t : State} {p q : Pattern.Known} : R s t → Pattern.Known.BothSound g.patterns p q →
    R { s with patterns := p } { t with patterns := q }
  bind {s t : State} (name : String) (v : Value) : R s t → R (s.define name v) (t.define name v)
  loops {s t : State} : R s t → O s.loops t.loops
  enter {s t : State} : R s t → R { s with loops := s.loops + 1 } { t with loops := t.loops + 1 }
  push {s t : State} {i j : Nat} (l : Loop) (number : Nat) (item : Value) : R s t → O i j →
    R { s with scope := s.scope.push (iteration l i number item) }
      { t with scope := t.scope.push (iteration l j number item) }
  leave {s t s' t' : State} : R s t → R s' t' →
    R { s' with scope := s.scope } { t' with scope := t.scope }

namespace Simulation

variable {g h : Engine} {M : Mention → Prop} {O : Nat → Nat → Prop} {R : State → State → Prop}
  (sim : Simulation g h M O R)

include sim

theorem evaluate {s t : State} (hR : R s t) {e : Expr} (hm : ∀ m ∈ Mention.ofExpr e, M m) :
    Alike R (g.evaluate e s) (h.evaluate e t) := by
  have hag := fun m hmem => sim.agree hR m (hm m hmem)
  have hs := sim.sound hR
  refine (expression_alike sim.accessor sim.reader e hag hs.1 hs.2).bind ?_
  intro v p q _ _ hpq
  exact .ok v (sim.patterns hR hpq)

theorem holds {s t : State} (hR : R s t) {e : Expr} (hm : ∀ m ∈ Mention.ofExpr e, M m) :
    Alike R (g.holds e s) (h.holds e t) :=
  (sim.evaluate hR hm).bind fun _ _ _ _ _ hR => .ok _ hR

theorem operand {s t : State} (hR : R s t) {o : Operand} (hm : ∀ m ∈ Mention.ofOperand o, M m) :
    g.operand s.scope o = h.operand t.scope o :=
  operand_agree sim.accessor fun m hmem => sim.agree hR m (hm m hmem)

theorem checkLoop {s t : State} (hR : R s t) {l : Loop} (hm : ∀ m ∈ Mention.ofLoop l, M m) :
    Engine.checkLoop s l = Engine.checkLoop t l := by
  unfold Mention.ofLoop at hm
  have hitem := checkFree_agree (b := l.item)
    (sim.agree hR (.binding l.item.name) (hm _ (by simp)))
  unfold Engine.checkLoop
  cases hi : l.index with
  | none => exact hitem
  | some index =>
    have hindex := checkFree_agree (b := index)
      (sim.agree hR (.binding index.name) (hm _ (by simp [hi])))
    simp only [hitem, hindex]

theorem iterate {body : List Block} {l : Loop} {i j : Nat} (hO : O i j)
    (hbody : ∀ {s t : State}, R s t → s.scope.inLoop = true →
      Alike R (g.blocks body s) (h.blocks body t))
    (items : List Value) (number : Nat) {s t : State} (hR : R s t) :
    Alike R (Engine.iterate (fun s => Engine.joinLines (g.blocks body s)) l i number items s)
      (Engine.iterate (fun s => Engine.joinLines (h.blocks body s)) l j number items t) := by
  induction items generalizing number s t with
  | nil => exact .ok [] hR
  | cons item more ih =>
    have hpush := sim.push l number item hR hO
    refine (joinLines_alike (hbody hpush rfl)).bind ?_
    intro text s' t' hs' ht' hR'
    -- Behind an iteration both scopes are what they were before.
    obtain ⟨_, hs', -⟩ := joinLines_eq_ok.1 hs'
    obtain ⟨_, ht', -⟩ := joinLines_eq_ok.1 ht'
    have hsp : s'.scope.pop = s.scope := (stepwise_grows.block_and_blocks.2 _ _ _ _ hs').pop_push
    have htp : t'.scope.pop = t.scope := (stepwise_grows.block_and_blocks.2 _ _ _ _ ht').pop_push
    have hleave := sim.leave hR hR'
    simp only [hsp, htp]
    exact (ih (number + 1) hleave).bind fun _ _ _ _ _ hR => .ok _ hR

theorem define {s t : State} (hR : R s t) {name : Binding} {value : Expr}
    (hname : M (.definition name.name)) (hm : ∀ m ∈ Mention.ofExpr value, M m) :
    Alike R (g.define name value s) (h.define name value t) := by
  have hfree := checkFree_agree (b := name) (sim.agree hR _ hname)
  refine .bind_eq hfree fun _ _ => ?_
  refine (sim.evaluate hR hm).bind ?_
  intro v s' t' _ _ hR'
  exact .ok "" (sim.bind name.name v hR')

theorem textLine {s t : State} (hR : R s t) {content : String}
    (hm : s.scope.inLoop = true → ∀ m ∈ Mention.ofLine content, M m) :
    Alike R (g.textLine content s) (h.textLine content t) := by
  unfold Engine.textLine
  rw [← sim.inLoop hR]
  cases hl : s.scope.inLoop with
  | false =>
    simp only [Bool.false_eq_true, if_false]
    exact .ok content hR
  | true =>
    simp only [if_true]
    exact .bind_eq (sim.format hR (hm hl)) fun text _ => .ok text hR

theorem chosen {whens : List (Branch Expr Block)} {s t : State} (hR : R s t)
    (hm : ∀ w ∈ whens, ∀ m ∈ Mention.ofExpr w.head, M m)
    (hbody : ∀ w ∈ whens, ∀ s' t', R s' t' → s'.scope.inLoop = s.scope.inLoop →
      Alike R (g.blocks w.body s') (h.blocks w.body t')) :
    Alike R (g.chosen whens s) (h.chosen whens t) := by
  induction whens generalizing s t with
  | nil => exact .ok none hR
  | cons w more ih =>
    obtain ⟨test, body, pos⟩ := w
    rw [Engine.chosen, Engine.chosen]
    refine (sim.holds hR (hm _ List.mem_cons_self)).bind ?_
    intro holds s' t' hs' _ hR'
    have hl := (stepwise_grows.holds _ _ _ _ hs').inLoop
    cases holds with
    | false =>
      refine ih hR' (fun d hd => hm d (List.mem_cons_of_mem _ hd)) ?_
      rw [hl]
      exact fun d hd => hbody d (List.mem_cons_of_mem _ hd)
    | true =>
      refine (joinLines_alike (hbody _ List.mem_cons_self s' t' hR' hl)).bind ?_
      intro text s'' t'' _ _ hR''
      exact .ok _ hR''

/-- Related states that blocks are rendered in end alike. A text line inside a loop mentions the
roots of its placeholders, so what is mentioned depends on whether the state is inside a loop. -/
theorem block_and_blocks :
    (∀ b inLoop, (∀ m ∈ Mention.ofBlock inLoop b, M m) → ∀ s t, R s t →
      s.scope.inLoop = inLoop → Alike R (g.block b s) (h.block b t)) ∧
    ∀ bs inLoop, (∀ m ∈ Mention.ofBlocks inLoop bs, M m) → ∀ s t, R s t →
      s.scope.inLoop = inLoop → Alike R (g.blocks bs s) (h.blocks bs t) := by
  refine Block.induction ?text ?condition ?switch ?choose ?loop ?guard ?check ?define ?nil ?cons
  case text =>
    intro content pos inLoop hm s t hR hl
    rw [Engine.block, Engine.block]
    refine sim.textLine hR fun hin m hmem => hm m ?_
    rw [Mention.ofBlock, ← hl, hin]
    exact hmem
  case condition =>
    intro test body otherwise pos hb ho inLoop hm s t hR hl
    simp only [Mention.ofBlock, List.mem_cons, List.mem_append] at hm
    rw [Engine.block, Engine.block]
    refine (sim.holds hR fun m hmem => hm m (.inr (.inl (.inl hmem)))).bind ?_
    intro holds s' t' hs' _ hR'
    have hl' : s'.scope.inLoop = inLoop := by
      rw [(stepwise_grows.holds _ _ _ _ hs').inLoop, hl]
    cases holds with
    | true =>
      exact joinLines_alike (hb inLoop (fun m hmem => hm m (.inr (.inl (.inr hmem)))) s' t' hR' hl')
    | false =>
      refine optional_alike hR' fun more hmore => ?_
      refine ho more hmore inLoop (fun m hmem => hm m (.inr (.inr ?_))) s' t' hR' hl'
      exact mem_ofOption hmore hmem
  case switch =>
    intro subject cases default pos hc hd inLoop hm s t hR hl
    simp only [Mention.ofBlock, List.mem_cons, List.mem_append] at hm
    rw [Engine.block, Engine.block]
    refine .bind_eq (sim.operand hR fun m hmem => hm m (.inr (.inl (.inl hmem)))) fun v _ => ?_
    refine selected_alike (fun c hmem => ?_) (fun r => ⟨rfl, rfl⟩)
      (optional_alike hR fun body hbody => ?_)
    · refine hc c hmem inLoop (fun m hmen => hm m (.inr (.inl (.inr ?_)))) s t hR hl
      exact mem_ofCases hmem hmen
    · refine hd body hbody inLoop (fun m hmem => hm m (.inr (.inr ?_))) s t hR hl
      exact mem_ofOption hbody hmem
  case choose =>
    intro whens default pos hw hd inLoop hm s t hR hl
    simp only [Mention.ofBlock, List.mem_cons, List.mem_append] at hm
    rw [Engine.block, Engine.block]
    have hwhen : ∀ w ∈ whens, (∀ m ∈ Mention.ofExpr w.head, M m) ∧
        ∀ m ∈ Mention.ofBlocks inLoop w.body, M m := by
      intro w hmem
      refine ⟨fun m hmen => hm m (.inr (.inl ?_)), fun m hmen => hm m (.inr (.inl ?_))⟩
      · exact mem_ofWhens hmem (.inl hmen)
      · exact mem_ofWhens hmem (.inr hmen)
    have hbody : ∀ w ∈ whens, ∀ s' t', R s' t' → s'.scope.inLoop = s.scope.inLoop →
        Alike R (g.blocks w.body s') (h.blocks w.body t') :=
      fun w hmem s' t' hR' hl' => hw w hmem inLoop (hwhen w hmem).2 s' t' hR' (hl'.trans hl)
    refine (sim.chosen hR (fun w hmem => (hwhen w hmem).1) hbody).bind ?_
    intro result s' t' hs' _ hR'
    have hl' : s'.scope.inLoop = inLoop := by
      rw [(stepwise_grows.ends (.whens whens) ⟨result, hs'⟩).inLoop, hl]
    cases result with
    | some text => exact .ok text hR'
    | none =>
      refine optional_alike hR' fun body hbody => ?_
      refine hd body hbody inLoop (fun m hmem => hm m (.inr (.inr ?_))) s' t' hR' hl'
      exact mem_ofOption hbody hmem
  case loop =>
    intro header body pos hb inLoop hm s t hR hl
    simp only [Mention.ofBlock, List.mem_cons, List.mem_append] at hm
    rw [Engine.block, Engine.block]
    have hO := sim.loops hR
    have henter := sim.enter hR
    have hloop : ∀ m ∈ Mention.ofLoop header, M m := fun m hmem => hm m (.inr (.inl hmem))
    refine .bind_eq (sim.checkLoop henter hloop) fun _ _ => ?_
    refine .bind_eq (sim.operand henter fun m hmem => hloop m ?_) fun v _ => ?_
    · exact List.mem_append_left _ hmem
    · refine (sim.iterate hO (fun hR hin => ?_) v.items 0 henter).bind ?_
      · exact hb true (fun m hmem => hm m (.inr (.inr hmem))) _ _ hR hin
      · intro texts s' t' _ _ hR'
        unfold Engine.loopText
        rw [sim.delimiter]
        exact .ok _ hR'
  case guard =>
    intro test body message pos hb inLoop hm s t hR hl
    simp only [Mention.ofBlock, List.mem_cons, List.mem_append] at hm
    rw [Engine.block, Engine.block]
    refine (sim.holds hR fun m hmem => hm m (.inr (.inl hmem))).bind ?_
    intro holds s' t' hs' _ hR'
    have hl' : s'.scope.inLoop = inLoop := by
      rw [(stepwise_grows.holds _ _ _ _ hs').inLoop, hl]
    cases holds with
    | true =>
      exact joinLines_alike (hb inLoop (fun m hmem => hm m (.inr (.inr hmem))) s' t' hR' hl')
    | false => exact .error _
  case check =>
    intro test message pos inLoop hm s t hR _
    rw [Engine.block, Engine.block]
    refine (sim.holds hR fun m hmem => hm m (List.mem_cons_of_mem _ hmem)).bind ?_
    intro holds s' t' _ _ hR'
    cases holds with
    | true => exact .error _
    | false => exact .ok "" hR'
  case define =>
    intro name value pos inLoop hm s t hR _
    rw [Engine.block, Engine.block]
    simp only [Mention.ofBlock, List.mem_cons] at hm
    exact sim.define hR (hm _ (.inr (.inl rfl))) fun m hmem => hm m (.inr (.inr hmem))
  case nil =>
    intro inLoop _ s t hR _
    exact .ok [] hR
  case cons =>
    intro b more hb hmore inLoop hm s t hR hl
    rw [Mention.ofBlocks] at hm
    rw [Engine.blocks, Engine.blocks]
    refine (hb inLoop (fun m hmem => hm m (List.mem_append_left _ hmem)) s t hR hl).bind ?_
    intro text s' t' hs' _ hR'
    have hl' : s'.scope.inLoop = inLoop := by
      rw [(stepwise_grows.block_and_blocks.1 b s text s' hs').inLoop, hl]
    refine (hmore inLoop (fun m hmem => hm m (List.mem_append_right _ hmem)) s' t' hR' hl').bind ?_
    intro texts s'' t'' _ _ hR''
    exact .ok _ hR''

end Simulation

/-! ### Patterns known during a rendering -/

section Sound

variable {g : Engine}

theorem stepwise_sound :
    g.Stepwise fun s t => s.patterns.Sound g.patterns → t.patterns.Sound g.patterns where
  refl _ h := h
  trans h h' hs := h' (h hs)
  evaluate e := by
    intro s v t ht hs
    obtain ⟨known, he, rfl⟩ := evaluate_eq_ok.1 ht
    have hself (m : Mention) : Agree g g s.scope s.scope m := agree_of_get? (fun _ => rfl) m
    have ha := expression_alike rfl rfl e (fun m _ => hself m) hs hs
    rw [he] at ha
    cases ha with
    | ok _ hb => exact hb.1
  define _ _ hs := hs
  enter _ hs := hs
  iterate h := h

end Sound

end Engine

end LineTemplate
