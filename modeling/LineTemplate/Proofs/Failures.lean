import Mathlib
import LineTemplate.Proofs.Visits
import LineTemplate.Template

/-!
# What renderings fail with

`Raises` says of each part of a template which errors it can raise, whatever state it is rendered
in; `block_and_blocks_raise` says that there are no others. Unless a pipe or a formatter of one's
own says so, none of them is an error of the template itself: those come up when the template is
read, and an outline has nothing to add to them.
-/

namespace LineTemplate

/-! ### Literals and operands -/

namespace Literal

/-- The error is that of a malformed number among the literals. -/
inductive Raises (ls : List Literal) : Error → Prop
  | malformed {text : String} {pos : Position} :
      .malformed text pos ∈ ls → Raises ls (.operandType (.malformed text) pos)

theorem Raises.mono {ls ms : List Literal} {e : Error} (h : Raises ls e) (hs : ls ⊆ ms) :
    Raises ms e := by
  cases h with
  | malformed hm => exact .malformed (hs hm)

theorem raises_of_value {l : Literal} {e : Error} (h : l.value = .error e) : Raises [l] e := by
  cases l with
  | malformed text pos =>
    cases h
    exact .malformed (List.mem_singleton_self _)
  | _ => cases h

theorem raises_of_anyEq {v : Value} {ls : List Literal} {e : Error}
    (h : anyEq v ls = .error e) : Raises ls e := by
  induction ls with
  | nil => cases h
  | cons l more ih =>
    rw [anyEq] at h
    rcases bind_eq_error.1 h with hl | ⟨w, -, hm⟩
    · exact (raises_of_value hl).mono (by simp)
    · split at hm
      · cases hm
      · exact (ih hm).mono (List.subset_cons_self l more)

theorem raises_of_checkAll {ls : List Literal} {e : Error} (h : checkAll ls = .error e) :
    Raises ls e := by
  induction ls with
  | nil => cases h
  | cons l more ih =>
    rw [checkAll] at h
    rcases bind_eq_error.1 h with hl | ⟨w, -, hm⟩
    · exact (raises_of_value hl).mono (by simp)
    · exact (ih hm).mono (List.subset_cons_self l more)

end Literal

/-- A pipe is not there, cannot have its arguments, or says that it fails. -/
inductive PipeCall.Raises (g : Engine) (call : PipeCall) : Error → Prop
  | missing : g.pipes.get? call.name = none → Raises g call (.pipeNotFound call.name call.pos)
  | argument {e : Error} : Literal.Raises call.args e → Raises g call e
  | pipe {pipe : Pipe} {v : Value} {e : Error} :
      g.pipes.get? call.name = some pipe → pipe v call.args = .error e → Raises g call e

inductive Operand.Raises (g : Engine) (o : Operand) : Error → Prop
  | literal {l : Literal} {e : Error} : o.term = .literal l → Literal.Raises [l] e → Raises g o e
  | pipe {call : PipeCall} {e : Error} : call ∈ o.pipes → call.Raises g e → Raises g o e

/-! ### Expressions -/

namespace Comparator

/-- Needs two numbers. -/
def orders (c : Comparator) : Bool := c == .gt || c == .lt || c == .gtEq || c == .ltEq

/-- Needs a pattern on the right. -/
def searches (c : Comparator) : Bool := c == .find || c == .notFind || c == .full || c == .notFull

end Comparator

namespace Expr

/-- The expressions that an expression is made of. -/
def parts : Expr → List Expr
  | .operand _ => []
  | .not e => [e]
  | .compare _ left right _ => [left, right]
  | .and left right => [left, right]
  | .or left right => [left, right]

inductive Raises (g : Engine) : Expr → Error → Prop
  | operand {o : Operand} {e : Error} : o.Raises g e → Raises g (.operand o) e
  | order {c : Comparator} {left right : Expr} {pos : Position} {text : String} :
      c.orders = true → Raises g (.compare c left right pos) (.operandType (.notNumeric text) pos)
  | pattern {c : Comparator} {left right : Expr} {pos : Position} {pattern : String} :
      c.searches = true → Raises g (.compare c left right pos) (.invalidPattern pattern pos)
  | part {x y : Expr} {e : Error} : x ∈ y.parts → Raises g x e → Raises g y e

end Expr

/-! ### Blocks -/

namespace Block

/-- The bodies of a block. -/
def bodies : Block → List (List Block)
  | .text _ _ => []
  | .condition _ body otherwise _ => body :: otherwise.toList
  | .switch _ cases default _ => cases.map (·.body) ++ default.toList
  | .choose whens default _ => whens.map (·.body) ++ default.toList
  | .loop _ body _ => [body]
  | .guard _ body _ _ => [body]
  | .check _ _ _ => []
  | .define _ _ _ => []

/-- What holds of a block when it holds of all blocks in its bodies holds of every block. -/
theorem induction_bodies {P : Block → Prop}
    (h : ∀ b : Block, (∀ body ∈ b.bodies, ∀ c ∈ body, P c) → P b) (b : Block) : P b := by
  refine (Block.induction (P := P) (Q := fun bs => ∀ c ∈ bs, P c) ?text ?condition ?switch ?choose
    ?loop ?guard ?check ?define ?nil ?cons).1 b
  case text | check | define =>
    intros
    exact h _ fun _ hbody => nomatch hbody
  case condition =>
    intro test body otherwise pos hb ho
    exact h _ (List.forall_mem_cons.2 ⟨hb, fun more hm => ho more (Option.mem_toList.1 hm)⟩)
  case switch =>
    intro subject cases default pos hc hd
    refine h _ (List.forall_mem_append.2 ⟨?_, fun body hm => hd body (Option.mem_toList.1 hm)⟩)
    exact List.forall_mem_map.2 hc
  case choose =>
    intro whens default pos hw hd
    refine h _ (List.forall_mem_append.2 ⟨?_, fun body hm => hd body (Option.mem_toList.1 hm)⟩)
    exact List.forall_mem_map.2 hw
  case loop =>
    intro header body pos hb
    exact h _ (List.forall_mem_singleton.2 hb)
  case guard =>
    intro test body message pos hb
    exact h _ (List.forall_mem_singleton.2 hb)
  case nil => exact fun _ hc => nomatch hc
  case cons => exact fun b more hb hm => List.forall_mem_cons.2 ⟨hb, hm⟩

/-- The expressions of a block, those in its bodies aside. -/
def expressions : Block → List Expr
  | .condition test _ _ _ => [test]
  | .choose whens _ _ => whens.map (·.head)
  | .guard test _ _ _ => [test]
  | .check test _ _ => [test]
  | .define _ value _ => [value]
  | _ => []

/-- The operands of a block that are no expressions, those in its bodies aside. -/
def operands : Block → List Operand
  | .switch subject _ _ _ => [subject]
  | .loop header _ _ => [header.source]
  | _ => []

inductive Raises (g : Engine) : Block → Error → Prop
  | format {content : String} {pos : Position} {lookup : Path → Option Value} {e : Error} :
      g.formatter.format content lookup = .error e → Raises g (.text content pos) e
  | expression {b : Block} {x : Expr} {e : Error} :
      x ∈ b.expressions → x.Raises g e → Raises g b e
  | operand {b : Block} {o : Operand} {e : Error} :
      o ∈ b.operands → o.Raises g e → Raises g b e
  | case {subject : Operand} {cases : List (Branch (List Literal) Block)}
      {default : Option (List Block)} {pos : Position} {c : Branch (List Literal) Block}
      {e : Error} : c ∈ cases → Literal.Raises c.head e →
      Raises g (.switch subject cases default pos) e
  | item {header : Loop} {body : List Block} {pos : Position} :
      Raises g (.loop header body pos) (.duplicateBinding header.item.name header.item.pos)
  | index {header : Loop} {body : List Block} {pos : Position} {index : Binding} :
      index ∈ header.index →
      Raises g (.loop header body pos) (.duplicateBinding index.name index.pos)
  | guard {test : Expr} {body : List Block} {message : Option String} {pos : Position} :
      Raises g (.guard test body message pos)
        (.guardViolation (message.getD Engine.guardMessage) pos)
  | check {test : Expr} {message : String} {pos : Position} :
      Raises g (.check test message pos) (.checkViolation message pos)
  | definition {name : Binding} {value : Expr} {pos : Position} :
      Raises g (.define name value pos) (.duplicateBinding name.name name.pos)
  | inner {b c : Block} {body : List Block} {e : Error} :
      body ∈ b.bodies → c ∈ body → Raises g c e → Raises g b e

/-- One of the blocks raises the error. -/
def AnyRaises (g : Engine) (bs : List Block) (e : Error) : Prop := ∃ b ∈ bs, b.Raises g e

end Block

namespace Engine

variable {g : Engine}

theorem raises_of_pipeThrough {calls : List PipeCall} {v : Value} {e : Error}
    (h : g.pipeThrough v calls = .error e) : ∃ call ∈ calls, call.Raises g e := by
  induction calls generalizing v with
  | nil => cases h
  | cons call more ih =>
    rw [pipeThrough] at h
    split at h
    · next hp =>
      cases h
      exact ⟨call, List.mem_cons_self, .missing hp⟩
    · next pipe hp =>
      rcases bind_eq_error.1 h with ha | ⟨_, -, h⟩
      · exact ⟨call, List.mem_cons_self, .argument (Literal.raises_of_checkAll ha)⟩
      · rcases bind_eq_error.1 h with he | ⟨w, -, hm⟩
        · exact ⟨call, List.mem_cons_self, .pipe hp he⟩
        · obtain ⟨c, hc, hr⟩ := ih hm
          exact ⟨c, List.mem_cons_of_mem call hc, hr⟩

theorem raises_of_operand {scope : Scope} {o : Operand} {e : Error}
    (h : g.operand scope o = .error e) : o.Raises g e := by
  rcases bind_eq_error.1 h with ht | ⟨v, -, hp⟩
  · rcases ho : o.term with l | p
    · rw [ho] at ht
      exact .literal ho (Literal.raises_of_value ht)
    · rw [ho] at ht
      cases ht
  · obtain ⟨call, hc, hr⟩ := raises_of_pipeThrough hp
    exact .pipe hc hr

theorem raises_of_ordered {holds : Ordering → Bool} {c : Comparator} {left right : Expr}
    {v w : Value} {pos : Position} {e : Error} (hc : c.orders = true)
    (h : Comparator.ordered holds v w pos = .error e) :
    (Expr.compare c left right pos).Raises g e := by
  unfold Comparator.ordered at h
  split at h
  · cases h
  · next fault hf =>
    cases h
    have hn : ∀ {u : Value}, u.numeric = .error fault → ∃ text, fault = .notNumeric text := by
      intro u hu
      unfold Value.numeric at hu
      split at hu
      · cases hu
      · cases hu
        exact ⟨_, rfl⟩
    rcases bind_eq_error.1 hf with hv | ⟨a, -, hf⟩
    · obtain ⟨text, rfl⟩ := hn hv
      exact .order hc
    · rcases bind_eq_error.1 hf with hw | ⟨b, -, hr⟩
      · obtain ⟨text, rfl⟩ := hn hw
        exact .order hc
      · cases hr

theorem raises_of_search {known : Pattern.Known} {pattern subject : String} {c : Comparator}
    {left right : Expr} {pos : Position} {e : Error} (hc : c.searches = true)
    (h : Pattern.search g.patterns known pattern subject pos = .error e) :
    (Expr.compare c left right pos).Raises g e := by
  unfold Pattern.search at h
  split at h
  · cases h
  · cases h
    exact .pattern hc

theorem raises_of_apply {c : Comparator} {left right : Expr} {v w : Value} {pos : Position}
    {known : Pattern.Known} {e : Error} (h : c.apply g.patterns v w pos known = .error e) :
    (Expr.compare c left right pos).Raises g e := by
  cases c with
  | eq | notEq => cases h
  | gt | lt | gtEq | ltEq => exact raises_of_ordered rfl (map_eq_error.1 h)
  | find | full => exact raises_of_search rfl h
  | notFind | notFull => exact raises_of_search rfl (map_eq_error.1 h)

theorem raises_of_expression {scope : Scope} {x : Expr} {known : Pattern.Known} {e : Error}
    (h : g.expression scope x known = .error e) : x.Raises g e := by
  induction x generalizing known with
  | operand o =>
    rcases bind_eq_error.1 h with ho | ⟨v, -, hr⟩
    · exact .operand (raises_of_operand ho)
    · cases hr
  | not x ih =>
    rcases bind_eq_error.1 h with hx | ⟨v, -, hr⟩
    · exact .part (List.mem_singleton_self x) (ih hx)
    · cases hr
  | compare c l r pos ihl ihr =>
    rcases bind_eq_error.1 h with hl | ⟨v, -, h⟩
    · exact .part List.mem_cons_self (ihl hl)
    · rcases bind_eq_error.1 h with hr | ⟨w, -, h⟩
      · exact .part (List.mem_cons_of_mem l List.mem_cons_self) (ihr hr)
      · rcases bind_eq_error.1 h with hc | ⟨b, -, hp⟩
        · exact raises_of_apply hc
        · cases hp
  | and l r ihl ihr =>
    rcases bind_eq_error.1 h with hl | ⟨⟨v, known⟩, -, h⟩
    · exact .part List.mem_cons_self (ihl hl)
    · cases hv : v.isTruthy with
      | false =>
        simp only [hv] at h
        cases h
      | true =>
        simp only [hv, if_true] at h
        rcases bind_eq_error.1 h with hr | ⟨w, -, hp⟩
        · exact .part (List.mem_cons_of_mem l List.mem_cons_self) (ihr hr)
        · cases hp
  | or l r ihl ihr =>
    rcases bind_eq_error.1 h with hl | ⟨⟨v, known⟩, -, h⟩
    · exact .part List.mem_cons_self (ihl hl)
    · cases hv : v.isTruthy with
      | true =>
        simp only [hv, if_true] at h
        cases h
      | false =>
        simp only [hv] at h
        rcases bind_eq_error.1 h with hr | ⟨w, -, hp⟩
        · exact .part (List.mem_cons_of_mem l List.mem_cons_self) (ihr hr)
        · cases hp

theorem raises_of_evaluate {x : Expr} {s : State} {e : Error} (h : g.evaluate x s = .error e) :
    x.Raises g e := by
  rcases bind_eq_error.1 h with hx | ⟨v, -, hr⟩
  · exact raises_of_expression hx
  · cases hr

theorem raises_of_holds {x : Expr} {s : State} {e : Error} (h : g.holds x s = .error e) :
    x.Raises g e := by
  rcases bind_eq_error.1 h with hx | ⟨v, -, hr⟩
  · exact raises_of_evaluate hx
  · cases hr

/-! ### What blocks raise -/

theorem checkFree_eq_error {s : State} {b : Binding} {e : Error} (h : checkFree s b = .error e) :
    e = .duplicateBinding b.name b.pos := by
  unfold checkFree at h
  split at h
  · cases h
    rfl
  · cases h

theorem raises_of_checkLoop {s : State} {header : Loop} {body : List Block} {pos : Position}
    {e : Error} (h : checkLoop s header = .error e) :
    (Block.loop header body pos).Raises g e := by
  unfold checkLoop at h
  cases hi : header.index with
  | none =>
    rw [hi] at h
    rw [checkFree_eq_error h]
    exact .item
  | some index =>
    rw [hi] at h
    simp only at h
    split at h
    · cases h
      exact .index hi
    · rcases bind_eq_error.1 h with hx | ⟨_, -, hitem⟩
      · rw [checkFree_eq_error hx]
        exact .index hi
      · rw [checkFree_eq_error hitem]
        exact .item

theorem joinLines_eq_error {r : Except Error (List String × State)} {e : Error} :
    joinLines r = .error e ↔ r = .error e := by
  unfold joinLines
  rw [bind_eq_error]
  constructor
  · rintro (h | ⟨x, -, h⟩)
    · exact h
    · cases h
  · exact .inl

/-- Whatever the list of blocks fails with, one of the blocks raises. -/
def Covered (g : Engine) (bs : List Block) : Prop :=
  ∀ s e, g.blocks bs s = .error e → Block.AnyRaises g bs e

theorem Covered.joinLines {bs : List Block} (hb : Covered g bs) {s : State} {e : Error}
    (h : Engine.joinLines (g.blocks bs s) = .error e) : Block.AnyRaises g bs e :=
  hb s e (joinLines_eq_error.1 h)

theorem raises_of_optional {body : Option (List Block)} (hb : ∀ bs ∈ body, Covered g bs)
    {s : State} {e : Error} (h : g.optional body s = .error e) :
    ∃ bs ∈ body, Block.AnyRaises g bs e := by
  cases body with
  | none => cases h
  | some bs => exact ⟨bs, rfl, (hb bs rfl).joinLines h⟩

theorem raises_of_selected {v : Value} {cases : List (Branch (List Literal) Block)}
    (hb : ∀ c ∈ cases, Covered g c.body) {s : State} {e : Error}
    (h : g.selected v cases s = .error e) :
    ∃ c ∈ cases, Literal.Raises c.head e ∨ Block.AnyRaises g c.body e := by
  induction cases with
  | nil => cases h
  | cons c more ih =>
    obtain ⟨values, body, pos⟩ := c
    rw [selected] at h
    rcases bind_eq_error.1 h with hv | ⟨holds, -, h⟩
    · exact ⟨_, List.mem_cons_self, .inl (Literal.raises_of_anyEq hv)⟩
    · cases holds with
      | true =>
        rcases bind_eq_error.1 h with hj | ⟨r, -, hr⟩
        · exact ⟨_, List.mem_cons_self, .inr ((hb _ List.mem_cons_self).joinLines hj)⟩
        · cases hr
      | false =>
        obtain ⟨d, hd, hr⟩ := ih (fun d hd => hb d (List.mem_cons_of_mem _ hd)) h
        exact ⟨d, List.mem_cons_of_mem _ hd, hr⟩

theorem raises_of_chosen {whens : List (Branch Expr Block)}
    (hb : ∀ w ∈ whens, Covered g w.body) {s : State} {e : Error}
    (h : g.chosen whens s = .error e) :
    ∃ w ∈ whens, w.head.Raises g e ∨ Block.AnyRaises g w.body e := by
  induction whens generalizing s with
  | nil => cases h
  | cons w more ih =>
    obtain ⟨test, body, pos⟩ := w
    rw [chosen] at h
    rcases bind_eq_error.1 h with ht | ⟨⟨holds, u⟩, -, h⟩
    · exact ⟨_, List.mem_cons_self, .inl (raises_of_holds ht)⟩
    · cases holds with
      | true =>
        rcases bind_eq_error.1 h with hj | ⟨r, -, hr⟩
        · exact ⟨_, List.mem_cons_self, .inr ((hb _ List.mem_cons_self).joinLines hj)⟩
        · cases hr
      | false =>
        obtain ⟨d, hd, hr⟩ := ih (fun d hd => hb d (List.mem_cons_of_mem _ hd)) h
        exact ⟨d, List.mem_cons_of_mem _ hd, hr⟩

theorem raises_of_iterate {body : List Block} (hb : Covered g body) {l : Loop}
    {occurrence number : Nat} {items : List Value} {s : State} {e : Error}
    (h : iterate (fun s => Engine.joinLines (g.blocks body s)) l occurrence number items s
      = .error e) : Block.AnyRaises g body e := by
  induction items generalizing number s with
  | nil => cases h
  | cons item more ih =>
    rw [iterate] at h
    rcases bind_eq_error.1 h with hj | ⟨r, -, h⟩
    · exact hb.joinLines hj
    · rcases bind_eq_error.1 h with hm | ⟨r, -, hr⟩
      · exact ih hm
      · cases hr

theorem raises_of_body {b : Block} {body : List Block} {e : Error} (hb : body ∈ b.bodies)
    (h : Block.AnyRaises g body e) : b.Raises g e := by
  obtain ⟨c, hc, hr⟩ := h
  exact .inner hb hc hr

/-- Blocks fail with nothing but what they raise, in whatever state they are rendered. -/
theorem block_and_blocks_raise :
    (∀ b s e, g.block b s = .error e → b.Raises g e) ∧ ∀ bs, Covered g bs := by
  refine Block.induction ?text ?condition ?switch ?choose ?loop ?guard ?check ?define ?nil ?cons
  case text =>
    intro content pos s e h
    rw [Engine.block, textLine] at h
    split at h
    · rcases bind_eq_error.1 h with hf | ⟨text, -, hr⟩
      · exact .format hf
      · cases hr
    · cases h
  case condition =>
    intro test body otherwise pos hb ho s e h
    rw [Engine.block] at h
    rcases bind_eq_error.1 h with ht | ⟨⟨holds, u⟩, -, h⟩
    · exact .expression (List.mem_singleton_self test) (raises_of_holds ht)
    · cases holds with
      | true => exact raises_of_body List.mem_cons_self (hb.joinLines h)
      | false =>
        obtain ⟨more, hm, hr⟩ := raises_of_optional ho h
        exact raises_of_body (List.mem_cons_of_mem _ (Option.mem_toList.2 hm)) hr
  case switch =>
    intro subject cases default pos hc hd s e h
    rw [Engine.block] at h
    rcases bind_eq_error.1 h with ho | ⟨v, -, h⟩
    · exact .operand (List.mem_singleton_self subject) (raises_of_operand ho)
    · rcases bind_eq_error.1 h with hs | ⟨result, -, h⟩
      · obtain ⟨c, hmem, hv | hr⟩ := raises_of_selected hc hs
        · exact .case hmem hv
        · exact raises_of_body (List.mem_append_left _ (List.mem_map_of_mem hmem)) hr
      · cases result with
        | some r => cases h
        | none =>
          obtain ⟨body, hm, hr⟩ := raises_of_optional hd h
          exact raises_of_body (List.mem_append_right _ (Option.mem_toList.2 hm)) hr
  case choose =>
    intro whens default pos hw hd s e h
    rw [Engine.block] at h
    rcases bind_eq_error.1 h with hs | ⟨⟨result, u⟩, -, h⟩
    · obtain ⟨w, hmem, ht | hr⟩ := raises_of_chosen hw hs
      · exact .expression (List.mem_map_of_mem hmem) ht
      · exact raises_of_body (List.mem_append_left _ (List.mem_map_of_mem hmem)) hr
    · cases result with
      | some text => cases h
      | none =>
        obtain ⟨body, hm, hr⟩ := raises_of_optional hd h
        exact raises_of_body (List.mem_append_right _ (Option.mem_toList.2 hm)) hr
  case loop =>
    intro header body pos hb s e h
    rw [Engine.block] at h
    rcases bind_eq_error.1 h with hc | ⟨_, -, h⟩
    · exact raises_of_checkLoop hc
    · rcases bind_eq_error.1 h with ho | ⟨v, -, h⟩
      · exact .operand (List.mem_singleton_self header.source) (raises_of_operand ho)
      · rcases bind_eq_error.1 h with hi | ⟨r, -, hr⟩
        · exact raises_of_body (List.mem_singleton_self body) (raises_of_iterate hb hi)
        · cases hr
  case guard =>
    intro test body message pos hb s e h
    rw [Engine.block] at h
    rcases bind_eq_error.1 h with ht | ⟨⟨holds, u⟩, -, h⟩
    · exact .expression (List.mem_singleton_self test) (raises_of_holds ht)
    · cases holds with
      | true => exact raises_of_body (List.mem_singleton_self body) (hb.joinLines h)
      | false =>
        cases h
        exact .guard
  case check =>
    intro test message pos s e h
    rw [Engine.block] at h
    rcases bind_eq_error.1 h with ht | ⟨⟨holds, u⟩, -, h⟩
    · exact .expression (List.mem_singleton_self test) (raises_of_holds ht)
    · cases holds with
      | true =>
        cases h
        exact .check
      | false => cases h
  case define =>
    intro name value pos s e h
    rw [Engine.block, Engine.define] at h
    rcases bind_eq_error.1 h with hc | ⟨_, -, h⟩
    · rw [checkFree_eq_error hc]
      exact .definition
    · rcases bind_eq_error.1 h with hv | ⟨r, -, hr⟩
      · exact .expression (List.mem_singleton_self value) (raises_of_evaluate hv)
      · cases hr
  case nil =>
    intro s e h
    cases h
  case cons =>
    intro b more hb hm s e h
    rw [Engine.blocks] at h
    rcases bind_eq_error.1 h with hx | ⟨⟨text, u⟩, -, h⟩
    · exact ⟨b, List.mem_cons_self, hb s e hx⟩
    · rcases bind_eq_error.1 h with hx | ⟨r, -, hr⟩
      · obtain ⟨c, hc, hr⟩ := hm u e hx
        exact ⟨c, List.mem_cons_of_mem b hc, hr⟩
      · cases hr

theorem raises_of_renderBlocks {bs : List Block} {context : Fields Value} {e : Error}
    (h : g.renderBlocks bs context = .error e) : Block.AnyRaises g bs e := by
  rcases bind_eq_error.1 h with hj | ⟨_, -, hr⟩
  · exact block_and_blocks_raise.2 bs _ e (joinLines_eq_error.1 hj)
  · cases hr

end Engine

/-! ### Built-in pipes -/

namespace Fields

variable {α : Type}

theorem mem_of_get?_ofList {pairs : List (String × α)} {name : String} {thing : α}
    (h : (ofList pairs).get? name = some thing) : (name, thing) ∈ pairs := by
  have hfold : ∀ fields : Fields α,
      Fields.get? (pairs.foldl (fun fields pair => fields.set pair.1 pair.2) fields) name
        = some thing → fields.get? name = some thing ∨ (name, thing) ∈ pairs := by
    clear h
    induction pairs with
    | nil => exact fun fields h => .inl h
    | cons pair rest ih =>
      intro fields h
      rcases ih (fields.set pair.1 pair.2) h with h | h
      · rw [get?_set] at h
        split at h
        · next hk =>
          cases h
          rw [← hk]
          exact .inr List.mem_cons_self
        · exact .inl h
      · exact .inr (List.mem_cons_of_mem pair h)
  rcases hfold [] h with h | h
  · cases h
  · exact h

end Fields

namespace Pipe

/-- The error is that of a pipe which cannot have its input. -/
def OfInput (e : Error) : Prop := ∃ pipe fault, e = .pipeInput pipe fault

theorem ofInput_of_stringArg {pipe : String} {args : List Literal} {place : Nat} {e : Error}
    (h : stringArg pipe args place = .error e) : OfInput e := by
  unfold stringArg at h
  split at h
  · cases h
  · cases h
    exact ⟨_, _, rfl⟩

theorem ofInput_of_fieldsOf {pipe : String} {v : Value} {e : Error}
    (h : fieldsOf pipe v = .error e) : OfInput e := by
  unfold fieldsOf at h
  split at h
  · cases h
  · cases h
  · cases h
    exact ⟨_, _, rfl⟩

/-- Built-in pipes fail at their input and in no other way. -/
theorem ofInput_of_standard {name : String} {pipe : Pipe}
    (hp : PipeSet.standard.builtin.get? name = some pipe) {v : Value} {args : List Literal}
    {e : Error} (h : pipe v args = .error e) : OfInput e := by
  have hmem := Fields.mem_of_get?_ofList hp
  simp only [List.mem_cons, List.not_mem_nil, Prod.mk.injEq, or_false] at hmem
  have hfields : ∀ {pipe : String} {f : Fields Value → Value},
      (do let fields ← fieldsOf pipe v; return f fields) = .error e → OfInput e := by
    intro pipe f h
    rcases bind_eq_error.1 h with h | ⟨_, -, h⟩
    · exact ofInput_of_fieldsOf h
    · cases h
  rcases hmem with ⟨-, rfl⟩ | ⟨-, rfl⟩ | ⟨-, rfl⟩ | ⟨-, rfl⟩ | ⟨-, rfl⟩ | ⟨-, rfl⟩ | ⟨-, rfl⟩ |
    ⟨-, rfl⟩ | ⟨-, rfl⟩ | ⟨-, rfl⟩ | ⟨-, rfl⟩ | ⟨-, rfl⟩ | ⟨-, rfl⟩
  case' inl | inr.inl | inr.inr.inl | inr.inr.inr.inl => cases h
  · rcases bind_eq_error.1 h with h | ⟨_, -, h⟩
    · exact ofInput_of_stringArg h
    · rcases bind_eq_error.1 h with h | ⟨_, -, h⟩
      · exact ofInput_of_stringArg h
      · cases h
  · exact hfields h
  · exact hfields h
  · exact hfields h
  · simp only [join] at h
    split at h
    · cases h
    · rcases bind_eq_error.1 h with h | ⟨_, -, h⟩
      · exact ofInput_of_stringArg h
      · cases h
  · unfold default at h
    split at h
    · cases h
      exact ⟨_, _, rfl⟩
    · cases h
  all_goals
    cases v <;> cases h
    all_goals exact ⟨_, _, rfl⟩

end Pipe

/-- No pipe and no formatter of the engine fails but at its input. -/
structure Engine.FailsAtInput (g : Engine) : Prop where
  pipe {name : String} {pipe : Pipe} {v : Value} {args : List Literal} {e : Error} :
    g.pipes.get? name = some pipe → pipe v args = .error e → Pipe.OfInput e
  formatter {line : String} {lookup : Path → Option Value} {e : Error} :
    g.formatter.format line lookup = .error e → Pipe.OfInput e

theorem Engine.failsAtInput_standard : standard.FailsAtInput where
  pipe hp he := Pipe.ofInput_of_standard hp he
  formatter he := nomatch he

/-! ### Errors of the template -/

/-- The engine has the built-in pipes, and no pipe or formatter of its own fails with an error of
the template. -/
structure Engine.NoSyntaxErrors (g : Engine) : Prop where
  builtin : g.pipes.builtin = PipeSet.standard.builtin
  custom {name : String} {pipe : Pipe} {v : Value} {args : List Literal} {e : Error} :
    g.pipes.custom.get? name = some pipe → pipe v args = .error e → e.isSyntax = false
  formatter {name : String} {format : String → (Path → Option Value) → Except Error String}
    {line : String} {lookup : Path → Option Value} {e : Error} :
    g.formatter = .custom name format → format line lookup = .error e → e.isSyntax = false

section

variable {g : Engine} (hg : g.NoSyntaxErrors)

theorem Literal.Raises.isSyntax {ls : List Literal} {e : Error} (h : Literal.Raises ls e) :
    e.isSyntax = false := by
  cases h
  rfl

include hg

theorem PipeCall.Raises.isSyntax {call : PipeCall} {e : Error} (h : call.Raises g e) :
    e.isSyntax = false := by
  cases h with
  | missing => rfl
  | argument ha => exact ha.isSyntax
  | pipe hp he =>
    rw [PipeSet.get?, hg.builtin] at hp
    cases hc : g.pipes.custom.get? call.name with
    | some pipe =>
      rw [hc] at hp
      cases hp
      exact hg.custom hc he
    | none =>
      rw [hc] at hp
      obtain ⟨_, _, rfl⟩ := Pipe.ofInput_of_standard hp he
      rfl

theorem Operand.Raises.isSyntax {o : Operand} {e : Error} (h : o.Raises g e) :
    e.isSyntax = false := by
  cases h with
  | literal _ hl => exact hl.isSyntax
  | pipe _ hp => exact hp.isSyntax hg

theorem Expr.Raises.isSyntax {x : Expr} {e : Error} (h : x.Raises g e) :
    e.isSyntax = false := by
  induction h with
  | operand ho => exact ho.isSyntax hg
  | order | pattern => rfl
  | part _ _ ih => exact ih

theorem Block.Raises.isSyntax {b : Block} {e : Error} (h : b.Raises g e) :
    e.isSyntax = false := by
  induction h with
  | @format content pos lookup e hf =>
    cases hk : g.formatter with
    | interpolator | verbatim =>
      rw [hk] at hf
      cases hf
    | custom name format =>
      rw [hk] at hf
      exact hg.formatter hk hf
  | expression _ hx => exact hx.isSyntax hg
  | operand _ ho => exact ho.isSyntax hg
  | case _ hl => exact hl.isSyntax
  | item | index | guard | check | definition => rfl
  | inner _ _ _ ih => exact ih

end

theorem Template.isSyntax_of_ofText {text : String} {e : Error}
    (h : ofText text = .error e) : e.isSyntax = true := by
  unfold ofText at h
  split at h
  · cases h
  · cases h
    rfl

namespace Engine

/-- A text has no outline just when it fails as a template, and then with the same error as when
it is evaluated, whatever the data are. All else that an evaluation fails with comes of the data:
everything that can be read has an outline, and no block in any state fails with an error of the
template. -/
theorem outline_error_iff_syntax_error {g : Engine} (hg : g.NoSyntaxErrors) :
    (∀ (text : String) (context : Fields Value) (e : Error), Outline.ofText text = .error e ↔
      g.evaluateText text context = .error e ∧ e.isSyntax = true) ∧
    (∀ text template, Template.ofText text = .ok template → ∃ o, Outline.ofText text = .ok o) ∧
    ∀ b s e, g.block b s = .error e → e.isSyntax = false := by
  have hblock : ∀ b s e, g.block b s = .error e → e.isSyntax = false :=
    fun b s e h => (block_and_blocks_raise.1 b s e h).isSyntax hg
  refine ⟨fun text context e => ?_, ?_, hblock⟩
  · constructor
    · intro h
      rcases bind_eq_error.1 h with ht | ⟨t, -, ho⟩
      · exact ⟨bind_eq_error.2 (.inl ht), Template.isSyntax_of_ofText ht⟩
      · cases ho
    · rintro ⟨h, hs⟩
      rcases bind_eq_error.1 h with ht | ⟨t, -, h⟩
      · exact bind_eq_error.2 (.inl ht)
      · rcases bind_eq_error.1 h with hr | ⟨r, -, hr⟩
        · -- The rendering has failed, and that is never the fault of the template.
          rcases bind_eq_error.1 hr with hj | ⟨_, -, hr⟩
          · obtain ⟨b, -, hb⟩ := block_and_blocks_raise.2 t.blocks _ e (joinLines_eq_error.1 hj)
            rw [hb.isSyntax hg] at hs
            cases hs
          · cases hr
        · cases hr
  · intro text template ht
    exact ⟨_, bind_eq_ok.2 ⟨template, ht, rfl⟩⟩

/-- An engine with a pipe and a formatter that always fail: a template with a fault fails as such,
and one without has an outline though it cannot be evaluated. -/
theorem outline_error_iff_syntax_error_failing : ∃ g : Engine, g.NoSyntaxErrors ∧
    (∃ e, Outline.ofText "#for x of :xs" = .error e ∧
      g.evaluateText "#for x of :xs" [] = .error e) ∧
    (∃ o, Outline.ofText "#var v = :a | boom" = .ok o) ∧
    g.evaluateText "#var v = :a | boom" [] = .error (.pipeInput "boom" (.other "always")) := by
  let boom : Pipe := fun _ _ => .error (.pipeInput "boom" (.other "always"))
  let refusing : Formatter := .custom "refusing" fun line _ => .error (.checkViolation line ⟨0, 0⟩)
  let g : Engine := { standard.registerPipe "boom" boom with formatter := refusing }
  have hg : g.NoSyntaxErrors := by
    refine ⟨rfl, ?_, ?_⟩
    · intro name pipe v args e hp he
      by_cases hn : "boom" = name
      · have hget : g.pipes.custom.get? name = some boom := by
          show Fields.get? [("boom", boom)] name = _
          rw [Fields.get?, if_pos hn]
        rw [hget] at hp
        cases hp
        cases he
        rfl
      · have hget : g.pipes.custom.get? name = none := by
          show Fields.get? [("boom", boom)] name = _
          rw [Fields.get?, if_neg hn]
          rfl
        rw [hget] at hp
        cases hp
    · intro name format line lookup e hf he
      cases hf
      cases he
      rfl
  obtain ⟨hiff, hread, -⟩ := outline_error_iff_syntax_error hg
  have hfault : Outline.ofText "#for x of :xs" =
      .error (.grammar ⟨.unterminated .loop [.endLoop], ⟨0, 0⟩⟩) := by cbv
  have htemplate : ∃ template, Template.ofText "#var v = :a | boom" = .ok template := by
    let value : Operand := ⟨.variable ⟨"a", []⟩, [⟨"boom", [], ⟨0, 14⟩⟩], ⟨0, 9⟩⟩
    refine ⟨⟨Token.tokenize "#var v = :a | boom",
      [.define ⟨"v", ⟨0, 5⟩⟩ (.operand value) ⟨0, 0⟩]⟩, ?_⟩
    cbv
  obtain ⟨template, ht⟩ := htemplate
  exact ⟨g, hg, ⟨_, hfault, ((hiff _ [] _).1 hfault).1⟩, hread _ template ht, by cbv⟩

end Engine

end LineTemplate
