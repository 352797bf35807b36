import LineTemplate.Proofs.Layers
import LineTemplate.Proofs.Visits

/-!
# Bindings during a rendering

Whatever a rendering is at work on, the layers of its scope are separate: a name is bound once or
not at all. Whatever it completes leaves the scope as it was, but for definitions under names that
were free; so a name keeps its value for as long as it can be seen.
-/

namespace LineTemplate

namespace Loop

def names (l : Loop) : List String := l.item.name :: l.index.toList.map (·.name)

end Loop

/-- The names of a loop that is running are free outside of its iterations. -/
def Task.Fits (scope : Scope) : Task → Prop
  | .iterations _ header _ _ _ => ∀ name ∈ header.names, scope.isBound name = false
  | _ => True

namespace Engine

variable {g : Engine}

theorem checkLoop_eq_ok {s : State} {l : Loop} (h : checkLoop s l = .ok ()) :
    ∀ name ∈ l.names, s.scope.isBound name = false := by
  intro name hn
  unfold checkLoop at h
  unfold Loop.names at hn
  cases hi : l.index with
  | none =>
    rw [hi] at h hn
    rw [List.mem_singleton.1 hn]
    exact checkFree_eq_ok.1 h
  | some index =>
    rw [hi] at h hn
    simp only at h
    split at h
    · cases h
    · obtain ⟨⟨⟩, hindex, hitem⟩ := bind_eq_ok.1 h
      rcases List.mem_cons.1 hn with rfl | hn
      · exact checkFree_eq_ok.1 hitem
      · rw [List.mem_singleton.1 hn]
        exact checkFree_eq_ok.1 hindex

theorem mem_names_iteration {l : Loop} {occurrence number : Nat} {item : Value} :
    ∀ name ∈ (iteration l occurrence number item).bindings.names, name ∈ l.names := by
  intro name h
  unfold iteration at h
  unfold Loop.names
  cases hi : l.index with
  | none => simpa [hi, Fields.names] using h
  | some index =>
    simp only [hi] at h
    rcases Fields.mem_names_set.1 h with rfl | h
    · simp
    · have hitem : name = l.item.name := by simpa [Fields.names] using h
      simp [hitem]

/-! ### Growing -/

theorem stepwise_grows : g.Stepwise fun s t => s.scope.Grows t.scope where
  refl s := .refl s.scope
  trans h h' := h.trans h'
  evaluate e := by
    intro s v t ht
    obtain ⟨known, -, rfl⟩ := evaluate_eq_ok.1 ht
    exact .refl s.scope
  define v hfree := Scope.grows_define hfree v
  enter s := .refl s.scope
  iterate := by
    intro s t frame h
    show s.scope.Grows t.scope.pop
    rw [Scope.Grows.pop_push h]
    exact .refl s.scope

/-- A task that begins another one leaves it a separate scope, in which all names that were bound
have their values. -/
theorem Enters.scope {task inner : Task} {s t : State} (h : g.Enters task s inner t)
    (hs : s.scope.Separate) (hf : task.Fits s.scope) :
    t.scope.Separate ∧ inner.Fits t.scope ∧
      ∀ name v, s.scope.get? name = some v → t.scope.get? name = some v := by
  have hgrow : ∀ {t : State}, s.scope.Grows t.scope → t.scope.Separate ∧ True ∧
      ∀ name v, s.scope.get? name = some v → t.scope.get? name = some v :=
    fun hg => ⟨hg.separate hs, trivial, fun _ _ hv => hg.get?_eq_some hv⟩
  cases h with
  | consequence ht | alternative ht | guard ht | when ht | laterWhen ht =>
    exact hgrow (stepwise_grows.holds _ _ _ _ ht)
  | chooseDefault ht =>
    exact hgrow (stepwise_grows.ends (.whens _) ⟨none, ht⟩)
  | tail ht => exact hgrow (stepwise_grows.ends (.block _) ⟨_, ht⟩)
  | switch | switchDefault | choose | head | optional | case | laterCase =>
    exact hgrow (.refl s.scope)
  | loop hfree => exact ⟨hs, checkLoop_eq_ok hfree, fun _ _ hv => hv⟩
  | iteration =>
    refine ⟨hs.push rfl ?_, trivial, fun _ _ hv => Scope.get?_push rfl ?_ hv⟩
    · exact fun name hn => hf name (mem_names_iteration name hn)
    · exact fun name hn => hf name (mem_names_iteration name hn)
  | laterIteration ht =>
    have hgs := stepwise_grows.ends (.blocks _) ⟨_, ht⟩
    have hpop := Scope.Grows.pop_push hgs
    rw [hpop]
    exact ⟨hs, hf, fun _ _ hv => hv⟩

theorem Reaches.scope {task inner : Task} {s t : State} (h : g.Reaches task s inner t)
    (hs : s.scope.Separate) (hf : task.Fits s.scope) :
    t.scope.Separate ∧ inner.Fits t.scope ∧
      ∀ name v, s.scope.get? name = some v → t.scope.get? name = some v := by
  induction h with
  | start => exact ⟨hs, hf, fun _ _ hv => hv⟩
  | step _ he ih =>
    obtain ⟨hsep, hfits, hkeep⟩ := ih
    obtain ⟨hsep', hfits', hkeep'⟩ := he.scope hsep hfits
    exact ⟨hsep', hfits', fun name v hv => hkeep' name v (hkeep name v hv)⟩

theorem separate_start (context : Fields Value) : (State.start context).scope.Separate := by
  have hl : (State.start context).scope.layers = [[], context] := rfl
  rw [Scope.Separate, hl, List.pairwise_cons, List.pairwise_cons]
  refine ⟨fun _ _ name hn => ?_, fun _ hm => ?_, .nil⟩
  · cases hn
  · cases hm

/-- In every state that a rendering comes to, no name is bound in two layers, so that the layers
may be searched in any order; every task that succeeds there lets the scope grow and leaves it
separate; and all that begins within the task sees the names that are bound, with their values. -/
theorem rendering_binds_once (g : Engine) (template : List Block) (context : Fields Value)
    {task : Task} {s : State} (h : g.Reaches (.blocks template) (.start context) task s) :
    s.scope.Separate ∧
    (∀ (name : String) (i j : Nat) (a b : Fields Value), s.scope.layers[i]? = some a →
      s.scope.layers[j]? = some b → name ∈ a.names → name ∈ b.names → i = j) ∧
    (∀ (order : List (Fields Value)) (name : String), order.Perm s.scope.layers →
      order.findSome? (·.get? name) = s.scope.get? name) ∧
    (∀ t, task.Ends g s t → s.scope.Grows t.scope ∧ t.scope.Separate ∧
      ∀ name v, s.scope.get? name = some v → t.scope.get? name = some v) ∧
    ∀ inner t, g.Reaches task s inner t →
      ∀ name v, s.scope.get? name = some v → t.scope.get? name = some v := by
  obtain ⟨hsep, hfits, -⟩ := h.scope (separate_start context) trivial
  refine ⟨hsep, ?_, ?_, ?_, ?_⟩
  · intro name i j a b hi hj ha hb
    exact hsep.eq_of_mem_names hi hj ha hb
  · intro order name hp
    exact hsep.findSome?_perm hp name
  · intro t ht
    have hgrows := stepwise_grows.ends _ ht
    exact ⟨hgrows, hgrows.separate hsep, fun _ _ hv => hgrows.get?_eq_some hv⟩
  · intro inner t hr
    exact (hr.scope hsep hfits).2.2

/-- Behind a definition outside and one inside of a loop, four layers bind a name each. -/
theorem rendering_binds_once_in_loop :
    ∃ (template : List Block) (s : State),
      standard.Reaches (.blocks template) (.start [("data", .null)])
        (.block (.text "${item}" ⟨3, 0⟩)) s ∧
      s.scope.Separate ∧
      s.scope.layers.map Fields.names = [["inner"], ["item"], ["outer"], ["data"]] := by
  let value : Operand := ⟨.literal (.string "v"), [], ⟨0, 0⟩⟩
  let header : Loop := ⟨⟨"item", ⟨1, 5⟩⟩, none, value, none, none, none⟩
  let body : List Block :=
    [.define ⟨"inner", ⟨2, 5⟩⟩ (.operand value) ⟨2, 0⟩, .text "${item}" ⟨3, 0⟩]
  let template : List Block :=
    [.define ⟨"outer", ⟨0, 5⟩⟩ (.operand value) ⟨0, 0⟩, .loop header body ⟨1, 0⟩]
  have h0 : standard.Reaches (.blocks template) (.start [("data", .null)]) _ _ := .start
  have h1 := h0.step (.tail rfl)
  have h2 := (h1.step .head).step (.loop rfl rfl)
  have h3 := (h2.step .iteration).step (.tail rfl)
  have h4 := h3.step .head
  exact ⟨template, _, h4, (rendering_binds_once standard template _ h4).1, rfl⟩

end Engine

end LineTemplate
