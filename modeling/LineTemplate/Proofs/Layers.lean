import LineTemplate.Scope

/-!
# Layers of a scope

A scope is a pile of layers, each a set of fields: the definitions and the item names of every
iteration, the definitions outside of loops, and the data. In a separate scope no name is in two
layers, so the order in which they are searched does not matter. `Grows` says how a scope may
change while the same iterations are running: the innermost layer of definitions takes on names
that were not bound, and nothing else happens.
-/

namespace LineTemplate.Scope

/-- The layers in the order in which a name is looked for. -/
def layers (s : Scope) : List (Fields Value) :=
  s.frames.flatMap (fun f => [f.vars, f.bindings]) ++ [s.defined, s.context]

/-- No name is in two layers. -/
def Separate (s : Scope) : Prop :=
  s.layers.Pairwise fun a b => ∀ name ∈ a.names, name ∉ b.names

/-- `new` has all that `old` has, and otherwise only names that the scope does not bind. -/
def Extends (s : Scope) (old new : Fields Value) : Prop :=
  (∀ name v, old.get? name = some v → new.get? name = some v) ∧
    ∀ name ∈ new.names, name ∈ old.names ∨ s.isBound name = false

/-- From `s` to `t` definitions were added, under names that were free: to the innermost iteration
if there is one, else to the definitions outside of loops. All else is the same. -/
def Grows (s t : Scope) : Prop :=
  t.context = s.context ∧
    match s.frames with
    | [] => t.frames = [] ∧ s.Extends s.defined t.defined
    | f :: outer => t.defined = s.defined ∧
        ∃ vars, t.frames = { f with vars } :: outer ∧ s.Extends f.vars vars

/-! ### Looking names up -/

theorem findSome?_frames (frames : List Iteration) (name : String) :
    (frames.flatMap fun f => [f.vars, f.bindings]).findSome? (·.get? name)
      = frames.findSome? (·.get? name) := by
  induction frames with
  | nil => rfl
  | cons f outer ih =>
    simp only [List.flatMap_cons, List.findSome?_append, List.findSome?_cons, List.findSome?_nil,
      Iteration.get?, ih]
    cases f.vars.get? name <;> cases f.bindings.get? name <;> rfl

theorem get?_eq_findSome? (s : Scope) (name : String) :
    s.get? name = s.layers.findSome? (·.get? name) := by
  rw [layers, List.findSome?_append, findSome?_frames]
  cases hd : s.defined.get? name <;> cases hc : s.context.get? name <;> simp [get?, hd, hc]

theorem isBound_eq_false {s : Scope} {name : String} :
    s.isBound name = false ↔ ∀ layer ∈ s.layers, name ∉ layer.names := by
  rw [isBound, get?_eq_findSome?, Option.isSome_eq_false_iff, Option.isNone_iff_eq_none,
    List.findSome?_eq_none_iff]
  simp only [Fields.get?_eq_none]

theorem isBound_of_get? {s : Scope} {name : String} {v : Value} (h : s.get? name = some v) :
    s.isBound name = true := by
  rw [isBound, h]
  rfl

/-- Among separate layers a name leads to what the only layer with the name has. -/
theorem findSome?_of_mem {layers : List (Fields Value)} {layer : Fields Value} {name : String}
    {v : Value} (hs : layers.Pairwise fun a b => ∀ name ∈ a.names, name ∉ b.names)
    (hm : layer ∈ layers) (hv : layer.get? name = some v) :
    layers.findSome? (·.get? name) = some v := by
  induction layers with
  | nil => cases hm
  | cons first rest ih =>
    rw [List.findSome?_cons]
    rw [List.pairwise_cons] at hs
    rcases List.mem_cons.1 hm with rfl | hm
    · rw [hv]
    · have hn : first.get? name = none := by
        rw [Fields.get?_eq_none]
        intro hf
        exact hs.1 layer hm name hf (Fields.mem_names_of_get? hv)
      rw [hn]
      exact ih hs.2 hm

/-- In a separate scope the layers may be searched in any order. -/
theorem Separate.findSome?_perm {s : Scope} (h : s.Separate) {order : List (Fields Value)}
    (hp : order.Perm s.layers) (name : String) :
    order.findSome? (·.get? name) = s.get? name := by
  have hsep : order.Pairwise fun a b => ∀ name ∈ a.names, name ∉ b.names :=
    (hp.pairwise_iff fun hab name hb ha => hab name ha hb).2 h
  rw [get?_eq_findSome?]
  cases ho : order.findSome? (·.get? name) with
  | none =>
    rw [List.findSome?_eq_none_iff] at ho
    rw [eq_comm, List.findSome?_eq_none_iff]
    intro layer hl
    exact ho layer (hp.mem_iff.2 hl)
  | some v =>
    obtain ⟨layer, hl, hv⟩ := List.exists_of_findSome?_eq_some ho
    exact (findSome?_of_mem h (hp.mem_iff.1 hl) hv).symm

/-- In a separate scope a name is in one layer at most. -/
theorem Separate.eq_of_mem_names {s : Scope} (h : s.Separate) {i j : Nat} {a b : Fields Value}
    {name : String} (hi : s.layers[i]? = some a) (hj : s.layers[j]? = some b)
    (ha : name ∈ a.names) (hb : name ∈ b.names) : i = j := by
  obtain ⟨hil, rfl⟩ := List.getElem?_eq_some_iff.1 hi
  obtain ⟨hjl, rfl⟩ := List.getElem?_eq_some_iff.1 hj
  have hlt := List.pairwise_iff_getElem.1 h
  rcases Nat.lt_trichotomy i j with hij | hij | hij
  · exact absurd hb (hlt i j hil hjl hij name ha)
  · exact hij
  · exact absurd ha (hlt j i hjl hil hij name hb)

/-! ### Growing -/

theorem Extends.refl (s : Scope) (fields : Fields Value) : s.Extends fields fields :=
  ⟨fun _ _ h => h, fun _ h => .inl h⟩

theorem Grows.layers {s t : Scope} (h : s.Grows t) :
    ∃ old new rest, s.layers = old :: rest ∧ t.layers = new :: rest ∧ s.Extends old new := by
  obtain ⟨hc, hf⟩ := h
  cases hs : s.frames with
  | nil =>
    rw [hs] at hf
    obtain ⟨ht, he⟩ := hf
    refine ⟨s.defined, t.defined, [s.context], ?_, ?_, he⟩
    · simp [Scope.layers, hs]
    · simp [Scope.layers, ht, hc]
  | cons f outer =>
    rw [hs] at hf
    obtain ⟨hd, vars, ht, he⟩ := hf
    refine ⟨f.vars, vars, (Scope.layers { s with frames := f :: outer }).tail, ?_, ?_, he⟩
    · simp [Scope.layers, hs]
    · simp [Scope.layers, ht, hd, hc]

theorem Grows.get?_eq_some {s t : Scope} (h : s.Grows t) {name : String} {v : Value}
    (hv : s.get? name = some v) : t.get? name = some v := by
  have hb := isBound_of_get? hv
  obtain ⟨old, new, rest, hs, ht, hold, hnew⟩ := h.layers
  rw [get?_eq_findSome?, hs, List.findSome?_cons] at hv
  rw [get?_eq_findSome?, ht, List.findSome?_cons]
  cases ho : old.get? name with
  | some w =>
    rw [ho] at hv
    rw [hold name w ho]
    exact hv
  | none =>
    rw [ho] at hv
    cases hn : new.get? name with
    | none => exact hv
    | some w =>
      rcases hnew name (Fields.mem_names_of_get? hn) with hmem | hfree
      · exact absurd hmem (Fields.get?_eq_none.1 ho)
      · rw [hb] at hfree
        cases hfree

theorem Grows.isBound_eq_false {s t : Scope} (h : s.Grows t) {name : String}
    (ht : t.isBound name = false) : s.isBound name = false := by
  cases hs : s.get? name with
  | none => rw [isBound, hs]; rfl
  | some v =>
    rw [isBound_of_get? (h.get?_eq_some hs)] at ht
    cases ht

theorem Grows.separate {s t : Scope} (h : s.Grows t) (hs : s.Separate) : t.Separate := by
  obtain ⟨old, new, rest, hl, ht, hold, hnew⟩ := h.layers
  rw [Separate, hl, List.pairwise_cons] at hs
  rw [Separate, ht, List.pairwise_cons]
  refine ⟨?_, hs.2⟩
  intro layer hm name hn
  rcases hnew name hn with ho | hfree
  · exact hs.1 layer hm name ho
  · rw [Scope.isBound_eq_false, hl] at hfree
    exact hfree layer (List.mem_cons_of_mem _ hm)

theorem Extends.trans {s t : Scope} (h : s.Grows t) {a b c : Fields Value}
    (hab : s.Extends a b) (hbc : t.Extends b c) : s.Extends a c := by
  refine ⟨fun name v hv => hbc.1 name v (hab.1 name v hv), ?_⟩
  intro name hc
  rcases hbc.2 name hc with hb | hfree
  · exact hab.2 name hb
  · exact .inr (h.isBound_eq_false hfree)

theorem Grows.refl (s : Scope) : s.Grows s := by
  refine ⟨rfl, ?_⟩
  cases hs : s.frames with
  | nil => exact ⟨rfl, .refl s _⟩
  | cons f outer => exact ⟨rfl, f.vars, rfl, .refl s _⟩

theorem Grows.trans {s t u : Scope} (h : s.Grows t) (h' : t.Grows u) : s.Grows u := by
  have hst := h
  obtain ⟨hc, hf⟩ := h
  obtain ⟨hc', hf'⟩ := h'
  refine ⟨hc'.trans hc, ?_⟩
  cases hs : s.frames with
  | nil =>
    rw [hs] at hf
    rw [hf.1] at hf'
    exact ⟨hf'.1, hf.2.trans hst hf'.2⟩
  | cons f outer =>
    rw [hs] at hf
    obtain ⟨hd, vars, ht, he⟩ := hf
    rw [ht] at hf'
    obtain ⟨hd', vars', hu, he'⟩ := hf'
    exact ⟨hd'.trans hd, vars', hu, he.trans hst he'⟩

theorem Grows.inLoop {s t : Scope} (h : s.Grows t) : t.inLoop = s.inLoop := by
  obtain ⟨-, hf⟩ := h
  unfold Scope.inLoop
  cases hs : s.frames with
  | nil =>
    rw [hs] at hf
    rw [hf.1]
  | cons f outer =>
    rw [hs] at hf
    obtain ⟨-, vars, ht, -⟩ := hf
    rw [ht]
    rfl

theorem grows_define {s : Scope} {name : String} (h : s.isBound name = false) (v : Value) :
    s.Grows (s.define name v) := by
  have hset : ∀ old : Fields Value, old ∈ s.layers → s.Extends old (old.set name v) := by
    intro old hm
    refine ⟨?_, ?_⟩
    · intro key w hw
      have hne : name ≠ key := by
        rintro rfl
        exact isBound_eq_false.1 h old hm (Fields.mem_names_of_get? hw)
      rw [Fields.get?_set, if_neg hne]
      exact hw
    · intro key hk
      rcases Fields.mem_names_set.1 hk with rfl | hk
      · exact .inr h
      · exact .inl hk
  unfold define
  cases hs : s.frames with
  | nil =>
    refine ⟨rfl, ?_⟩
    rw [hs]
    exact ⟨rfl, hset _ (by simp [layers])⟩
  | cons f outer =>
    refine ⟨rfl, ?_⟩
    rw [hs]
    exact ⟨rfl, _, rfl, hset _ (by simp [layers, hs])⟩

/-! ### Iterations -/

theorem Grows.pop_push {s t : Scope} {f : Iteration} (h : (s.push f).Grows t) : t.pop = s := by
  obtain ⟨hc, hd, vars, ht, -⟩ := h
  cases t
  simp only [push] at hc hd ht
  subst hc hd ht
  rfl

/-- An iteration whose names are free keeps the layers separate. -/
theorem Separate.push {s : Scope} (h : s.Separate) {f : Iteration} (hv : f.vars = [])
    (hf : ∀ name ∈ f.bindings.names, s.isBound name = false) : (s.push f).Separate := by
  have hl : (s.push f).layers = f.vars :: f.bindings :: s.layers := rfl
  rw [Separate, hl, List.pairwise_cons, List.pairwise_cons, hv]
  refine ⟨fun _ _ name hn => ?_, fun layer hm name hn => ?_, h⟩
  · cases hn
  · exact isBound_eq_false.1 (hf name hn) layer hm

theorem get?_push {s : Scope} {f : Iteration} (hv : f.vars = [])
    (hf : ∀ name ∈ f.bindings.names, s.isBound name = false) {name : String} {v : Value}
    (h : s.get? name = some v) : (s.push f).get? name = some v := by
  have hb : f.bindings.get? name = none := by
    rw [Fields.get?_eq_none]
    intro hm
    have hfree := hf name hm
    rw [isBound_of_get? h] at hfree
    cases hfree
  have hl : (s.push f).layers = f.vars :: f.bindings :: s.layers := rfl
  rw [get?_eq_findSome?, hl, hv, List.findSome?_cons, Fields.get?_nil, List.findSome?_cons, hb,
    ← get?_eq_findSome?]
  exact h

end LineTemplate.Scope
