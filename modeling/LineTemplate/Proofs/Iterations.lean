import LineTemplate.Proofs.KnownPatterns
import LineTemplate.Proofs.Union

/-!
# Iterations as renderings of their own

What an iteration of a loop becomes is what its body becomes on its own, with data that hold all
names visible around the loop and those of the loop. So an iteration knows nothing of the others,
nor of anything else that the rendering has left behind: of the layers of its scope no more than
the names in them.
-/

namespace LineTemplate

/-! ### All that can be seen -/

namespace Scope

/-- All names that can be seen, with their values, as one set of fields. -/
def visible (s : Scope) : Fields Value :=
  s.layers.foldr (fun layer outer => outer.union layer) []

@[simp] theorem get?_visible (s : Scope) (name : String) : s.visible.get? name = s.get? name := by
  rw [get?_eq_findSome?, visible]
  induction s.layers with
  | nil => rfl
  | cons layer outer ih =>
    rw [List.foldr_cons, Fields.get?_union, ih, List.findSome?_cons]
    cases layer.get? name <;> rfl

/-- In a separate scope nothing that a layer holds is hidden by another one. -/
theorem Separate.get?_visible_iff {s : Scope} (h : s.Separate) {name : String} {v : Value} :
    s.visible.get? name = some v ↔ ∃ layer ∈ s.layers, layer.get? name = some v := by
  rw [get?_visible, get?_eq_findSome?]
  constructor
  · exact List.exists_of_findSome?_eq_some
  · rintro ⟨layer, hm, hv⟩
    exact findSome?_of_mem h hm hv

theorem get?_define (s : Scope) (name key : String) (v : Value) :
    (s.define name v).get? key = if name = key then some v else s.get? key := by
  unfold define
  cases hs : s.frames with
  | nil =>
    simp only [get?, hs, List.findSome?_nil, Fields.get?_set]
    by_cases hk : name = key <;> simp [hk]
  | cons f outer =>
    simp only [get?, hs, List.findSome?_cons, Iteration.get?, Fields.get?_set]
    by_cases hk : name = key <;> simp [hk]

theorem inLoop_define (s : Scope) (name : String) (v : Value) :
    (s.define name v).inLoop = s.inLoop := by
  unfold define inLoop
  cases s.frames <;> simp

theorem get?_push_of_vars {f : Iteration} (hv : f.vars = []) (s : Scope) (name : String) :
    (s.push f).get? name = (f.bindings.get? name <|> s.get? name) := by
  simp only [push, get?, List.findSome?_cons, Iteration.get?, hv, Fields.get?_nil]
  cases f.bindings.get? name <;> rfl

end Scope

/-! ### States that see the same -/

namespace State

/-- The same names are visible, with the same values, either inside loops or outside. -/
structure SeesAlike (read : PatternReader) (s t : State) : Prop where
  get? (name : String) : s.scope.get? name = t.scope.get? name
  inLoop : s.scope.inLoop = t.scope.inLoop
  sound : Pattern.Known.BothSound read s.patterns t.patterns

/-- The state in which an iteration of the loop begins. -/
def inIteration (s : State) (l : Loop) (occurrence number : Nat) (item : Value) : State :=
  { s with scope := s.scope.push (Engine.iteration l occurrence number item) }

/-- The state of a rendering that has not begun yet, inside of an iteration that binds nothing. -/
def inside (context : Fields Value) (occurrence number : Nat) : State :=
  { start context with scope := (Scope.ofContext context).push ⟨occurrence, number, [], []⟩ }

end State

/-- The data that an iteration sees: what was seen around the loop, and the names of the loop. -/
def Loop.dataOf (l : Loop) (seen : Fields Value) (number : Nat) (item : Value) : Fields Value :=
  match l.index with
  | none => seen.set l.item.name item
  | some index => (seen.set l.item.name item).set index.name (.count number)

theorem Loop.get?_dataOf (l : Loop) (occurrence number : Nat) (item : Value)
    (seen : Fields Value) (name : String) : (l.dataOf seen number item).get? name =
      ((Engine.iteration l occurrence number item).bindings.get? name <|> seen.get? name) := by
  unfold Loop.dataOf Engine.iteration
  cases l.index with
  | none =>
    simp only [Fields.get?_set, Fields.get?]
    by_cases hi : l.item.name = name <;> simp [hi]
  | some index =>
    simp only [Fields.get?_set, Fields.get?]
    by_cases hx : index.name = name
    · simp [hx]
    · by_cases hi : l.item.name = name <;> simp [hx, hi]

namespace Engine

variable {g : Engine}

/-- What the body becomes with the data alone, as if it stood in a loop. -/
def bodyText (g : Engine) (body : List Block) (context : Fields Value) (occurrence number : Nat) :
    Except Error String :=
  (joinLines (g.blocks body (.inside context occurrence number))).map (·.1)

theorem simulation_of_seesAlike :
    Simulation g g (fun _ => True) (fun _ _ => True) (State.SeesAlike g.patterns) where
  accessor := rfl
  reader := rfl
  delimiter := rfl
  agree hR m _ := agree_of_get? hR.get? m
  inLoop hR := hR.inLoop
  format hR _ := by rw [lookup_eq_of_get? hR.get?]
  sound hR := hR.sound
  patterns hR hpq := { hR with sound := hpq }
  bind name v hR := by
    refine ⟨fun key => ?_, ?_, hR.sound⟩
    · simp only [State.define, Scope.get?_define, hR.get?]
    · simp only [State.define, Scope.inLoop_define, hR.inLoop]
  loops _ := trivial
  enter hR := { hR with }
  push l number item hR _ := by
    refine ⟨fun name => ?_, rfl, hR.sound⟩
    rw [Scope.get?_push_of_vars rfl, Scope.get?_push_of_vars rfl, hR.get?]
    rfl
  leave hR hR' := { hR with sound := hR'.sound }

theorem text_of_seesAlike {s t : State} (h : s.SeesAlike g.patterns t) (body : List Block) :
    (joinLines (g.blocks body s)).map (·.1) = (joinLines (g.blocks body t)).map (·.1) := by
  have hsim := simulation_of_seesAlike (g := g)
  exact (joinLines_alike (hsim.block_and_blocks.2 body _ (fun _ _ => trivial) s t h rfl)).map_fst

/-! ### Iterations -/

/-- An iteration sees the data that its loop leaves it, and nothing else. -/
theorem seesAlike_inside {s : State} (hs : s.patterns.Sound g.patterns) (l : Loop) (i j : Nat)
    (item : Value) (occurrence number : Nat) : (s.inIteration l i j item).SeesAlike g.patterns
      (.inside (l.dataOf s.scope.visible j item) occurrence number) := by
  refine ⟨fun name => ?_, rfl, hs, Pattern.Known.sound_nil⟩
  have hdata : (Scope.ofContext (l.dataOf s.scope.visible j item)).get? name =
      (l.dataOf s.scope.visible j item).get? name := rfl
  rw [State.inIteration, State.inside, Scope.get?_push_of_vars rfl, Scope.get?_push_of_vars rfl,
    hdata, Loop.get?_dataOf l i, Scope.get?_visible]
  rfl

/-- Between two iterations the scope is what it was around the loop. -/
theorem scope_of_iteration {body : List Block} {l : Loop} {i j : Nat} {item : Value} {s t : State}
    {text : String} (h : joinLines (g.blocks body (s.inIteration l i j item)) = .ok (text, t)) :
    t.scope.pop = s.scope :=
  ((stepwise_grows.block_and_blocks.2 body).joinLines _ text t h).pop_push

theorem scope_of_iterate {body : List Block} {l : Loop} {i j : Nat} {items : List Value}
    {s t : State} {texts : List String}
    (h : iterate (fun s => joinLines (g.blocks body s)) l i j items s = .ok (texts, t)) :
    t.scope = s.scope := by
  induction items generalizing j s texts with
  | nil =>
    cases h
    rfl
  | cons item more ih =>
    rw [iterate] at h
    obtain ⟨⟨text, u⟩, hu, h⟩ := bind_eq_ok.1 h
    obtain ⟨⟨texts', t'⟩, ht, hr⟩ := bind_eq_ok.1 h
    cases hr
    exact (ih ht).trans (scope_of_iteration hu)

/-- Behind the iterations over `before` the rendering is at those that are left. -/
theorem Reaches.iterate {task : Task} {s₀ : State} {body : List Block} {l : Loop}
    {occurrence number : Nat} {before after : List Value} {s t : State} {texts : List String}
    (h : g.Reaches task s₀ (.iterations body l occurrence number (before ++ after)) s)
    (hi : Engine.iterate (fun s => joinLines (g.blocks body s)) l occurrence number before s
      = .ok (texts, t)) :
    g.Reaches task s₀ (.iterations body l occurrence (number + before.length) after) t := by
  induction before generalizing number s texts with
  | nil =>
    cases hi
    exact h
  | cons item more ih =>
    rw [Engine.iterate] at hi
    obtain ⟨⟨text, u⟩, hu, hi⟩ := bind_eq_ok.1 hi
    obtain ⟨⟨texts', t'⟩, ht, hr⟩ := bind_eq_ok.1 hi
    cases hr
    obtain ⟨lines, hu, -⟩ := joinLines_eq_ok.1 hu
    have hmore := ih (h.step (.laterIteration hu)) ht
    rw [Nat.add_right_comm] at hmore
    exact hmore

theorem iterate_cons (body : State → Except Error (String × State)) (l : Loop) (i j : Nat)
    (item : Value) (more : List Value) (s : State) : iterate body l i j (item :: more) s =
      (body (s.inIteration l i j item)).bind fun (text, t) =>
        (iterate body l i (j + 1) more { t with scope := t.scope.pop }).bind fun (texts, u) =>
          .ok (if Text.isBlank text then texts else text :: texts, u) := rfl

/-- The texts of iterations are known from what each of them comes to on its own: the first
failure ends them, and blank texts are left out. -/
theorem iterate_eq_mapM (body : State → Except Error (String × State)) (l : Loop) (i : Nat)
    (own : Value → Nat → Except Error String) (Inv : State → Prop)
    (htext : ∀ s item j, Inv s → (body (s.inIteration l i j item)).map (·.1) = own item j)
    (hinv : ∀ s item j text t, Inv s → body (s.inIteration l i j item) = .ok (text, t) →
      Inv { t with scope := t.scope.pop })
    (items : List Value) (j : Nat) {s : State} (hs : Inv s) :
    (iterate body l i j items s).map (·.1) =
      ((items.zipIdx j).mapM fun p => own p.1 p.2).map
        fun texts : List String => texts.filter (!Text.isBlank ·) := by
  induction items generalizing j s with
  | nil => rfl
  | cons item more ih =>
    have hown := htext s item j hs
    rw [iterate_cons, List.zipIdx_cons, List.mapM_cons]
    simp only [← hown]
    cases hb : body (s.inIteration l i j item) with
    | error e => rfl
    | ok r =>
      obtain ⟨text, t⟩ := r
      have hmore := ih (j + 1) (hinv s item j text t hs hb)
      cases hy : (more.zipIdx (j + 1)).mapM fun p => own p.1 p.2 with
      | error e =>
        rw [hy] at hmore
        have hx : iterate body l i (j + 1) more { t with scope := t.scope.pop } = .error e :=
          map_eq_error.1 hmore
        simp only [Except.map, Except.bind, bind, hx]
      | ok texts =>
        rw [hy] at hmore
        obtain ⟨⟨kept, u⟩, hx, rfl⟩ := map_eq_ok.1 hmore
        simp only [Except.map, Except.bind, bind, hx, pure, Except.pure, List.filter_cons]
        cases Text.isBlank text <;> rfl

theorem loopText_filter (g : Engine) (l : Loop) (texts : List String) :
    g.loopText l (texts.filter (!Text.isBlank ·)) =
      if texts.all Text.isBlank then ""
      else l.opening.getD "" ++
        Text.joinWith (l.delimiter.getD g.config.delimiter) (texts.filter (!Text.isBlank ·)) ++
        l.closing.getD "" := by
  cases hall : texts.all Text.isBlank with
  | true =>
    have hnil : texts.filter (!Text.isBlank ·) = [] := by
      rw [List.filter_eq_nil_iff]
      intro text hm
      simp [List.all_eq_true.1 hall text hm]
    rw [hnil]
    rfl
  | false =>
    obtain ⟨text, hm, hb⟩ := List.all_eq_false.1 hall
    have hkept : text ∈ texts.filter (!Text.isBlank ·) := by
      rw [List.mem_filter]
      exact ⟨hm, by simpa using hb⟩
    cases hf : texts.filter (!Text.isBlank ·) with
    | nil =>
      rw [hf] at hkept
      cases hkept
    | cons first rest => rfl

/-- A loop that is entered becomes what its iterations come to, each with the data around the loop
and its own. -/
theorem loop_eq_mapM {header : Loop} {body : List Block} {pos : Position} {s : State} {v : Value}
    (hs : s.patterns.Sound g.patterns) (hfree : checkLoop s header = .ok ())
    (hv : g.operand s.scope header.source = .ok v) (occurrence number : Nat) :
    (g.block (.loop header body pos) s).map (·.1) =
      (v.items.zipIdx.mapM fun p =>
        g.bodyText body (header.dataOf s.scope.visible p.2 p.1) occurrence number).map
        fun texts : List String => g.loopText header (texts.filter (!Text.isBlank ·)) := by
  have hrun : g.block (.loop header body pos) s =
      (iterate (fun s => joinLines (g.blocks body s)) header s.loops 0 v.items
        { s with loops := s.loops + 1 }).map fun (texts, t) => (g.loopText header texts, t) := by
    have hfree' : checkLoop { s with loops := s.loops + 1 } header = .ok () := hfree
    rw [block, hfree', hv]
    rfl
  -- Every iteration begins in the scope around the loop, with patterns that are sound.
  let Inv (t : State) : Prop := t.scope = s.scope ∧ t.patterns.Sound g.patterns
  have htext : ∀ t item j, Inv t →
      (joinLines (g.blocks body (t.inIteration header s.loops j item))).map (·.1) =
        g.bodyText body (header.dataOf s.scope.visible j item) occurrence number := by
    rintro t item j ⟨ht, hts⟩
    rw [← ht]
    exact text_of_seesAlike (seesAlike_inside hts header _ j item occurrence number) body
  have hinv : ∀ t item j text u, Inv t →
      joinLines (g.blocks body (t.inIteration header s.loops j item)) = .ok (text, u) →
      Inv { u with scope := u.scope.pop } := by
    rintro t item j text u ⟨ht, hts⟩ hu
    refine ⟨(scope_of_iteration hu).trans ht, ?_⟩
    exact (stepwise_sound.block_and_blocks.2 body).joinLines _ text u hu hts
  have htexts := iterate_eq_mapM (fun s => joinLines (g.blocks body s)) header s.loops
    (fun item j => g.bodyText body (header.dataOf s.scope.visible j item) occurrence number)
    Inv htext hinv v.items 0 (s := { s with loops := s.loops + 1 }) ⟨rfl, hs⟩
  have hmap : (g.block (.loop header body pos) s).map (·.1) =
      ((iterate (fun s => joinLines (g.blocks body s)) header s.loops 0 v.items
        { s with loops := s.loops + 1 }).map (·.1)).map (g.loopText header) := by
    rw [hrun, map_map, map_map]
  rw [hmap, htexts, map_map]

/-- Whenever a rendering comes to a loop whose names are free and that has items, an iteration
becomes what the body becomes on its own, with all names visible around the loop and those of the
iteration as its data. The loop fails as the first iteration that fails; otherwise it puts
together the texts of its iterations that are not blank. -/
theorem loop_eq_renderings (g : Engine) {template : List Block} {context : Fields Value}
    {header : Loop} {body : List Block} {pos : Position} {s : State} {v : Value}
    (h : g.Reaches (.blocks template) (.start context) (.block (.loop header body pos)) s)
    (hfree : checkLoop s header = .ok ()) (hv : g.operand s.scope header.source = .ok v)
    (occurrence number : Nat) :
    (∀ name w, s.scope.visible.get? name = some w ↔
      ∃ layer ∈ s.scope.layers, layer.get? name = some w) ∧
    (∀ before item after texts t, v.items = before ++ item :: after →
      iterate (fun s => joinLines (g.blocks body s)) header s.loops 0 before
        { s with loops := s.loops + 1 } = .ok (texts, t) →
      g.Reaches (.block (.loop header body pos)) s (.blocks body)
        (t.inIteration header s.loops before.length item) ∧
      (joinLines (g.blocks body (t.inIteration header s.loops before.length item))).map (·.1) =
        g.bodyText body (header.dataOf s.scope.visible before.length item) occurrence number) ∧
    (g.block (.loop header body pos) s).map (·.1) =
      (v.items.zipIdx.mapM fun p =>
        g.bodyText body (header.dataOf s.scope.visible p.2 p.1) occurrence number).map
        fun texts : List String =>
          if texts.all Text.isBlank then ""
          else header.opening.getD "" ++
            Text.joinWith (header.delimiter.getD g.config.delimiter)
              (texts.filter (!Text.isBlank ·)) ++
            header.closing.getD "" := by
  have hsep : s.scope.Separate := (h.scope (separate_start context) trivial).1
  have hsound : s.patterns.Sound g.patterns := h.sound Pattern.Known.sound_nil
  refine ⟨fun name w => hsep.get?_visible_iff, ?_, ?_⟩
  · intro before item after texts t hitems hi
    have hscope := scope_of_iterate hi
    replace hscope : t.scope = s.scope := hscope
    have hts : t.patterns.Sound g.patterns :=
      stepwise_sound.ends (.iterations body header s.loops 0 before) ⟨texts, hi⟩ hsound
    refine ⟨?_, ?_⟩
    · have hloop : g.Reaches (.block (.loop header body pos)) s
          (.iterations body header s.loops 0 v.items) { s with loops := s.loops + 1 } :=
        .step .start (.loop hfree hv)
      rw [hitems] at hloop
      have hthere := hloop.iterate hi
      rw [Nat.zero_add] at hthere
      exact hthere.step .iteration
    · rw [← hscope]
      exact text_of_seesAlike (seesAlike_inside hts header _ _ item occurrence number) body
  · rw [loop_eq_mapM hsound hfree hv occurrence number]
    simp only [loopText_filter]

/-- A loop inside another one, where a definition, a row and the data can be seen. -/
theorem loop_eq_renderings_inner :
    ∃ (template : List Block) (header : Loop) (body : List Block) (s : State),
      standard.Reaches (.blocks template) (.start [("rows", .array [.array [.string "p", .null]])])
        (.block (.loop header body ⟨2, 0⟩)) s ∧
      checkLoop s header = .ok () ∧
      standard.operand s.scope header.source = .ok (.array [.string "p", .null]) ∧
      s.scope.visible.names = ["mark", "row", "rows"] ∧
      (standard.block (.loop header body ⟨2, 0⟩) s).map (·.1) = .ok "*p0,*1" := by
  let named (name : String) : Operand := ⟨.variable ⟨name, []⟩, [], ⟨0, 0⟩⟩
  let rows : Loop := ⟨⟨"row", ⟨1, 5⟩⟩, none, named "rows", none, none, none⟩
  let cells : Loop :=
    ⟨⟨"cell", ⟨2, 5⟩⟩, some ⟨"i", ⟨2, 11⟩⟩, named "row", some ",", none, none⟩
  let body : List Block := [.text "${mark}${cell}${i}" ⟨3, 0⟩]
  let mark : Block :=
    .define ⟨"mark", ⟨0, 5⟩⟩ (.operand ⟨.literal (.string "*"), [], ⟨0, 12⟩⟩) ⟨0, 0⟩
  let template : List Block := [mark, .loop rows [.loop cells body ⟨2, 0⟩] ⟨1, 0⟩]
  have h0 : standard.Reaches (.blocks template)
      (.start [("rows", .array [.array [.string "p", .null]])]) _ _ := .start
  have h1 := (h0.step (.tail rfl)).step .head
  have h2 := h1.step (.loop rfl rfl)
  have h3 := (h2.step .iteration).step .head
  refine ⟨template, cells, body, _, h3, rfl, rfl, by cbv, ?_⟩
  have htext := (loop_eq_renderings standard h3 rfl rfl 7 7).2.2
  rw [htext]
  cbv

end Engine

end LineTemplate
