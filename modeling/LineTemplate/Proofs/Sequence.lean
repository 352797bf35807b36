import LineTemplate.Proofs.Occurrences
import LineTemplate.Proofs.Simulation

/-!
# One rendering behind another

What a list of blocks leaves behind outside of loops is to the blocks that follow it what data are
to blocks that come first. So two lists of blocks one behind the other become what the first one
becomes, and behind it what the second one becomes with the definitions of the first one among its
data. Only the numbers of its loops begin where the first list has ended.
-/

namespace LineTemplate

namespace Iteration

/-- The same iteration, behind `n` more loops. -/
def behind (n : Nat) (f : Iteration) : Iteration := { f with occurrence := f.occurrence + n }

end Iteration

namespace State

/-- In `s` a rendering goes on behind `u`, which has ended outside of loops; in `t` it has done the
same from the start, with what is visible in `u` as its data. -/
structure GoesOn (read : PatternReader) (u s t : State) : Prop where
  context : s.scope.context = u.scope.context
  data : t.scope.context = u.scope.context.union u.scope.defined
  defined : s.scope.defined = u.scope.defined.union t.scope.defined
  frames : s.scope.frames = t.scope.frames.map (·.behind u.loops)
  loopVars : s.loopVars = u.loopVars.union (t.loopVars.behind u.loops)
  loops : s.loops = t.loops + u.loops
  sound : Pattern.Known.BothSound read s.patterns t.patterns

namespace GoesOn

variable {read : PatternReader} {u s t : State}

theorem start (hframes : u.scope.frames = []) (hsound : u.patterns.Sound read) :
    GoesOn read u u (.start (u.scope.context.union u.scope.defined)) where
  context := rfl
  data := rfl
  defined := rfl
  frames := hframes
  loopVars := rfl
  loops := (Nat.zero_add u.loops).symm
  sound := ⟨hsound, Pattern.Known.sound_nil⟩

/-- A name that is defined leads to its value, whether it is a definition or part of the data. -/
theorem get? (h : GoesOn read u s t) (name : String) : s.scope.get? name = t.scope.get? name := by
  have hframes : (t.scope.frames.map (·.behind u.loops)).findSome? (·.get? name) =
      t.scope.frames.findSome? (·.get? name) := List.findSome?_map
  rw [Scope.get?, Scope.get?, h.context, h.data, h.defined, h.frames, hframes,
    Fields.get?_union, Fields.get?_union]
  cases t.scope.frames.findSome? (·.get? name) <;> cases t.scope.defined.get? name <;> rfl

theorem define (h : GoesOn read u s t) (name : String) (v : Value) :
    GoesOn read u (s.define name v) (t.define name v) := by
  have hf := h.frames
  cases ht : t.scope.frames with
  | nil =>
    rw [ht] at hf
    rw [define_outside hf, define_outside ht]
    refine { h with defined := ?_, frames := hf.trans ?_ }
    · rw [Fields.union_set, h.defined]
    · rw [ht]
  | cons f outer =>
    rw [ht] at hf
    rw [define_inside hf, define_inside ht]
    refine { h with frames := rfl, loopVars := ?_ }
    rw [LoopVars.behind_set, LoopVars.union_set, h.loopVars]
    rfl

end GoesOn

end State

namespace Engine

variable {g : Engine}

theorem simulation_of_goesOn (u : State) :
    Simulation g g (fun _ => True) (fun i j => i = j + u.loops) (State.GoesOn g.patterns u) where
  accessor := rfl
  reader := rfl
  delimiter := rfl
  agree h m _ := agree_of_get? h.get? m
  inLoop h := by
    rw [Scope.inLoop, Scope.inLoop, h.frames, List.isEmpty_map]
  format h _ := by rw [lookup_eq_of_get? h.get?]
  sound h := h.sound
  patterns h hpq := { h with sound := hpq }
  bind name v h := h.define name v
  loops h := h.loops
  enter {s t} h := by
    refine { h with loops := ?_ }
    show s.loops + 1 = t.loops + 1 + u.loops
    rw [h.loops, Nat.add_right_comm]
  push l number item h hO := by
    refine { h with frames := ?_ }
    rw [Scope.push, Scope.push, List.map_cons, h.frames, hO]
    rfl
  leave h h' :=
    { h' with context := h.context, data := h.data, defined := h.defined, frames := h.frames }

theorem blocks_append (a b : List Block) (s : State) :
    g.blocks (a ++ b) s = (do
      let (lines, t) ← g.blocks a s
      let (more, u) ← g.blocks b t
      return (lines ++ more, u)) := by
  induction a generalizing s with
  | nil =>
    show g.blocks b s = g.blocks b s >>= fun r => .ok (r.1, r.2)
    cases g.blocks b s <;> rfl
  | cons first rest ih =>
    rw [List.cons_append, blocks, blocks]
    cases g.block first s with
    | error e => rfl
    | ok r =>
      obtain ⟨text, t⟩ := r
      show (g.blocks (rest ++ b) t >>= _) = (g.blocks rest t >>= _) >>= _
      rw [ih]
      cases g.blocks rest t with
      | error e => rfl
      | ok r =>
        obtain ⟨lines, u⟩ := r
        show (g.blocks b u >>= _) >>= _ = g.blocks b u >>= _
        cases g.blocks b u with
        | error e => rfl
        | ok r =>
          obtain ⟨more, w⟩ := r
          show Except.ok _ = Except.ok _
          split <;> rfl

theorem renderBlocks_eq_ok {bs : List Block} {context : Fields Value} {lines : List String}
    {s : State} (h : g.blocks bs (.start context) = .ok (lines, s)) :
    g.renderBlocks bs context =
      .ok ⟨Text.joinWith "\n" lines, s.scope.defined, s.loopVars⟩ := by
  rw [renderBlocks, h]
  rfl

theorem renderBlocks_eq_error {bs : List Block} {context : Fields Value} {e : Error} :
    g.renderBlocks bs context = .error e ↔ g.blocks bs (.start context) = .error e := by
  rw [renderBlocks]
  cases g.blocks bs (.start context) with
  | error e' =>
    constructor <;>
    · intro h
      cases h
      rfl
  | ok r =>
    constructor <;>
    · intro h
      cases h

/-- A template that has been rendered leaves the data as they were and is inside no loop; its
definitions have names that are not in the data. -/
theorem scope_of_blocks {bs : List Block} {context : Fields Value} {lines : List String}
    {s : State} (h : g.blocks bs (.start context) = .ok (lines, s)) :
    s.scope.context = context ∧ s.scope.frames = [] ∧
      ∀ name ∈ s.scope.defined.names, name ∉ context.names := by
  have hgrows : (State.start context).scope.Grows s.scope :=
    stepwise_grows.block_and_blocks.2 bs _ lines s h
  have hsep := hgrows.separate (separate_start context)
  obtain ⟨hc, hframes, -⟩ := hgrows
  have hlayers : s.scope.layers = [s.scope.defined, context] := by
    rw [Scope.layers, hframes, hc]
    rfl
  rw [Scope.Separate, hlayers] at hsep
  exact ⟨hc, hframes, (List.pairwise_cons.1 hsep).1 context (List.mem_singleton.2 rfl)⟩

section Behind

variable {a b : List Block} {context : Fields Value} {lines : List String} {s : State}
  (h : g.blocks a (.start context) = .ok (lines, s))

include h

/-- Blocks come to the same behind others as with what these have defined in the data. -/
theorem blocks_behind (b : List Block) : Alike (State.GoesOn g.patterns s) (g.blocks b s)
    (g.blocks b (.start (context.union s.scope.defined))) := by
  obtain ⟨hcontext, hframes, -⟩ := scope_of_blocks h
  have hsound : s.patterns.Sound g.patterns :=
    stepwise_sound.block_and_blocks.2 a _ lines s h Pattern.Known.sound_nil
  have hgoes := State.GoesOn.start hframes hsound
  rw [hcontext] at hgoes
  have hsim := simulation_of_goesOn (g := g) s
  exact hsim.block_and_blocks.2 b _ (fun _ _ => trivial) s _ hgoes rfl

theorem blocks_append_eq_error {e : Error}
    (he : g.blocks b (.start (context.union s.scope.defined)) = .error e) :
    g.blocks (a ++ b) (.start context) = .error e := by
  have hboth := blocks_behind h b
  rw [he] at hboth
  rw [blocks_append, h]
  show g.blocks b s >>= _ = _
  cases hb : g.blocks b s with
  | error e' =>
    rw [hb] at hboth
    cases hboth
    rfl
  | ok r =>
    rw [hb] at hboth
    cases hboth

theorem blocks_append_eq_ok {more : List String} {t : State}
    (ht : g.blocks b (.start (context.union s.scope.defined)) = .ok (more, t)) :
    ∃ u, g.blocks (a ++ b) (.start context) = .ok (lines ++ more, u) ∧
      State.GoesOn g.patterns s u t := by
  have hboth := blocks_behind h b
  rw [ht] at hboth
  rw [blocks_append, h]
  show ∃ u, g.blocks b s >>= _ = _ ∧ _
  cases hb : g.blocks b s with
  | error e =>
    rw [hb] at hboth
    cases hboth
  | ok r =>
    rw [hb] at hboth
    cases hboth with
    | ok _ hu => exact ⟨_, rfl, hu⟩

end Behind

/-- Of two lists of blocks the first one is rendered as if it stood alone, and if it fails all
fails. The second one is rendered as if it stood alone with the definitions of the first one among
its data. Together they leave the definitions of both, which have nothing in common, and the lines
of both; the loops of the second list are counted behind those of the first one. -/
theorem renderBlocks_append (g : Engine) (a b : List Block) (context : Fields Value) :
    (∀ e, g.renderBlocks a context = .error e → g.renderBlocks (a ++ b) context = .error e) ∧
    ∀ lines s, g.blocks a (.start context) = .ok (lines, s) →
      g.renderBlocks a context =
        .ok ⟨Text.joinWith "\n" lines, s.scope.defined, s.loopVars⟩ ∧
      (∀ name ∈ s.scope.defined.names, name ∉ context.names) ∧
      (∀ e, g.renderBlocks b (context.union s.scope.defined) = .error e →
        g.renderBlocks (a ++ b) context = .error e) ∧
      ∀ more t, g.blocks b (.start (context.union s.scope.defined)) = .ok (more, t) →
        g.renderBlocks b (context.union s.scope.defined) =
          .ok ⟨Text.joinWith "\n" more, t.scope.defined, t.loopVars⟩ ∧
        g.renderBlocks (a ++ b) context =
          .ok ⟨Text.joinWith "\n" (lines ++ more), s.scope.defined.union t.scope.defined,
            s.loopVars.union (t.loopVars.behind s.loops)⟩ ∧
        (∀ name ∈ t.scope.defined.names, name ∉ s.scope.defined.names) ∧
        (∀ key ∈ (t.loopVars.behind s.loops).keys, key ∉ s.loopVars.keys) ∧
        Text.joinWith "\n" (lines ++ more) =
          if lines = [] then Text.joinWith "\n" more
          else if more = [] then Text.joinWith "\n" lines
          else Text.joinWith "\n" lines ++ "\n" ++ Text.joinWith "\n" more := by
  refine ⟨fun e he => ?_, fun lines s hs => ?_⟩
  · rw [renderBlocks_eq_error] at he ⊢
    rw [blocks_append, he]
    rfl
  refine ⟨renderBlocks_eq_ok hs, (scope_of_blocks hs).2.2, fun e he => ?_, fun more t ht => ?_⟩
  · exact renderBlocks_eq_error.2 (blocks_append_eq_error hs (renderBlocks_eq_error.1 he))
  obtain ⟨u, hwhole, hu⟩ := blocks_append_eq_ok hs ht
  refine ⟨renderBlocks_eq_ok ht, ?_, fun name hn hname => ?_, fun key hk hkey => ?_, ?_⟩
  · rw [renderBlocks_eq_ok hwhole, hu.defined, hu.loopVars]
  · exact (scope_of_blocks ht).2.2 name hn (Fields.mem_names_union.2 (.inr hname))
  · have hlow : s.loops ≤ key.occurrence := LoopVars.le_of_mem_keys_behind hk
    have hhigh : key.occurrence < s.loops := occurrence_lt_loops hs key hkey
    omega
  · split
    · rename_i hnil
      rw [hnil, List.nil_append]
    · rename_i hlines
      split
      · rename_i hnil
        rw [hnil, List.append_nil]
      · rename_i hmore
        exact Text.joinWith_append "\n" hlines hmore

/-- The loop of the second list, which would be the first one of all, is the second; its source is
a definition of the first list. -/
theorem renderBlocks_append_loops :
    ∃ (a b : List Block) (lines more : List String) (s t : State),
      standard.blocks a (.start [("data", .null)]) = .ok (lines, s) ∧
      standard.blocks b (.start (Fields.union [("data", .null)] s.scope.defined))
        = .ok (more, t) ∧
      t.loopVars = [(⟨"seen", 0, 0⟩, .string "v")] ∧
      standard.renderBlocks (a ++ b) [("data", .null)] =
        .ok ⟨"first\nsecond", [("more", .string "w")],
          [(⟨"seen", 0, 0⟩, .string "v"), (⟨"seen", 1, 0⟩, .string "v")]⟩ := by
  let text (s : String) : Operand := ⟨.literal (.string s), [], ⟨0, 0⟩⟩
  let seen : Block := .define ⟨"seen", ⟨2, 5⟩⟩ (.operand (text "v")) ⟨2, 0⟩
  let each (source : Operand) : Block :=
    .loop ⟨⟨"item", ⟨1, 5⟩⟩, none, source, none, none, none⟩ [seen] ⟨1, 0⟩
  let a : List Block :=
    [.define ⟨"more", ⟨0, 5⟩⟩ (.operand (text "w")) ⟨0, 0⟩, each (text "x"), .text "first" ⟨4, 0⟩]
  let b : List Block := [each ⟨.variable ⟨"more", []⟩, [], ⟨5, 13⟩⟩, .text "second" ⟨8, 0⟩]
  let s : State := ⟨⟨[("data", .null)], [("more", .string "w")], []⟩,
    [(⟨"seen", 0, 0⟩, .string "v")], 1, []⟩
  let t : State := ⟨⟨[("data", .null), ("more", .string "w")], [], []⟩,
    [(⟨"seen", 0, 0⟩, .string "v")], 1, []⟩
  have ha : standard.blocks a (.start [("data", .null)]) = .ok (["first"], s) := by cbv
  have hb : standard.blocks b (.start (Fields.union [("data", .null)] s.scope.defined))
      = .ok (["second"], t) := by cbv
  have hboth := (renderBlocks_append standard a b [("data", .null)]).2 _ _ ha
  have hwhole := (hboth.2.2.2 _ _ hb).2.1
  refine ⟨a, b, _, _, s, t, ha, hb, rfl, ?_⟩
  rw [hwhole]
  cbv

end Engine

end LineTemplate
