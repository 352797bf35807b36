import LineTemplate.Proofs.Union
import LineTemplate.Proofs.Visits

/-!
# Numbers of loops

Every loop that is entered has the next number, and a definition made inside loops is recorded
under the number of the innermost one. So whatever a rendering completes records nothing under
numbers but that of the innermost loop around it and those of loops that were entered on the way.
-/

namespace LineTemplate

namespace State

/-- The numbers of the loops around, from the innermost outwards. -/
def around (s : State) : List Nat := s.scope.frames.map (·.occurrence)

/-- From `s` to `t` loops may have been entered, and definitions recorded in these loops and in the
innermost one around. -/
structure Counts (s t : State) : Prop where
  loops : s.loops ≤ t.loops
  around : t.around = s.around
  keys : ∀ key ∈ t.loopVars.keys, key ∈ s.loopVars.keys ∨ s.around.head? = some key.occurrence ∨
    s.loops ≤ key.occurrence ∧ key.occurrence < t.loops

namespace Counts

theorem refl (s : State) : Counts s s := ⟨Nat.le_refl _, rfl, fun _ h => .inl h⟩

theorem trans {s t u : State} (h : Counts s t) (h' : Counts t u) : Counts s u := by
  have hst := h.loops
  have htu := h'.loops
  refine ⟨Nat.le_trans hst htu, h'.around.trans h.around, fun key hk => ?_⟩
  rcases h'.keys key hk with hk | hk | ⟨hl, hu⟩
  · rcases h.keys key hk with hk | hk | ⟨hl, hu⟩
    · exact .inl hk
    · exact .inr (.inl hk)
    · exact .inr (.inr ⟨hl, by omega⟩)
  · rw [h.around] at hk
    exact .inr (.inl hk)
  · exact .inr (.inr ⟨by omega, hu⟩)

theorem define (s : State) (name : String) (v : Value) : Counts s (s.define name v) := by
  unfold State.define Scope.define
  cases hs : s.scope.frames with
  | nil => exact ⟨Nat.le_refl _, by simp only [State.around, hs], fun _ h => .inl h⟩
  | cons f outer =>
    refine ⟨Nat.le_refl _, by simp only [State.around, hs, List.map_cons], fun key hk => ?_⟩
    rcases LoopVars.mem_keys_set hk with rfl | hk
    · exact .inr (.inl (by simp only [State.around, hs, List.map_cons, List.head?_cons]))
    · exact .inl hk

end Counts

end State

namespace Engine

variable {g : Engine}

/-- Behind iterations of the loop with the number `occurrence` there are new definitions only
under this number and under those of loops that were entered in the iterations. -/
theorem counts_iterate {body : State → Except Error (String × State)}
    (hb : Within State.Counts body) {l : Loop} {occurrence number : Nat} {items : List Value}
    {s t : State} {texts : List String} (hlt : occurrence < s.loops)
    (h : iterate body l occurrence number items s = .ok (texts, t)) :
    s.loops ≤ t.loops ∧ t.around = s.around ∧
      ∀ key ∈ t.loopVars.keys, key ∈ s.loopVars.keys ∨
        occurrence ≤ key.occurrence ∧ key.occurrence < t.loops := by
  induction items generalizing number s texts with
  | nil =>
    cases h
    exact ⟨Nat.le_refl _, rfl, fun _ h => .inl h⟩
  | cons item more ih =>
    rw [iterate] at h
    obtain ⟨⟨text, u⟩, hu, h⟩ := bind_eq_ok.1 h
    obtain ⟨⟨texts', t'⟩, ht', hr⟩ := bind_eq_ok.1 h
    cases hr
    have hc := hb _ text u hu
    have hle : s.loops ≤ u.loops := hc.loops
    have hpop : State.around { u with scope := u.scope.pop } = s.around := by
      have htail := congrArg List.tail hc.around
      simpa [State.around, Scope.pop, Scope.push, List.map_tail] using htail
    -- The other iterations begin behind the loops of this one, which only makes the bound weaker.
    obtain ⟨hl, ha, hk⟩ := ih (s := { u with scope := u.scope.pop }) (by simp only; omega) ht'
    have hlt' : u.loops ≤ t.loops := hl
    refine ⟨Nat.le_trans hle hlt', ha.trans hpop, fun key hm => ?_⟩
    rcases hk key hm with hm | hm
    · rcases hc.keys key hm with hm | ho | ⟨hlow, hhigh⟩
      · exact .inl hm
      · have he : occurrence = key.occurrence := Option.some.inj ho
        exact .inr ⟨by omega, by omega⟩
      · have hlow' : s.loops ≤ key.occurrence := hlow
        exact .inr ⟨by omega, by omega⟩
    · exact .inr hm

theorem follows_counts : g.Follows State.Counts where
  refl := .refl
  trans := .trans
  evaluate e := by
    intro s v t ht
    obtain ⟨known, -, rfl⟩ := evaluate_eq_ok.1 ht
    exact ⟨Nat.le_refl _, rfl, fun _ h => .inl h⟩
  define v _ := .define _ _ v
  loop l items s t texts hb hi := by
    obtain ⟨hl, ha, hk⟩ := counts_iterate hb (Nat.lt_succ_self s.loops) hi
    refine ⟨Nat.le_of_succ_le hl, ha, fun key hm => ?_⟩
    rcases hk key hm with hm | hm
    · exact .inl hm
    · exact .inr (.inr hm)

/-- All that a template records, it records under the numbers of loops that it has entered. -/
theorem occurrence_lt_loops {bs : List Block} {context : Fields Value} {s : State}
    {texts : List String} (h : g.blocks bs (.start context) = .ok (texts, s)) :
    ∀ key ∈ s.loopVars.keys, key.occurrence < s.loops := by
  intro key hk
  rcases (follows_counts.block_and_blocks.2 bs _ _ _ h).keys key hk with hk | ho | ⟨-, hlt⟩
  · cases hk
  · cases ho
  · exact hlt

end Engine

end LineTemplate
