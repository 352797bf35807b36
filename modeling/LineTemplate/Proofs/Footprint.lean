import Mathlib
import LineTemplate.Proofs.Placeholders
import LineTemplate.Proofs.Simulation
import LineTemplate.Template

/-!
# The outline as a footprint

A rendering depends on the data only through the names in the outline of its template, and on the
pipes only through the pipes named there. So data and pipes that are the same under those names
give the same rendering, or the same error.
-/

namespace LineTemplate

/-! ### What an outline holds -/

namespace Outline

theorem mem_names_ofList {α : Type} {pairs : List (String × α)} {name : String} :
    name ∈ (Fields.ofList pairs).names ↔ name ∈ pairs.map (·.1) := by
  have hfold : ∀ fields : Fields α,
      name ∈ (pairs.foldl (fun fields pair => fields.set pair.1 pair.2) fields).names ↔
        name ∈ fields.names ∨ name ∈ pairs.map (·.1) := by
    induction pairs with
    | nil => simp
    | cons pair rest ih =>
      intro fields
      rw [List.foldl_cons, ih, Fields.mem_names_set, List.map_cons, List.mem_cons]
      constructor
      · rintro ((h | h) | h)
        · exact .inr (.inl h)
        · exact .inl h
        · exact .inr (.inr h)
      · rintro (h | h | h)
        · exact .inl (.inr h)
        · exact .inl (.inl h)
        · exact .inr h
  have hnil : name ∉ Fields.names ([] : Fields α) := List.not_mem_nil
  rw [Fields.ofList, hfold []]
  exact or_iff_right hnil

theorem mem_nameSet {names : List String} {name : String} :
    name ∈ nameSet names ↔ name ∈ names := by
  rw [nameSet, mem_names_ofList, List.map_map]
  simp [Function.comp_def]

variable {ms : List Mention} {name : String}

theorem mem_pipes (h : .pipe name ∈ ms) : name ∈ (ofMentions ms).pipes :=
  mem_nameSet.2 (List.mem_filterMap.2 ⟨_, h, rfl⟩)

theorem mem_defined (h : .definition name ∈ ms) : name ∈ (ofMentions ms).defined :=
  mem_nameSet.2 (List.mem_filterMap.2 ⟨_, h, rfl⟩)

theorem mem_bindings (h : .binding name ∈ ms) : name ∈ (ofMentions ms).bindings :=
  mem_nameSet.2 (List.mem_filterMap.2 ⟨_, h, rfl⟩)

theorem mem_needed (h : .variable name ∈ ms) : name ∈ (ofMentions ms).needed ∨
    name ∈ (ofMentions ms).defined ∨ name ∈ (ofMentions ms).bindings := by
  by_cases hd : name ∈ (ofMentions ms).defined
  · exact .inr (.inl hd)
  by_cases hb : name ∈ (ofMentions ms).bindings
  · exact .inr (.inr hb)
  refine .inl (List.mem_filter.2 ⟨mem_nameSet.2 (List.mem_filterMap.2 ⟨_, h, rfl⟩), ?_⟩)
  have hd' : (ofMentions ms).defined.contains name = false := by simpa using hd
  have hb' : (ofMentions ms).bindings.contains name = false := by simpa using hb
  simp only [ofMentions] at hd' hb'
  simp only [hd', hb', Bool.not_false, Bool.and_self]

def names (o : Outline) : List String := o.needed ++ o.defined ++ o.bindings

/-- How often the directive occurs. -/
def count (o : Outline) (d : Directive) : Nat := (o.directives.get? d.text).getD 0

theorem get?_tally (texts : List String) (t : String) :
    ((tally texts).get? t).getD 0 = texts.count t := by
  have hfold : ∀ counts : Fields Nat,
      (Fields.get? (texts.foldl
        (fun counts t => counts.set t ((counts.get? t).getD 0 + 1)) counts) t).getD 0 =
        (counts.get? t).getD 0 + texts.count t := by
    induction texts with
    | nil => exact fun _ => rfl
    | cons text more ih =>
      intro counts
      rw [List.foldl_cons, ih, Fields.get?_set, List.count_cons]
      by_cases h : text = t
      · subst h
        simp only [if_true, Option.getD_some, beq_self_eq_true]
        omega
      · simp [h]
  rw [tally, hfold, Fields.get?_nil, Option.getD_none, Nat.zero_add]

theorem count_ofMentions (ms : List Mention) (d : Directive) :
    (ofMentions ms).count d = ms.count (.directive d) := by
  rw [count, ofMentions, get?_tally]
  induction ms with
  | nil => rfl
  | cons m more ih =>
    cases m with
    | directive c => simp [List.count_cons, ih, Directive.text_inj]
    | _ => simp [ih]

theorem count_pos {d : Directive} (h : .directive d ∈ ms) : 0 < (ofMentions ms).count d := by
  rw [count_ofMentions]
  exact List.count_pos_iff.2 h

end Outline

/-! ### Two sets of data -/

/-- Two states that differ in the data only. -/
structure State.SameButData (read : PatternReader) (c d : Fields Value) (s t : State) : Prop where
  left : s.scope.context = c
  right : t.scope.context = d
  defined : s.scope.defined = t.scope.defined
  frames : s.scope.frames = t.scope.frames
  loopVars : s.loopVars = t.loopVars
  loops : s.loops = t.loops
  sound : Pattern.Known.BothSound read s.patterns t.patterns

/-- Two engines, each with its data, that are the same as far as an outline goes. -/
structure Outline.SameFor (o : Outline) (g h : Engine) (c d : Fields Value) : Prop where
  accessor : g.accessor = h.accessor
  reader : g.patterns = h.patterns
  delimiter : g.config.delimiter = h.config.delimiter
  formatter : g.formatter = h.formatter
  /-- No formatter of one's own, which might look at any name. -/
  plain : g.formatter = .interpolator ∨ g.formatter = .verbatim
  pipes : ∀ name ∈ o.pipes, g.pipes.get? name = h.pipes.get? name
  data : ∀ name ∈ o.names, c.get? name = d.get? name

namespace State.SameButData

variable {read : PatternReader} {c d : Fields Value} {s t : State}

theorem get? (h : SameButData read c d s t) {name : String} (hn : c.get? name = d.get? name) :
    s.scope.get? name = t.scope.get? name := by
  unfold Scope.get?
  rw [h.frames, h.defined, h.left, h.right, hn]

theorem start (c d : Fields Value) : SameButData read c d (.start c) (.start d) where
  left := rfl
  right := rfl
  defined := rfl
  frames := rfl
  loopVars := rfl
  loops := rfl
  sound := ⟨Pattern.Known.sound_nil, Pattern.Known.sound_nil⟩

theorem define (h : SameButData read c d s t) (name : String) (v : Value) :
    SameButData read c d (s.define name v) (t.define name v) := by
  have hframes := h.frames
  have hdefined := h.defined
  have hvars := h.loopVars
  unfold State.define Scope.define
  cases hs : s.scope.frames with
  | nil =>
    rw [hs] at hframes
    simp only [← hframes]
    refine ⟨h.left, h.right, ?_, rfl, hvars, h.loops, h.sound⟩
    simp only [hdefined]
  | cons f outer =>
    rw [hs] at hframes
    simp only [← hframes]
    refine ⟨h.left, h.right, hdefined, rfl, ?_, h.loops, h.sound⟩
    simp only [hvars]

end State.SameButData

namespace Engine

variable {g h : Engine} {c d : Fields Value}

theorem agree_of_sameFor {ms : List Mention} (hs : (Outline.ofMentions ms).SameFor g h c d)
    {s t : State} (hR : State.SameButData g.patterns c d s t) :
    ∀ m ∈ ms, Agree g h s.scope t.scope m := by
  have hnames : ∀ name, name ∈ (Outline.ofMentions ms).needed ∨
      name ∈ (Outline.ofMentions ms).defined ∨ name ∈ (Outline.ofMentions ms).bindings →
      s.scope.get? name = t.scope.get? name := by
    intro name hn
    refine hR.get? (hs.data name ?_)
    rw [Outline.names, List.append_assoc, List.mem_append, List.mem_append]
    exact hn
  intro m hm
  cases m with
  | pipe name => exact hs.pipes name (Outline.mem_pipes hm)
  | definition name => exact hnames name (.inr (.inl (Outline.mem_defined hm)))
  | binding name => exact hnames name (.inr (.inr (Outline.mem_bindings hm)))
  | directive d => trivial
  | _ name => exact hnames name (Outline.mem_needed hm)

theorem simulation_of_sameFor {ms : List Mention} (hs : (Outline.ofMentions ms).SameFor g h c d) :
    Simulation g h (· ∈ ms) (· = ·) (State.SameButData g.patterns c d) where
  accessor := hs.accessor
  reader := hs.reader
  delimiter := hs.delimiter
  agree hR := agree_of_sameFor hs hR
  inLoop hR := by
    unfold Scope.inLoop
    rw [hR.frames]
  format := by
    intro s t line hR hm
    rw [← hs.formatter]
    rcases hs.plain with hf | hf
    · rw [hf]
      refine congrArg Except.ok (Placeholder.interpolate_congr fun p hp => ?_)
      have hroot : Mention.variable p.root ∈ Mention.ofLine line := List.mem_map.2 ⟨p, hp, rfl⟩
      exact lookup_agree hs.accessor (agree_of_sameFor hs hR _ (hm _ hroot))
    · rw [hf]
      rfl
  sound hR := hR.sound
  patterns hR hpq := { hR with sound := hpq }
  bind name v hR := hR.define name v
  loops hR := hR.loops
  enter hR := { hR with loops := congrArg (· + 1) hR.loops }
  push l number item hR hij := by
    subst hij
    exact { hR with frames := congrArg (_ :: ·) hR.frames }
  leave hR hR' := { hR' with
    left := hR.left, right := hR.right, defined := hR.defined, frames := hR.frames }

/-- A template that has an outline is rendered in the same way, to one text and the same
definitions or to one error, by engines and with data that are the same as far as the outline
goes. In particular it does not matter what the data have under any other name. -/
theorem render_eq_of_sameFor {text : String} {o : Outline} (ho : Outline.ofText text = .ok o) :
    ∃ template, Template.ofText text = .ok template ∧
      (∀ (g h : Engine) (c d : Fields Value), o.SameFor g h c d →
        g.render template c = h.render template d) ∧
      ∀ (g : Engine) (c : Fields Value) (name : String) (v : Value), name ∉ o.names →
        g.formatter = .interpolator ∨ g.formatter = .verbatim →
        g.render template (c.set name v) = g.render template c := by
  obtain ⟨template, ht, hr⟩ := bind_eq_ok.1 ho
  cases hr
  have hsame : ∀ (g h : Engine) (c d : Fields Value),
      (Outline.ofBlocks template.blocks).SameFor g h c d →
      g.render template c = h.render template d := by
    intro g h c d hs
    have hsim := simulation_of_sameFor hs
    have hblocks := hsim.block_and_blocks.2 template.blocks false (fun m hm => hm) (.start c)
      (.start d) (.start c d) rfl
    refine (joinLines_alike hblocks).bind_congr ?_
    intro output s t hR
    simp only [hR.defined, hR.loopVars]
  refine ⟨template, ht, hsame, ?_⟩
  intro g c name v hn hplain
  refine hsame g g _ _ ⟨rfl, rfl, rfl, rfl, hplain, fun _ _ => rfl, ?_⟩
  intro key hk
  have hne : name ≠ key := fun he => hn (he ▸ hk)
  rw [Fields.get?_set, if_neg hne]

/-- A loop over one name with a placeholder for another, and data that differ in further names. -/
theorem render_eq_of_sameFor_loop :
    ∃ template, Template.ofText "#for x of :xs\n${x} ${y}\n#done" = .ok template ∧
      standard.render template [("secret", .bool true), ("xs", .string "ab")] =
        standard.render template [("xs", .string "ab"), ("zeal", .null)] := by
  have ho : Outline.ofText "#for x of :xs\n${x} ${y}\n#done" =
      .ok ⟨["xs", "y"], [], [], ["x"], [("#for", 1)]⟩ := by cbv
  obtain ⟨template, ht, hsame, -⟩ := render_eq_of_sameFor ho
  refine ⟨template, ht, hsame standard standard _ _ ?_⟩
  refine ⟨rfl, rfl, rfl, rfl, .inl rfl, fun name _ => Eq.refl (standard.pipes.get? name), ?_⟩
  intro name hn
  simp only [Outline.names, List.cons_append, List.nil_append, List.mem_cons, List.not_mem_nil,
    or_false] at hn
  rcases hn with rfl | rfl | rfl <;> rfl

end Engine

end LineTemplate
