import LineTemplate.Proofs.Failures
import LineTemplate.Proofs.Footprint
import LineTemplate.Proofs.Records
import LineTemplate.Proofs.Sequence

/-!
# What outlines predict

An outline is made without data and walks every branch of a template once; a rendering walks the
branches that the data select, those in loops many times. Still the rendering defines no name and
fails over no name that the outline does not have: every event in its log and every error that a
block can raise is one of something mentioned in the block, and the mentions of a part are among
those of the whole.
-/

namespace LineTemplate

/-! ### Mentions of the parts of a block -/

namespace Mention

variable {inLoop : Bool} {b : Block}

theorem ofExpr_subset_of_part {x y : Expr} (h : x ∈ y.parts) : ofExpr x ⊆ ofExpr y := by
  intro m hm
  cases y with
  | operand => cases h
  | not e =>
    cases List.mem_singleton.1 h
    exact hm
  | compare _ left right _ | and left right | or left right =>
    simp only [ofExpr, Expr.operands, List.flatMap_append, List.mem_append]
    rcases List.mem_cons.1 h with rfl | h
    · exact .inl hm
    · cases List.mem_singleton.1 h
      exact .inr hm

theorem ofExpr_subset {x : Expr} (h : x ∈ b.expressions) : ofExpr x ⊆ ofBlock inLoop b := by
  intro m hm
  cases b with
  | text | switch | loop => cases h
  | condition | guard | check | define =>
    cases List.mem_singleton.1 h
    simp [ofBlock, hm]
  | choose whens default pos =>
    obtain ⟨w, hw, rfl⟩ := List.mem_map.1 h
    have hwhens : m ∈ ofWhens inLoop whens := Engine.mem_ofWhens hw (.inl hm)
    simp [ofBlock, hwhens]

theorem ofOperand_subset {o : Operand} (h : o ∈ b.operands) :
    ofOperand o ⊆ ofBlock inLoop b := by
  intro m hm
  cases b with
  | switch | loop =>
    cases List.mem_singleton.1 h
    simp [ofBlock, ofLoop, hm]
  | _ => cases h

theorem ofBlock_subset {bs : List Block} (h : b ∈ bs) :
    ofBlock inLoop b ⊆ ofBlocks inLoop bs := by
  intro m hm
  induction bs with
  | nil => cases h
  | cons c more ih =>
    rw [ofBlocks, List.mem_append]
    rcases List.mem_cons.1 h with rfl | h
    · exact .inl hm
    · exact .inr (ih h)

/-- The mentions of a body are among those of the block, where that of a loop is inside one. -/
theorem exists_ofBlocks_subset (inLoop : Bool) {body : List Block} (h : body ∈ b.bodies) :
    ∃ inner, ofBlocks inner body ⊆ ofBlock inLoop b := by
  cases b with
  | text | check | define => cases h
  | condition test body' otherwise pos =>
    refine ⟨inLoop, fun m hm => ?_⟩
    rcases List.mem_cons.1 h with rfl | h
    · simp [ofBlock, hm]
    · have hmore : m ∈ ofOption inLoop .otherwise otherwise :=
        Engine.mem_ofOption (Option.mem_toList.1 h) hm
      simp [ofBlock, hmore]
  | switch subject cases default pos =>
    refine ⟨inLoop, fun m hm => ?_⟩
    rcases List.mem_append.1 h with h | h
    · obtain ⟨c, hc, rfl⟩ := List.mem_map.1 h
      have hcases : m ∈ ofCases inLoop cases := Engine.mem_ofCases hc hm
      simp [ofBlock, hcases]
    · have hdefault : m ∈ ofOption inLoop .default default :=
        Engine.mem_ofOption (Option.mem_toList.1 h) hm
      simp [ofBlock, hdefault]
  | choose whens default pos =>
    refine ⟨inLoop, fun m hm => ?_⟩
    rcases List.mem_append.1 h with h | h
    · obtain ⟨w, hw, rfl⟩ := List.mem_map.1 h
      have hwhens : m ∈ ofWhens inLoop whens := Engine.mem_ofWhens hw (.inr hm)
      simp [ofBlock, hwhens]
    · have hdefault : m ∈ ofOption inLoop .default default :=
        Engine.mem_ofOption (Option.mem_toList.1 h) hm
      simp [ofBlock, hdefault]
  | loop header body' pos =>
    cases List.mem_singleton.1 h
    exact ⟨true, fun m hm => by simp [ofBlock, hm]⟩
  | guard test body' message pos =>
    cases List.mem_singleton.1 h
    exact ⟨inLoop, fun m hm => by simp [ofBlock, hm]⟩

end Mention

/-! ### Errors -/

namespace Error

/-- What the error is about is mentioned, and a pipe that is missing is not there. -/
def Foretold (g : Engine) (ms : List Mention) : Error → Prop
  | .pipeNotFound name _ => .pipe name ∈ ms ∧ g.pipes.get? name = none
  | .duplicateBinding name _ => .definition name ∈ ms ∨ .binding name ∈ ms
  | .guardViolation _ _ => .directive .guard ∈ ms
  | .checkViolation _ _ => .directive .check ∈ ms
  | _ => True

variable {g : Engine} {ms ns : List Mention} {e : Error}

theorem Foretold.mono (h : e.Foretold g ms) (hs : ms ⊆ ns) : e.Foretold g ns := by
  cases e with
  | pipeNotFound name pos => exact ⟨hs h.1, h.2⟩
  | duplicateBinding name pos => exact h.imp (fun hd => hs hd) fun hb => hs hb
  | guardViolation | checkViolation => exact hs h
  | _ => trivial

theorem foretold_of_ofInput (h : Pipe.OfInput e) : e.Foretold g ms := by
  obtain ⟨pipe, fault, rfl⟩ := h
  trivial

end Error

theorem Literal.Raises.foretold {g : Engine} {ls : List Literal} {e : Error}
    (h : Literal.Raises ls e) {ms : List Mention} : e.Foretold g ms := by
  cases h
  trivial

section

variable {g : Engine} (hg : g.FailsAtInput)

include hg

theorem PipeCall.Raises.foretold {call : PipeCall} {e : Error} (h : call.Raises g e) :
    e.Foretold g [.pipe call.name] := by
  cases h with
  | missing hn => exact ⟨List.mem_singleton_self _, hn⟩
  | argument ha => exact ha.foretold
  | pipe hp he => exact Error.foretold_of_ofInput (hg.pipe hp he)

theorem Operand.Raises.foretold {o : Operand} {e : Error} (h : o.Raises g e) :
    e.Foretold g (Mention.ofOperand o) := by
  cases h with
  | literal _ hl => exact hl.foretold
  | @pipe call _ hc hp =>
    have hmem : Mention.pipe call.name ∈ o.pipes.map (Mention.pipe ·.name) :=
      List.mem_map.2 ⟨call, hc, rfl⟩
    refine (hp.foretold hg).mono (List.cons_subset.2 ⟨?_, List.nil_subset _⟩)
    exact List.mem_append_right _ hmem

theorem Expr.Raises.foretold {x : Expr} {e : Error} (h : x.Raises g e) :
    e.Foretold g (Mention.ofExpr x) := by
  induction h with
  | @operand o _ ho =>
    have heq : Mention.ofExpr (.operand o) = Mention.ofOperand o := by
      simp [Mention.ofExpr, Expr.operands]
    rw [heq]
    exact ho.foretold hg
  | order | pattern => trivial
  | part hx _ ih => exact ih.mono (Mention.ofExpr_subset_of_part hx)

/-- What a block raises is about something that the block mentions. -/
theorem Block.Raises.foretold {b : Block} {e : Error} (h : b.Raises g e) (inLoop : Bool) :
    e.Foretold g (Mention.ofBlock inLoop b) := by
  induction h generalizing inLoop with
  | format hf => exact Error.foretold_of_ofInput (hg.formatter hf)
  | expression hx hr => exact (hr.foretold hg).mono (Mention.ofExpr_subset hx)
  | operand ho hr => exact (hr.foretold hg).mono (Mention.ofOperand_subset ho)
  | case _ hr => exact hr.foretold
  | item => exact .inr (by simp [Mention.ofBlock, Mention.ofLoop])
  | @index header body pos index hi =>
    have hmem : index ∈ header.index.toList := Option.mem_toList.2 hi
    refine .inr ?_
    simp only [Mention.ofBlock, Mention.ofLoop, List.mem_cons, List.mem_append, List.mem_map]
    exact .inr (.inl (.inr (.inr ⟨index, hmem, rfl⟩)))
  | guard | check => exact List.mem_cons_self
  | definition => exact .inl (by simp [Mention.ofBlock])
  | inner hb hc _ ih =>
    obtain ⟨inside, hbody⟩ := Mention.exists_ofBlocks_subset inLoop hb
    exact (ih inside).mono (List.Subset.trans (Mention.ofBlock_subset hc) hbody)

end

theorem Block.AnyRaises.foretold {g : Engine} (hg : g.FailsAtInput) {bs : List Block} {e : Error}
    (h : AnyRaises g bs e) : e.Foretold g (Mention.ofBlocks false bs) := by
  obtain ⟨b, hb, hr⟩ := h
  exact (hr.foretold hg false).mono (Mention.ofBlock_subset hb)

/-! ### Events -/

/-- The loop or the name of the definition is mentioned. -/
def Event.Foretold (ms : List Mention) : Event → Prop
  | .enter _ => .directive .loop ∈ ms
  | .defineInside name _ _ _ => .definition name ∈ ms
  | .defineOutside name _ => .definition name ∈ ms

theorem Event.Foretold.mono {e : Event} {ms ns : List Mention} (h : e.Foretold ms)
    (hs : ms ⊆ ns) : e.Foretold ns := by
  cases e with
  | _ => exact hs h

namespace Engine

variable {g : Engine} {e : Event} {s : State}

theorem mem_iterateLog {body : State → Except Error (String × State)} {events : State → List Event}
    {l : Loop} {occurrence number : Nat} {items : List Value}
    (h : e ∈ iterateLog body events l occurrence number items s) : ∃ t, e ∈ events t := by
  induction items generalizing number s with
  | nil => cases h
  | cons item more ih =>
    rcases List.mem_append.1 h with h | h
    · exact ⟨_, h⟩
    · split at h
      · exact ih h
      · cases h

theorem mem_optionalLog {body : Option (List Block)} (h : e ∈ g.optionalLog body s) :
    ∃ bs ∈ body, ∃ t, e ∈ g.blocksLog bs t := by
  cases body with
  | none => cases h
  | some bs => exact ⟨bs, rfl, s, h⟩

theorem mem_casesLog {v : Value} {cases : List (Branch (List Literal) Block)}
    (h : e ∈ g.casesLog v cases s) : ∃ c ∈ cases, ∃ t, e ∈ g.blocksLog c.body t := by
  induction cases with
  | nil => cases h
  | cons c more ih =>
    obtain ⟨values, body, pos⟩ := c
    rw [casesLog] at h
    split at h
    · exact ⟨_, List.mem_cons_self, s, h⟩
    · obtain ⟨c, hc, h⟩ := ih h
      exact ⟨c, List.mem_cons_of_mem _ hc, h⟩
    · cases h

theorem mem_whensLog {whens : List (Branch Expr Block)} (h : e ∈ g.whensLog whens s) :
    ∃ w ∈ whens, ∃ t, e ∈ g.blocksLog w.body t := by
  induction whens generalizing s with
  | nil => cases h
  | cons w more ih =>
    obtain ⟨test, body, pos⟩ := w
    rw [whensLog] at h
    split at h
    · exact ⟨_, List.mem_cons_self, _, h⟩
    · obtain ⟨w, hw, h⟩ := ih h
      exact ⟨w, List.mem_cons_of_mem _ hw, h⟩
    · cases h

theorem mem_blocksLog {bs : List Block} (h : e ∈ g.blocksLog bs s) :
    ∃ b ∈ bs, ∃ t, e ∈ g.blockLog b t := by
  induction bs generalizing s with
  | nil => cases h
  | cons b more ih =>
    rw [blocksLog] at h
    rcases List.mem_append.1 h with h | h
    · exact ⟨b, List.mem_cons_self, s, h⟩
    · split at h
      · obtain ⟨c, hc, h⟩ := ih h
        exact ⟨c, List.mem_cons_of_mem b hc, h⟩
      · cases h

/-- The events of a block are its own, about something that it mentions, or those of its bodies. -/
theorem foretold_or_of_blockLog {b : Block} (h : e ∈ g.blockLog b s) (inLoop : Bool) :
    e.Foretold (Mention.ofBlock inLoop b) ∨
      ∃ body ∈ b.bodies, ∃ t, e ∈ g.blocksLog body t := by
  cases b with
  | text | check => cases h
  | condition test body otherwise pos =>
    rw [blockLog] at h
    split at h
    · exact .inr ⟨body, List.mem_cons_self, _, h⟩
    · obtain ⟨more, hm, h⟩ := mem_optionalLog h
      exact .inr ⟨more, List.mem_cons_of_mem _ (Option.mem_toList.2 hm), h⟩
    · cases h
  | switch subject cases default pos =>
    rw [blockLog] at h
    split at h
    · rcases List.mem_append.1 h with h | h
      · obtain ⟨c, hc, h⟩ := mem_casesLog h
        exact .inr ⟨c.body, List.mem_append_left _ (List.mem_map_of_mem hc), h⟩
      · split at h
        · obtain ⟨body, hb, h⟩ := mem_optionalLog h
          exact .inr ⟨body, List.mem_append_right _ (Option.mem_toList.2 hb), h⟩
        · cases h
    · cases h
  | choose whens default pos =>
    rw [blockLog] at h
    rcases List.mem_append.1 h with h | h
    · obtain ⟨w, hw, h⟩ := mem_whensLog h
      exact .inr ⟨w.body, List.mem_append_left _ (List.mem_map_of_mem hw), h⟩
    · split at h
      · obtain ⟨body, hb, h⟩ := mem_optionalLog h
        exact .inr ⟨body, List.mem_append_right _ (Option.mem_toList.2 hb), h⟩
      · cases h
  | loop header body pos =>
    rw [blockLog] at h
    rcases List.mem_cons.1 h with rfl | h
    · exact .inl List.mem_cons_self
    · split at h
      · exact .inr ⟨body, List.mem_singleton_self body, mem_iterateLog h⟩
      · cases h
  | guard test body message pos =>
    rw [blockLog] at h
    split at h
    · exact .inr ⟨body, List.mem_singleton_self body, _, h⟩
    · cases h
  | define name value pos =>
    rw [blockLog] at h
    split at h
    · have hmem :
          Mention.definition name.name ∈ Mention.ofBlock inLoop (.define name value pos) := by
        simp [Mention.ofBlock]
      cases List.mem_singleton.1 h
      unfold Event.define
      split
      · exact .inl hmem
      · exact .inl hmem
    · cases h

/-- Whatever a rendering of the block does is about something that the block mentions. -/
theorem foretold_of_blockLog {b : Block} (h : e ∈ g.blockLog b s) (inLoop : Bool) :
    e.Foretold (Mention.ofBlock inLoop b) := by
  induction b using Block.induction_bodies generalizing s inLoop with
  | h b ih =>
    rcases foretold_or_of_blockLog h inLoop with h | ⟨body, hb, t, h⟩
    · exact h
    · obtain ⟨c, hc, u, h⟩ := mem_blocksLog h
      obtain ⟨inside, hbody⟩ := Mention.exists_ofBlocks_subset inLoop hb
      exact (ih body hb c hc h inside).mono
        (List.Subset.trans (Mention.ofBlock_subset hc) hbody)

theorem foretold_of_blocksLog {bs : List Block} (h : e ∈ g.blocksLog bs s) :
    e.Foretold (Mention.ofBlocks false bs) := by
  obtain ⟨b, hb, t, h⟩ := mem_blocksLog h
  exact (foretold_of_blockLog h false).mono (Mention.ofBlock_subset hb)

/-! ### Outcomes -/

theorem accounts_of_render {bs : List Block} {context : Fields Value} {r : Rendering}
    (h : g.renderBlocks bs context = .ok r) : ∃ lines t,
      g.blocks bs (.start context) = .ok (lines, t) ∧ r.defined = t.scope.defined ∧
        r.loopVars = t.loopVars ∧ State.Accounts (g.blocksLog bs (.start context)) t := by
  obtain ⟨⟨output, t⟩, hj, hr⟩ := bind_eq_ok.1 h
  obtain ⟨lines, ht, -⟩ := joinLines_eq_ok.1 hj
  cases hr
  have hadds := logs_blocks.2 bs _ lines t (State.tidy_start context) ht
  exact ⟨lines, t, ht, rfl, rfl, hadds.accounts⟩

/-- A rendering that succeeds defines only names that the outline has as definitions, none of them
over the data, and records definitions inside loops only if the outline counts a loop. -/
theorem defined_of_render {bs : List Block} {context : Fields Value} {r : Rendering}
    (h : g.renderBlocks bs context = .ok r) :
    (∀ name ∈ r.defined.names,
        name ∈ (Outline.ofBlocks bs).defined ∧ name ∉ context.names) ∧
      (∀ key ∈ r.loopVars.keys, key.name ∈ (Outline.ofBlocks bs).defined) ∧
      ((Outline.ofBlocks bs).count .loop = 0 → r.loopVars = []) := by
  obtain ⟨lines, t, ht, hd, hv, ha⟩ := accounts_of_render h
  rw [hd, hv]
  refine ⟨fun name hn => ⟨?_, (scope_of_blocks ht).2.2 name hn⟩, fun key hk => ?_, fun hc => ?_⟩
  · obtain ⟨pair, hp, rfl⟩ := List.mem_map.1 hn
    obtain ⟨e, he, hpair⟩ := List.mem_filterMap.1 (ha.defined.mem_iff.1 hp)
    have hf := foretold_of_blocksLog he
    cases e with
    | defineOutside name v =>
      cases hpair
      exact Outline.mem_defined hf
    | _ => cases hpair
  · obtain ⟨pair, hp, rfl⟩ := List.mem_map.1 hk
    obtain ⟨e, he, hpair⟩ := List.mem_filterMap.1 (ha.recorded.mem_iff.1 hp)
    have hf := foretold_of_blocksLog he
    cases e with
    | defineInside name occurrence iteration v =>
      cases hpair
      exact Outline.mem_defined hf
    | _ => cases hpair
  · -- a record is under the number of a loop, and the loop has been entered
    refine List.eq_nil_iff_forall_not_mem.2 fun pair hp => ?_
    have hlt : pair.1.occurrence < t.loops := ha.below _ (List.mem_map_of_mem hp)
    have hentered : pair.1.occurrence ∈ List.range t.loops := List.mem_range.2 hlt
    rw [← ha.entered] at hentered
    obtain ⟨e, he, hn⟩ := List.mem_filterMap.1 hentered
    have hf := foretold_of_blocksLog he
    cases e with
    | enter =>
      have hpos := Outline.count_pos hf
      rw [Outline.ofBlocks] at hc
      omega
    | _ => cases hn

/-- The outline of a template predicts what its renderings can define and fail over, whatever the
data are. In particular no data make a template fail for a pipe that is missing if all pipes in
its outline are there. -/
theorem render_foretold {g : Engine} (hg : g.FailsAtInput) {text : String} {o : Outline}
    (ho : Outline.ofText text = .ok o) :
    ∃ template, Template.ofText text = .ok template ∧
      (∀ (context : Fields Value) (r : Rendering), g.render template context = .ok r →
        (∀ name ∈ r.defined.names, name ∈ o.defined ∧ name ∉ context.names) ∧
        (∀ key ∈ r.loopVars.keys, key.name ∈ o.defined) ∧
        (o.count .loop = 0 → r.loopVars = [])) ∧
      (∀ (context : Fields Value) (e : Error), g.render template context = .error e →
        match e with
        | .pipeNotFound name _ => name ∈ o.pipes ∧
            g.pipes.custom.get? name = none ∧ g.pipes.builtin.get? name = none
        | .duplicateBinding name _ => name ∈ o.defined ∨ name ∈ o.bindings
        | .guardViolation _ _ => 0 < o.count .guard
        | .checkViolation _ _ => 0 < o.count .check
        | _ => True) ∧
      ((∀ name ∈ o.pipes, g.pipes.contains name = true) →
        ∀ (context : Fields Value) (name : String) (pos : Position),
          g.render template context ≠ .error (.pipeNotFound name pos)) := by
  obtain ⟨template, ht, hr⟩ := bind_eq_ok.1 ho
  cases hr
  have hfails : ∀ (context : Fields Value) (e : Error), g.render template context = .error e →
      e.Foretold g (Mention.ofBlocks false template.blocks) := by
    intro context e h
    exact (raises_of_renderBlocks h).foretold hg
  refine ⟨template, ht, fun context r h => defined_of_render h, fun context e h => ?_, ?_⟩
  · have hf := hfails context e h
    cases e with
    | pipeNotFound name pos =>
      have hnone := hf.2
      rw [PipeSet.get?, Option.orElse_eq_none] at hnone
      exact ⟨Outline.mem_pipes hf.1, hnone⟩
    | duplicateBinding name pos => exact hf.imp Outline.mem_defined Outline.mem_bindings
    | guardViolation | checkViolation => exact Outline.count_pos hf
    | _ => trivial
  · intro hpipes context name pos h
    have hf := hfails context _ h
    have hthere := hpipes name (Outline.mem_pipes hf.1)
    rw [PipeSet.contains, hf.2] at hthere
    cases hthere

/-- With some data a definition in a loop is executed, with other data it misses a pipe; all of it
is in the outline. -/
theorem render_foretold_branches :
    let text := "#for x of :xs\n#var v = :x && :x | f\n#done"
    standard.FailsAtInput ∧ ∃ o template, Outline.ofText text = .ok o ∧
      Template.ofText text = .ok template ∧
      (∃ r, standard.render template [("xs", .array [.null])] = .ok r ∧
        r.loopVars.keys = [⟨"v", 0, 0⟩] ∧ "v" ∈ o.defined ∧ o.count .loop ≠ 0) ∧
      standard.render template [("xs", .array [.bool true])] =
        .error (.pipeNotFound "f" ⟨1, 20⟩) ∧
      "f" ∈ o.pipes ∧ standard.pipes.get? "f" = none := by
  intro text
  have ho : Outline.ofText text =
      .ok ⟨["xs"], ["f"], ["v"], ["x"], [("#for", 1), ("#var", 1)]⟩ := by cbv
  have hdefines : (Template.ofText text >>= (standard.render · [("xs", .array [.null])])) =
      .ok ⟨"", [], [(⟨"v", 0, 0⟩, .bool false)]⟩ := by cbv
  have hmisses : (Template.ofText text >>= (standard.render · [("xs", .array [.bool true])])) =
      .error (.pipeNotFound "f" ⟨1, 20⟩) := by cbv
  obtain ⟨template, ht, hok, herror, -⟩ := render_foretold failsAtInput_standard ho
  rw [ht] at hdefines hmisses
  obtain ⟨-, hkeys, hloop⟩ := hok _ _ hdefines
  obtain ⟨hpipe, hcustom, hbuiltin⟩ := herror _ _ hmisses
  have hnone : standard.pipes.get? "f" = none := by
    rw [PipeSet.get?, hcustom, hbuiltin]
    rfl
  refine ⟨failsAtInput_standard, _, template, ho, ht, ⟨_, hdefines, rfl, ?_, ?_⟩, hmisses, hpipe,
    hnone⟩
  · exact hkeys ⟨"v", 0, 0⟩ (List.mem_singleton.2 rfl)
  · intro hnone
    cases hloop hnone

end Engine

end LineTemplate
