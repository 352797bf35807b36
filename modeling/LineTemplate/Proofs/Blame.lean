import LineTemplate.Proofs.Drafts

/-!
# What syntax errors blame

A line that a draft does not take is blamed for it: the error names one of the tokens of the line
and is reported at its place. So lines that cannot be read have a first one at fault, whatever
follows it.
-/

namespace LineTemplate

/-- The error is that of the token and reported at its place. -/
def SyntaxError.Blames (e : SyntaxError) (t : Token) : Prop := e.pos = t.pos ∧ e.fault.Blames t

namespace Reader

theorem blames_on {r : Refusal} {words : List Token} (h : r.Blames words) (stop : Position) :
    ∃ t ∈ words ++ [⟨.endOfLine, "", stop⟩], (r.on stop).Blames t := by
  cases h with
  | @word t f ht hf => exact ⟨t, List.mem_append_left _ ht, rfl, hf⟩
  | stop => exact ⟨_, List.mem_append_right _ (List.mem_singleton_self _), rfl, rfl, rfl⟩

theorem Reads.blames {α : Type} {reader : Reader α} {Yields : α → List Token → Prop}
    {goesOn : Token.Kind → Bool} (h : Reads reader Yields goesOn) {words : List Token}
    {stop : Position} {e : SyntaxError} (he : Reader.all reader words stop = .error e) :
    ∃ t ∈ words ++ [⟨.endOfLine, "", stop⟩], e.Blames t := by
  have hg := h.gives words
  unfold Reader.all at he
  generalize reader words = out at he hg
  cases hg with
  | error hr =>
    cases he
    exact blames_on hr stop
  | @ok x used rest hu _ =>
    cases rest with
    | nil => cases he
    | cons t more =>
      cases he
      refine blames_on (Refusal.blames_refusal .endOfLine ?_) stop
      rw [hu]
      exact List.subset_append_right used (t :: more)

theorem Reads.blames_line {α β : Type} {reader : Reader α} {Yields : α → List Token → Prop}
    {goesOn : Token.Kind → Bool} (h : Reads reader Yields goesOn) {w : Token}
    {words : List Token} {stop : Position} {f : α → Except SyntaxError β} {e : SyntaxError}
    (hf : ∀ x, ∃ y, f x = .ok y) (he : Reader.all reader words stop >>= f = .error e) :
    ∃ t ∈ (Line.directive (w :: words) stop).tokens, e.Blames t := by
  rcases bind_eq_error.1 he with he | ⟨x, _, he⟩
  · obtain ⟨t, ht, hb⟩ := h.blames he
    exact ⟨t, List.mem_cons_of_mem w ht, hb⟩
  · obtain ⟨y, hy⟩ := hf x
    rw [hy] at he
    cases he

end Reader

namespace Selection

variable {Head : Type}

theorem step_blames {opener d : Directive} {reader : Reader Head}
    {Yields : Head → List Token → Prop} {goesOn : Token.Kind → Bool}
    (hr : Reader.Reads reader Yields goesOn) {s : Selection Head} {line : Line} {e : SyntaxError}
    (h : s.step opener d reader line = .error e) : ∃ t ∈ line.tokens, e.Blames t := by
  unfold step at h
  split at h
  · next content pos =>
    split at h
    · cases h
    · cases h
      exact ⟨_, List.mem_singleton_self _, rfl, rfl, rfl⟩
  · next stop =>
    cases h
    exact ⟨_, List.mem_singleton_self _, rfl, rfl, rfl⟩
  · next w rest stop =>
    split at h
    · exact hr.blames_line (fun _ => ⟨_, rfl⟩) h
    · split at h
      · next hk =>
        split at h
        · cases h
          exact ⟨w, List.mem_cons_self, rfl, hk⟩
        · exact Reader.reads_nothing.blames_line (fun _ => ⟨_, rfl⟩) h
      · split at h
        · exact Reader.reads_nothing.blames_line (fun _ => ⟨_, rfl⟩) h
        · cases h
          exact ⟨w, List.mem_cons_self, rfl, rfl, rfl⟩

end Selection

namespace Draft

theorem stray_blames (fs : List Frame) (t : Token) : (stray fs t.kind).Blames t := by
  cases fs <;> exact rfl

theorem addDirective_blames {bs : List Block} {fs : List Frame} {d : Directive} {w : Token}
    (hk : w.kind = .directive d) {rest : List Token} {stop : Position} {e : SyntaxError}
    (h : addDirective bs fs d w.pos rest stop = .error e) :
    ∃ t ∈ (Line.directive (w :: rest) stop).tokens, e.Blames t := by
  unfold addDirective at h
  split at h
  · exact Reader.reads_expression.blames_line (fun _ => ⟨_, rfl⟩) h
  · exact Reader.reads_operand.blames_line (fun _ => ⟨_, rfl⟩) h
  · exact Reader.reads_nothing.blames_line (fun _ => ⟨_, rfl⟩) h
  · exact Reader.reads_loop.blames_line (fun _ => ⟨_, rfl⟩) h
  · exact Reader.reads_expression.blames_line (fun _ => ⟨_, rfl⟩) h
  · exact Reader.reads_check.blames_line (fun _ => ⟨_, rfl⟩) h
  · exact Reader.reads_definition.blames_line (fun _ => ⟨_, rfl⟩) h
  · exact Reader.reads_nothing.blames_line (fun _ => ⟨_, rfl⟩) h
  · exact Reader.reads_nothing.blames_line (fun _ => ⟨_, rfl⟩) h
  · exact Reader.reads_nothing.blames_line (fun _ => ⟨_, rfl⟩) h
  · exact Reader.reads_nothing.blames_line (fun _ => ⟨_, rfl⟩) h
  · exact Reader.reads_message?.blames_line (fun _ => ⟨_, rfl⟩) h
  · exact Reader.reads_nothing.blames_line (fun _ => ⟨_, rfl⟩) h
  · exact Reader.reads_nothing.blames_line (fun _ => ⟨_, rfl⟩) h
  · cases h
    have hb := stray_blames fs w
    rw [hk] at hb
    exact ⟨w, List.mem_cons_self, rfl, hb⟩

/-- A line that a draft does not take is blamed for it, by one of its tokens. -/
theorem add_blames {draft : Draft} {line : Line} {e : SyntaxError}
    (h : draft.add line = .error e) : ∃ t ∈ line.tokens, e.Blames t := by
  obtain ⟨place, fs⟩ := draft
  cases place with
  | body bs =>
    cases line with
    | text content pos => cases h
    | directive words stop =>
      cases words with
      | nil =>
        cases h
        exact ⟨_, List.mem_singleton_self _, rfl, stray_blames fs ⟨.endOfLine, "", stop⟩⟩
      | cons w rest =>
        have hw : w ∈ (Line.directive (w :: rest) stop).tokens := List.mem_cons_self
        simp only [add, addToBody] at h
        split at h
        · next d hk => exact addDirective_blames hk h
        · next hk =>
          cases h
          exact ⟨w, hw, rfl, hk, rfl⟩
        · cases h
          exact ⟨w, hw, rfl, stray_blames fs w⟩
  | inSwitch subject s =>
    rcases bind_eq_error.1 h with h | ⟨step, _, h⟩
    · exact Selection.step_blames Reader.reads_literals h
    · cases step <;> cases h
  | inChoose s =>
    rcases bind_eq_error.1 h with h | ⟨step, _, h⟩
    · exact Selection.step_blames Reader.reads_expression h
    · cases step <;> cases h

end Draft

namespace Line

theorem line_of_mem_tokens {n : Nat} {cs : List Char} {t : Token}
    (h : t ∈ (ofChars n cs).tokens) : t.pos.line = n := by
  unfold ofChars at h
  split at h
  · rcases List.mem_append.1 h with h | h
    · obtain ⟨l, _, rfl⟩ := List.mem_map.1 h
      rfl
    · cases List.mem_singleton.1 h
      rfl
  · cases List.mem_singleton.1 h
    rfl

theorem ofCut_append (n : Nat) (a b : List (List Char)) :
    ofCut n (a ++ b) = ofCut n a ++ ofCut (n + a.length) b := by
  induction a generalizing n with
  | nil => rfl
  | cons cs more ih =>
    simp only [List.cons_append, ofCut, ih, List.length_cons, Nat.add_assoc, Nat.add_comm 1]

end Line

namespace Draft

/-- Lines that cannot be read have a first one at fault, and it is at fault whatever follows. -/
theorem addAll_blames {draft : Draft} {n : Nat} {pieces : List (List Char)} {e : SyntaxError}
    (h : draft.addAll (Line.ofCut n pieces) = .error e) :
    ∃ before cs after t, pieces = before ++ cs :: after ∧
      t ∈ (Line.ofChars (n + before.length) cs).tokens ∧ e.Blames t ∧
      ∀ more, draft.addAll (Line.ofCut n (before ++ cs :: more)) = .error e := by
  induction pieces generalizing draft n with
  | nil => cases h
  | cons cs after ih =>
    simp only [Line.ofCut, addAll] at h
    split at h
    -- A line further down is at fault, or this one.
    · next next hnext =>
      obtain ⟨before, cs', after', t, rfl, ht, hb, hmore⟩ := ih h
      refine ⟨cs :: before, cs', after', t, rfl, ?_, hb, fun more => ?_⟩
      · rw [List.length_cons, Nat.add_comm before.length, ← Nat.add_assoc]
        exact ht
      · simp only [List.cons_append, Line.ofCut, addAll, hnext, hmore]
    · next e' hline =>
      cases h
      obtain ⟨t, ht, hb⟩ := add_blames hline
      refine ⟨[], cs, after, t, rfl, ht, hb, fun more => ?_⟩
      simp only [List.nil_append, Line.ofCut, addAll, hline]

end Draft

end LineTemplate
