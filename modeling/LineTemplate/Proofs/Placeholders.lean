import Mathlib.Data.List.Infix
import LineTemplate.Engine

/-!
# Placeholders in one pass

There is one way to cut a line into texts and placeholders from left to right: no placeholder goes
past the first closing brace behind its opening, no text in front of a placeholder holds an opening,
and what is left at the end holds no opening or none that is closed. Filling a line and reading its
paths are two walks through the line, and both cut it like that. So what has been put in is never
looked at again, and a line depends on the values of just the paths that are read from it.
-/

namespace LineTemplate.Placeholder

/-! ### Marks -/

section Marks

variable {mark cs before after : List Char}

/-- No mark of different characters begins inside another one. -/
theorem cutAt_append (hm : mark.Nodup) (h : ¬ mark <:+: before) (after : List Char) :
    cutAt mark (before ++ (mark ++ after)) = some (before, after) := by
  induction before with
  | nil =>
    cases mark with
    | nil => exact absurd List.nil_infix h
    | cons m ms => simp [cutAt]
  | cons c rest ih =>
    have hrest : ¬ mark <:+: rest := fun hin => h (List.infix_cons hin)
    have hfirst : ¬ mark <+: c :: (rest ++ (mark ++ after)) := by
      intro hp
      have hfront : c :: rest <+: c :: (rest ++ (mark ++ after)) := List.prefix_append (c :: rest) _
      rcases List.prefix_or_prefix_of_prefix hp hfront with hshort | ⟨more, he⟩
      · exact h hshort.isInfix
      -- the mark goes on behind these characters, where its first one comes again
      · have hmore : more <+: mark ++ after := by
          rw [← List.prefix_append_right_inj (c :: rest), he]
          exact hp
        cases more with
        | nil => exact h (by rw [← he, List.append_nil])
        | cons d more =>
          rw [← he, List.cons_append, List.cons_append, List.cons_prefix_cons] at hmore
          rw [← he, hmore.1] at hm
          exact absurd hm (by simp)
    rw [List.cons_append, cutAt, if_neg hfirst, ih hrest]
    rfl

theorem cutAt_eq_some (hm : mark ≠ []) (h : cutAt mark cs = some (before, after)) :
    cs = before ++ (mark ++ after) ∧ ¬ mark <:+: before := by
  induction cs generalizing before with
  | nil => cases h
  | cons c rest ih =>
    rw [cutAt] at h
    split at h
    · next hp =>
      cases h
      obtain ⟨more, he⟩ := hp
      rw [← he, List.drop_left]
      exact ⟨rfl, by simpa using hm⟩
    · next hp =>
      obtain ⟨⟨b, a⟩, hs, he⟩ := Option.map_eq_some_iff.1 h
      cases he
      obtain ⟨rfl, hb⟩ := ih hs
      refine ⟨rfl, ?_⟩
      rw [List.infix_cons_iff, not_or]
      exact ⟨fun hc => hp (hc.trans (List.prefix_append (c :: b) _)), hb⟩

theorem cutAt_eq_none (hm : mark ≠ []) : cutAt mark cs = none ↔ ¬ mark <:+: cs := by
  induction cs with
  | nil => simpa [cutAt] using hm
  | cons c rest ih =>
    rw [cutAt, List.infix_cons_iff, not_or]
    split
    · next hp => simp [hp]
    · next hp => rw [Option.map_eq_none_iff, ih, and_iff_right hp]

theorem closing_infix : closing <:+: cs ↔ '}' ∈ cs := List.singleton_infix_iff '}' cs

theorem cutAt_closing_eq_none : cutAt closing cs = none ↔ '}' ∉ cs :=
  (cutAt_eq_none (by decide)).trans (not_congr closing_infix)

end Marks

/-! ### Cuts -/

/-- A line in pieces: each placeholder with the text in front of it, and the text at the end. -/
structure Cut where
  parts : List (List Char × List Char)
  tail : List Char

/-- The texts, with what `r` puts in for each placeholder between them. -/
def Cut.text (r : List Char → List Char) (c : Cut) : List Char :=
  c.parts.flatMap (fun part => part.1 ++ r part.2) ++ c.tail

/-- The pieces are those of the line, and each of them ends as soon as it can. -/
structure Cut.Divides (c : Cut) (cs : List Char) : Prop where
  whole : c.text written = cs
  bodies : ∀ part ∈ c.parts, '}' ∉ part.2
  texts : ∀ part ∈ c.parts, ¬ opening <:+: part.1
  tail : ¬ opening <:+: c.tail ∨ ∃ before after,
    c.tail = before ++ (opening ++ after) ∧ ¬ opening <:+: before ∧ '}' ∉ after

/-- What stands for a placeholder: the text of its value where its path is read and leads somewhere,
and otherwise what is written. -/
inductive Fills (lookup : Path → Option Value) (body : List Char) : List Char → Prop
  | value {p : Path} {v : Value} : Path.ofChars? body = some p → lookup p = some v →
      Fills lookup body v.text.toList
  | unread : Path.ofChars? body = none → Fills lookup body (written body)
  | unresolved {p : Path} : Path.ofChars? body = some p → lookup p = none →
      Fills lookup body (written body)

theorem fills_filled (lookup : Path → Option Value) (body : List Char) :
    Fills lookup body (filled lookup body) := by
  unfold filled
  cases hp : Path.ofChars? body with
  | none => exact .unread hp
  | some p =>
    rw [Option.bind_some]
    cases hv : lookup p with
    | none => exact .unresolved hp hv
    | some v => exact .value hp hv

namespace Cut

theorem text_cons (r : List Char → List Char) (before body : List Char)
    (parts : List (List Char × List Char)) (tail : List Char) :
    text r ⟨(before, body) :: parts, tail⟩ = before ++ (r body ++ text r ⟨parts, tail⟩) := by
  simp [text]

theorem text_congr {r r' : List Char → List Char} {c : Cut}
    (h : ∀ part ∈ c.parts, r part.2 = r' part.2) : c.text r = c.text r' := by
  have hparts : c.parts.flatMap (fun part => part.1 ++ r part.2) =
      c.parts.flatMap fun part => part.1 ++ r' part.2 := by
    rw [List.flatMap_def, List.flatMap_def]
    congr 1
    exact List.map_congr_left fun part hp => by rw [h part hp]
  rw [text, text, hparts]

namespace Divides

variable {c d : Cut} {cs before body rest : List Char}

theorem plain (h : cutAt opening cs = none) : Divides ⟨[], cs⟩ cs where
  whole := rfl
  bodies := by simp
  texts := by simp
  tail := .inl ((cutAt_eq_none (by decide)).1 h)

theorem unclosed {after : List Char} (h : cutAt opening cs = some (before, after))
    (hc : cutAt closing after = none) : Divides ⟨[], cs⟩ cs := by
  obtain ⟨he, hb⟩ := cutAt_eq_some (by decide) h
  exact ⟨rfl, by simp, by simp, .inr ⟨before, after, he, hb, cutAt_closing_eq_none.1 hc⟩⟩

theorem placeholder {after : List Char} (h : cutAt opening cs = some (before, after))
    (hc : cutAt closing after = some (body, rest)) (hd : c.Divides rest) :
    Divides ⟨(before, body) :: c.parts, c.tail⟩ cs := by
  obtain ⟨rfl, hbefore⟩ := cutAt_eq_some (by decide) h
  obtain ⟨rfl, hbody⟩ := cutAt_eq_some (by decide) hc
  refine ⟨?_, List.forall_mem_cons.2 ⟨mt closing_infix.2 hbody, hd.bodies⟩,
    List.forall_mem_cons.2 ⟨hbefore, hd.texts⟩, hd.tail⟩
  have hwhole := hd.whole
  rw [text_cons, hwhole]
  simp [written]

/-- A line without placeholders is left where no opening in it is closed. -/
theorem of_nil {tail : List Char} (h : Divides ⟨[], tail⟩ cs) : cs = tail ∧
    (cutAt opening cs = none ∨ ∃ before after, cutAt opening cs = some (before, after) ∧
      cutAt closing after = none) := by
  obtain ⟨rfl, -, -, htail⟩ := h
  refine ⟨rfl, ?_⟩
  show cutAt opening tail = none ∨ _
  rcases htail with hno | ⟨before, after, rfl, hb, ha⟩
  · exact .inl ((cutAt_eq_none (by decide)).2 hno)
  · exact .inr ⟨before, after, cutAt_append (by decide) hb after, cutAt_closing_eq_none.2 ha⟩

/-- The first placeholder is where the first opening is, up to the first closing brace. -/
theorem of_cons {parts : List (List Char × List Char)} {tail : List Char}
    (h : Divides ⟨(before, body) :: parts, tail⟩ cs) : ∃ after rest,
      cutAt opening cs = some (before, after) ∧ cutAt closing after = some (body, rest) ∧
        Divides ⟨parts, tail⟩ rest := by
  obtain ⟨hbody, hbodies⟩ := List.forall_mem_cons.1 h.bodies
  obtain ⟨hbefore, htexts⟩ := List.forall_mem_cons.1 h.texts
  refine ⟨body ++ (closing ++ text written ⟨parts, tail⟩), text written ⟨parts, tail⟩, ?_,
    cutAt_append (by decide) (mt closing_infix.1 hbody) _, rfl, hbodies, htexts, h.tail⟩
  have hwhole := h.whole
  rw [text_cons] at hwhole
  have hcs : cs = before ++ (opening ++ (body ++ (closing ++ text written ⟨parts, tail⟩))) := by
    rw [← hwhole]
    simp [written]
  rw [hcs, cutAt_append (by decide) hbefore]

theorem not_nil {part : List Char × List Char} {parts : List (List Char × List Char)}
    {tail tail' : List Char} (h : Divides ⟨part :: parts, tail⟩ cs) : ¬ Divides ⟨[], tail'⟩ cs := by
  intro h'
  obtain ⟨after, rest, ho, hc, -⟩ := h.of_cons
  obtain ⟨-, hnone | ⟨b, a, ho', hc'⟩⟩ := h'.of_nil
  · rw [hnone] at ho
    cases ho
  · rw [ho'] at ho
    cases ho
    rw [hc'] at hc
    cases hc

theorem unique (h : c.Divides cs) (h' : d.Divides cs) : c = d := by
  obtain ⟨parts, tail⟩ := c
  obtain ⟨parts', tail'⟩ := d
  induction parts generalizing parts' cs with
  | nil =>
    cases parts' with
    | nil =>
      obtain ⟨rfl, -⟩ := h.of_nil
      obtain ⟨rfl, -⟩ := h'.of_nil
      rfl
    | cons part' more' => exact absurd h h'.not_nil
  | cons part more ih =>
    cases parts' with
    | nil => exact absurd h' h.not_nil
    | cons part' more' =>
      obtain ⟨before, body⟩ := part
      obtain ⟨before', body'⟩ := part'
      obtain ⟨after, rest, ho, hc, hrest⟩ := h.of_cons
      obtain ⟨after', rest', ho', hc', hrest'⟩ := h'.of_cons
      rw [ho'] at ho
      cases ho
      rw [hc'] at hc
      cases hc
      cases ih hrest more' hrest'
      rfl

end Divides

theorem exists_divides (cs : List Char) : ∃ c : Cut, c.Divides cs := by
  induction cs using fill.induct with
  | case1 cs ho => exact ⟨_, .plain ho⟩
  | case2 cs before after ho hc => exact ⟨_, .unclosed ho hc⟩
  | case3 cs before after ho body rest hc ih =>
    obtain ⟨c, hrest⟩ := ih
    exact ⟨_, .placeholder ho hc hrest⟩

end Cut

/-! ### Two walks through a line -/

section Walks

variable {lookup lookup' : Path → Option Value} {cs before after body rest : List Char}

theorem fill_plain (h : cutAt opening cs = none) : fill lookup cs = cs := by
  grind [fill]

theorem fill_unclosed (h : cutAt opening cs = some (before, after))
    (hc : cutAt closing after = none) : fill lookup cs = cs := by
  have hcs := (cutAt_eq_some (by decide) h).1
  grind [fill]

theorem fill_placeholder (h : cutAt opening cs = some (before, after))
    (hc : cutAt closing after = some (body, rest)) :
    fill lookup cs = before ++ (filled lookup body ++ fill lookup rest) := by
  grind [fill]

theorem pathsIn_plain (h : cutAt opening cs = none) : pathsIn cs = [] := by
  grind [pathsIn]

theorem pathsIn_unclosed (h : cutAt opening cs = some (before, after))
    (hc : cutAt closing after = none) : pathsIn cs = [] := by
  grind [pathsIn]

theorem pathsIn_placeholder (h : cutAt opening cs = some (before, after))
    (hc : cutAt closing after = some (body, rest)) :
    pathsIn cs = (Path.ofChars? body).toList ++ pathsIn rest := by
  grind [pathsIn]

theorem fill_of_divides {c : Cut} (h : c.Divides cs) : fill lookup cs = c.text (filled lookup) := by
  obtain ⟨parts, tail⟩ := c
  induction parts generalizing cs with
  | nil =>
    obtain ⟨rfl, hnone | ⟨before, after, ho, hc⟩⟩ := h.of_nil
    · exact fill_plain hnone
    · exact fill_unclosed ho hc
  | cons part more ih =>
    obtain ⟨before, body⟩ := part
    obtain ⟨after, rest, ho, hc, hrest⟩ := h.of_cons
    rw [fill_placeholder ho hc, ih hrest, Cut.text_cons]

theorem pathsIn_of_divides {c : Cut} (h : c.Divides cs) :
    pathsIn cs = c.parts.filterMap fun part => Path.ofChars? part.2 := by
  obtain ⟨parts, tail⟩ := c
  induction parts generalizing cs with
  | nil =>
    obtain ⟨rfl, hnone | ⟨before, after, ho, hc⟩⟩ := h.of_nil
    · exact pathsIn_plain hnone
    · exact pathsIn_unclosed ho hc
  | cons part more ih =>
    obtain ⟨before, body⟩ := part
    obtain ⟨after, rest, ho, hc, hrest⟩ := h.of_cons
    rw [pathsIn_placeholder ho hc, ih hrest, List.filterMap_cons]
    cases Path.ofChars? body <;> rfl

theorem filled_congr (h : ∀ p, Path.ofChars? body = some p → lookup p = lookup' p) :
    filled lookup body = filled lookup' body := by
  unfold filled
  cases hp : Path.ofChars? body with
  | none => rfl
  | some p => simp only [Option.bind_some, h p hp]

theorem filled_none (body : List Char) : filled (fun _ => none) body = written body := by
  unfold filled
  cases Path.ofChars? body <;> rfl

/-- A line is filled alike where the paths that are read from it lead to the same values. -/
theorem interpolate_congr {line : String} (h : ∀ p ∈ paths line, lookup p = lookup' p) :
    interpolate lookup line = interpolate lookup' line := by
  obtain ⟨c, hc⟩ := Cut.exists_divides line.toList
  rw [paths, pathsIn_of_divides hc] at h
  have hfilled : ∀ part ∈ c.parts, filled lookup part.2 = filled lookup' part.2 :=
    fun part hpart => filled_congr fun p hp => h p (List.mem_filterMap.2 ⟨part, hpart, hp⟩)
  rw [interpolate, interpolate, fill_of_divides hc, fill_of_divides hc, Cut.text_congr hfilled]

theorem interpolate_none (line : String) : interpolate (fun _ => none) line = line := by
  obtain ⟨c, hc⟩ := Cut.exists_divides line.toList
  have hfilled : ∀ part ∈ c.parts, filled (fun _ => none) part.2 = written part.2 :=
    fun part _ => filled_none part.2
  rw [interpolate, fill_of_divides hc, Cut.text_congr hfilled, hc.whole, String.ofList_toList]

end Walks

/-- A line is cut into texts and placeholders in one way only. It is filled, always, to its texts
with the values of its placeholders between them, and the paths read from it are those of the same
placeholders. -/
theorem interpolates_in_one_pass (line : String) :
    ∃ c : Cut, c.Divides line.toList ∧ (∀ d : Cut, d.Divides line.toList → d = c) ∧
      (∀ lookup : Path → Option Value, ∃ r, (∀ body, Fills lookup body (r body)) ∧
        Formatter.interpolator.format line lookup = .ok (String.ofList (c.text r))) ∧
      paths line = c.parts.filterMap (fun part => Path.ofChars? part.2) ∧
      (∀ lookup lookup' : Path → Option Value, (∀ p ∈ paths line, lookup p = lookup' p) →
        Formatter.interpolator.format line lookup = Formatter.interpolator.format line lookup') ∧
      ∀ lookup : Path → Option Value, (∀ p ∈ paths line, lookup p = none) →
        Formatter.interpolator.format line lookup = .ok line := by
  obtain ⟨c, hc⟩ := Cut.exists_divides line.toList
  refine ⟨c, hc, fun d hd => hd.unique hc, fun lookup => ?_, pathsIn_of_divides hc, ?_, ?_⟩
  · refine ⟨filled lookup, fills_filled lookup, ?_⟩
    rw [Formatter.format, interpolate, fill_of_divides hc]
  · intro lookup lookup' h
    rw [Formatter.format, Formatter.format, interpolate_congr h]
  · intro lookup h
    rw [Formatter.format, interpolate_congr h, interpolate_none]

/-- An opening inside a placeholder, a value that looks like a placeholder, and an opening that is
never closed. -/
theorem interpolates_in_one_pass_nested :
    let line := "$${a}-$\x7b${b}\x7d-${c}$\x7bd"
    let c : Cut :=
      ⟨[(['$'], ['a']), (['-'], ['$', '{', 'b']), (['}', '-'], ['c'])], ['$', '{', 'd']⟩
    let inject (text : String) (p : Path) : Option Value :=
      if p.root = "a" then some (.string "${c}") else
      if p.root = "b" then some (.string text) else none
    (∀ d : Cut, d.Divides line.toList → d = c) ∧ paths line = [⟨"a", []⟩, ⟨"c", []⟩] ∧
      Formatter.interpolator.format line (inject "x") =
        Formatter.interpolator.format line (inject "y") ∧
      Formatter.interpolator.format line (fun p => if p.root = "b" then some .null else none) =
        .ok line := by
  intro line c inject
  have hc : c.Divides line.toList := by
    refine ⟨by decide +kernel, by decide, by decide, .inr ⟨[], ['d'], rfl, by decide, by decide⟩⟩
  obtain ⟨e, -, hunique, -, hpaths, hcongr, hkept⟩ := interpolates_in_one_pass line
  cases hunique c hc
  have hread : paths line = [⟨"a", []⟩, ⟨"c", []⟩] := hpaths.trans (by decide +kernel)
  have hroot : ∀ p ∈ paths line, p.root = "a" ∨ p.root = "c" := by
    rw [hread]
    decide
  refine ⟨hunique, hread, hcongr _ _ fun p hp => ?_, hkept _ fun p hp => ?_⟩
  · rcases hroot p hp with h | h <;> simp [inject, h]
  · rcases hroot p hp with h | h <;> simp [h]

end LineTemplate.Placeholder
