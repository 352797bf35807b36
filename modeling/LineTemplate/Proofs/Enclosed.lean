import LineTemplate.Proofs.Steady

/-!
# Patterns inside a group

What a pattern reads depends on the groups that it opens and not on those around it, unless it
closes one of those. So a pattern is read inside a group as it is read by itself, and the bracket
behind it closes the group around it, unless the bracket falls into a comment at the end.

This is so whatever the items are, as long as they are written as `ItemReader.Lawful` says.
-/

namespace LineTemplate.Pattern

/-- What is relied on of the way that items are written. -/
structure ItemReader.Lawful (item : ItemReader) : Prop where
  /-- An item is read off the front of the text. -/
  suffix {f : Flags} {c : Char} {cs left : List Char} {i : Item} :
    item f (c :: cs) = some (i, left) → left <:+ cs
  /-- A group that only holds together has the flags that are in force outside. -/
  group (f : Flags) (cs : List Char) :
    item f ('(' :: '?' :: ':' :: cs) = some (.opening f none, cs)
  bracket (f : Flags) (cs : List Char) : item f (')' :: cs) = some (.closing, cs)
  /-- Only a bracket closes a group. -/
  closing {f : Flags} {c : Char} {cs left : List Char} :
    item f (c :: cs) = some (.closing, left) → c = ')'
  /-- The start of the text, or of a line if the flags say so. -/
  caret (f : Flags) (cs : List Char) : item f ('^' :: cs) = some (.atom
    (.look (if f.multiLine then Look.lineStart f.returns else Look.textStart)), cs)
  /-- The end of the text, or of a line if the flags say so. -/
  dollar (f : Flags) (cs : List Char) : item f ('$' :: cs) = some (.atom
    (.look (if f.multiLine then Look.lineEnd f.returns else Look.textEnd)), cs)
  /-- An item is the same with the ending behind the text, which is left behind the item unless it
  falls into a comment. -/
  complete {f : Flags} {c : Char} {cs left : List Char} {i : Item} :
    item f (c :: cs) = some (i, left) →
      item f (c :: (cs ++ ending)) = some (i, left ++ ending) ∨
        left = [] ∧ item f (c :: (cs ++ ending)) = some (i, [])
  /-- What the ending makes an item has the bracket in it. -/
  completed {f : Flags} {c : Char} {cs left : List Char} {i : Item} :
    item f (c :: cs) = none → item f (c :: (cs ++ ending)) = some (i, left) → ')' ∉ left

/-- Reading from one state to another, item by item. -/
inductive Reads (item : ItemReader) : State → List Char → State → Prop
  | done {s : State} {cs : List Char} : skip s.level.flags cs = [] → Reads item s cs s
  | step {s t u : State} {cs rest left : List Char} {c : Char} {i : Item} :
      skip s.level.flags cs = c :: rest → item s.level.flags (c :: rest) = some (i, left) →
      s.add i = some t → Reads item t left u → Reads item s cs u

/-- Reading comes to a bracket where no group is open. -/
inductive Overcloses (item : ItemReader) : State → List Char → Prop
  | here {s : State} {cs rest : List Char} :
      s.outer = [] → skip s.level.flags cs = ')' :: rest → Overcloses item s cs
  | step {s t : State} {cs rest left : List Char} {c : Char} {i : Item} :
      skip s.level.flags cs = c :: rest → item s.level.flags (c :: rest) = some (i, left) →
      s.add i = some t → Overcloses item t left → Overcloses item s cs

variable {item : ItemReader} {s t u : State} {cs ds left rest : List Char} {i : Item}
  {ls : List Level}

theorem reads_of_readWithin {n : Nat} (h : State.readWithin item n s cs = some t) :
    Reads item s cs t := by
  induction n generalizing s cs with
  | zero => cases h
  | succ n ih =>
    rw [State.readWithin] at h
    split at h
    · next hskip =>
      cases h
      exact .done hskip
    · next c rest hskip =>
      obtain ⟨⟨i, left⟩, hitem, hrest⟩ := Option.bind_eq_some_iff.1 h
      obtain ⟨u, hadd, hread⟩ := Option.bind_eq_some_iff.1 hrest
      exact .step hskip hitem hadd (ih hread)

theorem Reads.readWithin (hi : item.Lawful) (h : Reads item s cs t) {n : Nat}
    (hn : cs.length < n) : State.readWithin item n s cs = some t := by
  induction h generalizing n with
  | done hskip =>
    obtain ⟨n, rfl⟩ : ∃ m, n = m + 1 := ⟨n - 1, by omega⟩
    rw [State.readWithin, hskip]
  | @step s t u cs rest left c i hskip hitem hadd _ ih =>
    obtain ⟨n, rfl⟩ : ∃ m, n = m + 1 := ⟨n - 1, by omega⟩
    have hlength := skip_length s.level.flags cs
    have hleft := (hi.suffix hitem).length_le
    rw [hskip, List.length_cons] at hlength
    rw [State.readWithin, hskip]
    change ((item s.level.flags (c :: rest)).bind fun y => (s.add y.1).bind fun s =>
      State.readWithin item n s y.2) = some u
    rw [hitem, Option.bind_some, hadd, Option.bind_some]
    exact ih (by omega)

theorem read_eq_some_iff (hi : item.Lawful) : s.read item cs = some t ↔ Reads item s cs t :=
  ⟨reads_of_readWithin, fun h => h.readWithin hi (Nat.lt_succ_self _)⟩

/-- What means nothing in front makes no difference. -/
theorem reads_congr (h : skip s.level.flags cs = skip s.level.flags ds) :
    Reads item s cs t ↔ Reads item s ds t := by
  have hone {cs ds : List Char} (h : skip s.level.flags cs = skip s.level.flags ds)
      (hr : Reads item s cs t) : Reads item s ds t := by
    cases hr with
    | done hskip => exact .done (h.symm.trans hskip)
    | step hskip hitem hadd hrest => exact .step (h.symm.trans hskip) hitem hadd hrest
  exact ⟨hone h, hone h.symm⟩

theorem reads_item {c : Char} (hskip : skip s.level.flags cs = c :: rest)
    (hitem : item s.level.flags (c :: rest) = some (i, left)) (hadd : s.add i = some t) :
    Reads item s cs u ↔ Reads item t left u := by
  refine ⟨fun h => ?_, .step hskip hitem hadd⟩
  cases h with
  | done hnil => rw [hskip] at hnil; cases hnil
  | step hskip' hitem' hadd' hrest =>
    cases hskip.symm.trans hskip'
    cases hitem.symm.trans hitem'
    cases hadd.symm.trans hadd'
    exact hrest

theorem Reads.unique (h : Reads item s cs t) (h' : Reads item s cs u) : t = u := by
  induction h with
  | done hskip =>
    cases h' with
    | done => rfl
    | step hnext => rw [hskip] at hnext; cases hnext
  | step hskip hitem hadd _ ih => exact ih ((reads_item hskip hitem hadd).1 h')

theorem add_closing (h : s.outer = []) : s.add .closing = none := by
  rw [State.add, h]

/-- What is read to its end closes only what it has opened. -/
theorem Reads.not_overcloses (hi : item.Lawful) (h : Reads item s cs t) :
    ¬ Overcloses item s cs := by
  induction h with
  | done hskip =>
    intro ho
    cases ho with
    | here _ hbracket => rw [hskip] at hbracket; cases hbracket
    | step hnext _ _ _ => rw [hskip] at hnext; cases hnext
  | step hskip hitem hadd _ ih =>
    intro ho
    cases ho with
    | here houter hbracket =>
      cases hskip.symm.trans hbracket
      cases hitem.symm.trans (hi.bracket _ _)
      rw [add_closing houter] at hadd
      cases hadd
    | step hskip' hitem' hadd' ho =>
      cases hskip.symm.trans hskip'
      cases hitem.symm.trans hitem'
      cases hadd.symm.trans hadd'
      exact ih ho

/-! ### Groups around -/

/-- The same state with more groups around it. -/
def State.within (s : State) (ls : List Level) : State := { s with outer := s.outer ++ ls }

/-- Groups around make a difference only where one of them closes. -/
theorem add_within (ls : List Level) (h : i = .closing → s.outer ≠ []) :
    (s.within ls).add i = (s.add i).map fun t => t.within ls := by
  obtain ⟨⟨flags, alternatives, items⟩, outer, names⟩ := s
  cases i with
  | atom | bracketed | flags | bar => rfl
  | opening f name =>
    cases name with
    | none => rfl
    | some n => by_cases hn : n ∈ names <;> simp [State.add, State.within, hn]
  | closing =>
    cases outer with
    | nil => exact absurd rfl (h rfl)
    | cons l outer => rfl
  | repetition low high =>
    cases items with
    | nil => rfl
    | cons p items => cases p <;> rfl

theorem add_within_of_some (ls : List Level) (h : s.add i = some t) :
    (s.within ls).add i = some (t.within ls) := by
  have hclose : i = .closing → s.outer ≠ [] := by
    rintro rfl houter
    rw [add_closing houter] at h
    cases h
  rw [add_within ls hclose, h, Option.map_some]

theorem skip_append_cons {f : Flags} {c : Char} (h : skip f cs = c :: rest) :
    skip f (cs ++ ending) = c :: (rest ++ ending) := by
  rcases skip_append f cs with happend | ⟨hnil, -⟩
  · rw [happend, h, List.cons_append]
  · rw [h] at hnil
    cases hnil

/-- A pattern leaves the ending to what stands behind it, or takes all of it for a comment. -/
theorem reads_within (hi : item.Lawful) (h : Reads item s cs t) :
    (∀ ls u, Reads item (s.within ls) (cs ++ ending) u ↔ Reads item (t.within ls) ending u) ∨
      ∀ ls, Reads item (s.within ls) (cs ++ ending) (t.within ls) := by
  induction h with
  | @done s cs hskip =>
    rcases skip_append s.level.flags cs with h | ⟨-, hend⟩
    · rw [hskip, List.nil_append] at h
      exact .inl fun ls u => reads_congr (h.trans (skip_ending _).symm)
    · exact .inr fun ls => .done hend
  | @step s t u cs rest left c i hskip hitem hadd hrest ih =>
    have hend : skip s.level.flags (cs ++ ending) = c :: (rest ++ ending) := skip_append_cons hskip
    rcases hi.complete hitem with hsame | ⟨rfl, hcomment⟩
    · have hstep (ls : List Level) (v : State) : Reads item (s.within ls) (cs ++ ending) v ↔
          Reads item (t.within ls) (left ++ ending) v :=
        reads_item hend hsame (add_within_of_some ls hadd)
      rcases ih with h | h
      · exact .inl fun ls v => (hstep ls v).trans (h ls v)
      · exact .inr fun ls => (hstep ls _).2 (h ls)
    · have hu : t = u := (Reads.done (skip_nil _)).unique hrest
      subst hu
      exact .inr fun ls => .step hend hcomment (add_within_of_some ls hadd) (.done (skip_nil _))

/-! ### Groups that stay open -/

theorem outer_of_add (h : s.add i = some t) (hopen : i ≠ .closing) (hs : s.outer ≠ []) :
    t.outer ≠ [] := by
  cases i with
  | atom | bracketed | flags | bar =>
    cases h
    exact hs
  | opening f name =>
    cases name with
    | none =>
      cases h
      exact List.cons_ne_nil _ _
    | some n =>
      simp only [State.add] at h
      split at h
      · cases h
      · cases h
        exact List.cons_ne_nil _ _
  | closing => exact absurd rfl hopen
  | repetition low high =>
    rw [State.add] at h
    split at h
    · cases h
      exact hs
    · cases h

/-- A group that is open stays so where no bracket follows. -/
theorem Reads.outer_ne_nil (hi : item.Lawful) (h : Reads item s cs t) (hcs : ')' ∉ cs)
    (hs : s.outer ≠ []) : t.outer ≠ [] := by
  induction h with
  | done => exact hs
  | @step s t u cs rest left c i hskip hitem hadd _ ih =>
    have hrest : c :: rest <:+ cs := hskip ▸ skip_suffix s.level.flags cs
    refine ih (fun hleft => hcs (hrest.mem (List.mem_cons_of_mem c ?_))) (outer_of_add hadd ?_ hs)
    · exact (hi.suffix hitem).mem hleft
    · rintro rfl
      rw [hi.closing hitem] at hrest
      exact hcs (hrest.mem (List.mem_cons_self ..))

theorem within_ne_nil (s : State) (hls : ls ≠ []) : (s.within ls).outer ≠ [] :=
  fun h => hls (List.append_eq_nil_iff.1 h).2

/-- The pattern comes to a place where it cannot be read on, with no group closed too often. -/
structure Unreadable (item : ItemReader) (s : State) (cs : List Char) : Prop where
  not_overcloses : ¬ Overcloses item s cs
  not_reads (t : State) : ¬ Reads item s cs t

namespace Unreadable

theorem skip_ne_nil (h : Unreadable item s cs) : skip s.level.flags cs ≠ [] :=
  fun hnil => h.not_reads s (.done hnil)

/-- An item can be taken away from the front, in whatever groups it stands. -/
theorem step (hi : item.Lawful) {c : Char} (h : Unreadable item s cs)
    (hskip : skip s.level.flags cs = c :: rest)
    (hitem : item s.level.flags (c :: rest) = some (i, left))
    (hadd : (s.within ls).add i = some t) :
    ∃ v, t = v.within ls ∧ Unreadable item v left := by
  have hopen : i = .closing → s.outer ≠ [] := by
    rintro rfl houter
    rw [hi.closing hitem] at hskip
    exact h.not_overcloses (.here houter hskip)
  rw [add_within ls hopen] at hadd
  obtain ⟨v, hv, hvt⟩ := Option.map_eq_some_iff.1 hadd
  exact ⟨v, hvt.symm, fun ho => h.not_overcloses (.step hskip hitem hv ho),
    fun u hu => h.not_reads u (.step hskip hitem hv hu)⟩

end Unreadable

/-- What cannot be read leaves a group around it open with the ending behind it. -/
theorem outer_of_unreadable (hi : item.Lawful) (hls : ls ≠ []) (h : Unreadable item s cs)
    (hread : Reads item (s.within ls) (cs ++ ending) u) : u.outer ≠ [] := by
  generalize hs : s.within ls = v at hread
  generalize hcs : cs ++ ending = ds at hread
  induction hread generalizing s cs with
  | @done v ds hnil =>
    subst hs hcs
    obtain ⟨c, rest, hskip⟩ := List.exists_cons_of_ne_nil h.skip_ne_nil
    cases (skip_append_cons hskip).symm.trans hnil
  | @step v t u ds rest left c i hnext hend hadd hrest ih =>
    subst hs hcs
    obtain ⟨d, inner, hskip⟩ := List.exists_cons_of_ne_nil h.skip_ne_nil
    cases (skip_append_cons hskip).symm.trans hnext
    change item s.level.flags (c :: (inner ++ ending)) = some (i, left) at hend
    -- the item is one of the pattern by itself, or the ending has made it one
    cases hitem : item s.level.flags (c :: inner) with
    | some y =>
      obtain ⟨j, after⟩ := y
      rcases hi.complete hitem with hsame | ⟨rfl, hcomment⟩
      · cases hend.symm.trans hsame
        obtain ⟨w, hwt, hw⟩ := h.step hi hskip hitem hadd
        exact ih hw hwt.symm rfl
      · cases hend.symm.trans hcomment
        obtain ⟨w, -, hw⟩ := h.step hi hskip hitem hadd
        exact absurd (skip_nil _) hw.skip_ne_nil
    | none =>
      have hopen : i ≠ .closing := by
        rintro rfl
        rw [hi.closing hend, hi.bracket] at hitem
        cases hitem
      exact hrest.outer_ne_nil hi (hi.completed hitem hend)
        (outer_of_add hadd hopen (within_ne_nil s hls))

end LineTemplate.Pattern
