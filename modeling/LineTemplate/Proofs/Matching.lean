import LineTemplate.Pattern
import Mathlib.Data.List.Basic

/-!
# What a pattern matches

`Spans text p i j` says that `p` matches from the place `i` of the text to the place `j`, one rule
for each way that a match comes about. `image` finds the places where matches end, all of them and
no others, however many ways there are to get there.
-/

namespace LineTemplate.Pattern

/-- The character before a place. -/
def before? (text : List Char) : Nat → Option Char
  | 0 => none
  | i + 1 => text[i]?

/-- The pattern matches what stands between two places of the text. -/
inductive Spans (text : List Char) : Pattern → Nat → Nat → Prop
  | empty {i : Nat} : i ≤ text.length → Spans text .empty i i
  | char {set : CharSet} {i : Nat} {c : Char} :
      text[i]? = some c → set.holds c = true → Spans text (.char set) i (i + 1)
  | look {holds : Look} {i : Nat} :
      i ≤ text.length → holds (before? text i) text[i]? = true → Spans text (.look holds) i i
  | cat {p q : Pattern} {i j k : Nat} :
      Spans text p i j → Spans text q j k → Spans text (.cat p q) i k
  | altLeft {p q : Pattern} {i j : Nat} : Spans text p i j → Spans text (.alt p q) i j
  | altRight {p q : Pattern} {i j : Nat} : Spans text q i j → Spans text (.alt p q) i j
  | starNone {p : Pattern} {i : Nat} : i ≤ text.length → Spans text (.star p) i i
  | starMore {p : Pattern} {i j k : Nat} :
      Spans text p i j → Spans text (.star p) j k → Spans text (.star p) i k
  | timesNone {p : Pattern} {i : Nat} : i ≤ text.length → Spans text (.times p 0) i i
  | timesMore {p : Pattern} {n i j k : Nat} :
      Spans text p i j → Spans text (.times p n) j k → Spans text (.times p (n + 1)) i k
  | upToNone {p : Pattern} {n i : Nat} : i ≤ text.length → Spans text (.upTo p n) i i
  | upToMore {p : Pattern} {n i j k : Nat} :
      Spans text p i j → Spans text (.upTo p n) j k → Spans text (.upTo p (n + 1)) i k

namespace Spans

variable {text : List Char} {p : Pattern} {i j k n : Nat}

theorem bounds (h : Spans text p i j) : i ≤ j ∧ j ≤ text.length := by
  induction h with
  | empty hi | look hi | starNone hi | timesNone hi | upToNone hi => exact ⟨Nat.le_refl _, hi⟩
  | char hc =>
    obtain ⟨hi, -⟩ := List.getElem?_eq_some_iff.1 hc
    exact ⟨Nat.le_succ _, hi⟩
  | altLeft _ ih | altRight _ ih => exact ih
  | cat _ _ ihp ihq | starMore _ _ ihp ihq | timesMore _ _ ihp ihq | upToMore _ _ ihp ihq =>
    exact ⟨Nat.le_trans ihp.1 ihq.1, ihq.2⟩

theorem upTo_succ : Spans text (.upTo p (n + 1)) i k ↔
    i = k ∧ i ≤ text.length ∨ ∃ j, Spans text p i j ∧ Spans text (.upTo p n) j k := by
  constructor
  · intro h
    cases h with
    | upToNone hi => exact .inl ⟨rfl, hi⟩
    | upToMore hp hq => exact .inr ⟨_, hp, hq⟩
  · rintro (⟨rfl, hi⟩ | ⟨j, hp, hq⟩)
    · exact .upToNone hi
    · exact .upToMore hp hq

theorem upTo_zero : Spans text (.upTo p 0) i k ↔ i = k ∧ i ≤ text.length := by
  constructor
  · intro h
    cases h with
    | upToNone hi => exact ⟨rfl, hi⟩
  · rintro ⟨rfl, hi⟩
    exact .upToNone hi

theorem upTo_mono {m : Nat} (h : Spans text (.upTo p n) i j) (hm : n ≤ m) :
    Spans text (.upTo p m) i j := by
  induction n generalizing i m with
  | zero =>
    obtain ⟨rfl, hi⟩ := upTo_zero.1 h
    exact .upToNone hi
  | succ n ih =>
    rcases upTo_succ.1 h with ⟨rfl, hi⟩ | ⟨k, hp, hq⟩
    · exact .upToNone hi
    · obtain ⟨m, rfl⟩ : ∃ l, m = l + 1 := ⟨m - 1, by omega⟩
      exact .upToMore hp (ih hq (by omega))

theorem star_of_upTo (h : Spans text (.upTo p n) i j) : Spans text (.star p) i j := by
  induction n generalizing i with
  | zero =>
    obtain ⟨rfl, hi⟩ := upTo_zero.1 h
    exact .starNone hi
  | succ n ih =>
    rcases upTo_succ.1 h with ⟨rfl, hi⟩ | ⟨k, hp, hq⟩
    · exact .starNone hi
    · exact .starMore hp (ih hq)

/-- Repetitions that match nothing can be left out, so there are no more than characters. -/
theorem upTo_of_star {q : Pattern} (h : Spans text q i j) :
    ∀ p, q = .star p → Spans text (.upTo p (j - i)) i j := by
  induction h with
  | starNone hi =>
    rintro p ⟨⟩
    exact .upToNone hi
  | @starMore _ i j k hp hq _ ih =>
    rintro _ ⟨⟩
    have hrest := ih _ rfl
    have hle := hp.bounds.1
    have hge := hq.bounds.1
    by_cases hij : i = j
    · rw [hij]
      exact hrest
    · have hsplit : k - i = (k - i - 1) + 1 := by omega
      rw [hsplit]
      exact .upToMore hp (hrest.upTo_mono (by omega))
  | _ => rintro p ⟨⟩

end Spans

/-! ### Sets of places -/

namespace Places

/-- The place belongs to the set. -/
def Has (s : Places) (i : Nat) : Prop := s[i]? = some true

theorem has_zipWith {α : Type} {f : Bool → α → Bool} {s : Places} {t : List α} {i : Nat} :
    Has (List.zipWith f s t) i ↔ ∃ b a, s[i]? = some b ∧ t[i]? = some a ∧ f b a = true :=
  List.getElem?_zipWith_eq_some

theorem exists_getElem? {s : Places} {i : Nat} (h : i < s.length) : ∃ b, s[i]? = some b :=
  ⟨s[i], List.getElem?_eq_getElem h⟩

theorem Has.lt {s : Places} {i : Nat} (h : s.Has i) : i < s.length :=
  (List.getElem?_eq_some_iff.1 h).1

section

variable {s t : Places} (hlen : s.length = t.length)
include hlen

theorem length_union : (s.union t).length = s.length := by
  rw [union, List.length_zipWith, hlen, Nat.min_self]

theorem has_union {i : Nat} : (s.union t).Has i ↔ s.Has i ∨ t.Has i := by
  rw [union, has_zipWith]
  constructor
  · rintro ⟨b, c, hb, hc, h⟩
    rcases Bool.or_eq_true_iff.1 h with rfl | rfl
    · exact .inl hb
    · exact .inr hc
  · rintro (h | h)
    · obtain ⟨c, hc⟩ := exists_getElem? (hlen ▸ h.lt)
      exact ⟨true, c, h, hc, rfl⟩
    · obtain ⟨b, hb⟩ := exists_getElem? (hlen ▸ h.lt : i < s.length)
      exact ⟨b, true, hb, h, Bool.or_true b⟩

theorem length_diff : (s.diff t).length = s.length := by
  rw [diff, List.length_zipWith, hlen, Nat.min_self]

theorem has_diff {i : Nat} : (s.diff t).Has i ↔ s.Has i ∧ ¬ t.Has i := by
  rw [diff, has_zipWith]
  constructor
  · rintro ⟨b, c, hb, hc, h⟩
    rw [Bool.and_eq_true, Bool.not_eq_true'] at h
    obtain ⟨rfl, rfl⟩ := h
    refine ⟨hb, fun ht => ?_⟩
    rw [Has, hc] at ht
    cases ht
  · rintro ⟨hs, ht⟩
    obtain ⟨c, hc⟩ := exists_getElem? (hlen ▸ hs.lt)
    cases c with
    | true => exact absurd hc ht
    | false => exact ⟨true, false, hs, hc, rfl⟩

end

theorem isEmpty_iff {s : Places} : s.isEmpty = true ↔ ∀ i, ¬ s.Has i := by
  rw [isEmpty, Bool.not_eq_true', List.any_eq_false]
  constructor
  · intro h i hi
    exact h true (List.mem_of_getElem? hi) rfl
  · rintro h b hb rfl
    obtain ⟨i, hi⟩ := List.mem_iff_getElem?.1 hb
    exact h i hi

theorem has_all {text : List Char} {i : Nat} : (all text).Has i ↔ i ≤ text.length := by
  rw [Has, all, List.getElem?_replicate]
  constructor
  · intro h
    split at h
    · next hi => exact Nat.le_of_lt_succ hi
    · cases h
  · intro h
    rw [if_pos (Nat.lt_succ_of_le h)]

end Places

open Places

/-! ### Steps -/

section Steps

variable {text : List Char} {p : Pattern} {step : Places → Places}

/-- The step takes every place along a match of the pattern. -/
structure Follows (text : List Char) (p : Pattern) (step : Places → Places) : Prop where
  length {s : Places} : s.length = text.length + 1 → (step s).length = text.length + 1
  has {s : Places} {j : Nat} : s.length = text.length + 1 →
    ((step s).Has j ↔ ∃ i, s.Has i ∧ Spans text p i j)

theorem Follows.steps (h : Follows text p step) (n : Nat) :
    Follows text (.times p n) (steps step n) := by
  induction n with
  | zero =>
    refine ⟨fun hs => hs, fun {s j} hs => ?_⟩
    constructor
    · intro hj
      have hlt : j < s.length := Has.lt hj
      exact ⟨j, hj, .timesNone (by omega)⟩
    · rintro ⟨i, hi, hspan⟩
      cases hspan
      exact hi
  | succ n ih =>
    refine ⟨fun {s} hs => ?_, fun {s j} hs => ?_⟩
    · rw [Pattern.steps]
      split
      · exact hs
      · exact ih.length (h.length hs)
    · rw [Pattern.steps]
      split
      · next he =>
        have hnone := isEmpty_iff.1 he
        constructor
        · intro hj
          exact absurd hj (hnone j)
        · rintro ⟨i, hi, -⟩
          exact absurd hi (hnone i)
      · rw [ih.has (h.length hs)]
        constructor
        · rintro ⟨k, hk, hrest⟩
          obtain ⟨i, hi, hp⟩ := (h.has hs).1 hk
          exact ⟨i, hi, .timesMore hp hrest⟩
        · rintro ⟨i, hi, hspan⟩
          cases hspan with
          | @timesMore _ _ _ k _ hp hrest => exact ⟨k, (h.has hs).2 ⟨i, hi, hp⟩, hrest⟩

/-- What has been seen, and the frontier, which is all of it that has not been left yet: a match
that begins behind the frontier ends at a place that has been seen. -/
structure Explored (text : List Char) (p : Pattern) (seen frontier : Places) : Prop where
  seen_length : seen.length = text.length + 1
  frontier_length : frontier.length = text.length + 1
  seen_of_frontier {i : Nat} : frontier.Has i → seen.Has i
  closed {i j : Nat} : seen.Has i → ¬ frontier.Has i → Spans text p i j → seen.Has j

namespace Explored

variable {seen frontier : Places}

theorem step_length (he : Explored text p seen frontier) (h : Follows text p step) :
    (step frontier).length = seen.length :=
  (h.length he.frontier_length).trans he.seen_length.symm

theorem diff_length (he : Explored text p seen frontier) (h : Follows text p step) :
    ((step frontier).diff seen).length = text.length + 1 :=
  (length_diff (he.step_length h)).trans (h.length he.frontier_length)

theorem has_next (he : Explored text p seen frontier) (h : Follows text p step) {j : Nat} :
    ((step frontier).diff seen).Has j ↔
      (∃ i, frontier.Has i ∧ Spans text p i j) ∧ ¬ seen.Has j := by
  rw [has_diff (he.step_length h), h.has he.frontier_length]

theorem closed_next (he : Explored text p seen frontier) (h : Follows text p step) {i j : Nat}
    (hi : seen.Has i) (hp : Spans text p i j) :
    seen.Has j ∨ ((step frontier).diff seen).Has j := by
  by_cases hj : seen.Has j
  · exact .inl hj
  · by_cases hfi : frontier.Has i
    · exact .inr ((he.has_next h).2 ⟨⟨i, hfi, hp⟩, hj⟩)
    · exact absurd (he.closed hi hfi hp) hj

theorem has_union (he : Explored text p seen frontier) (h : Follows text p step) {j : Nat} :
    (seen.union ((step frontier).diff seen)).Has j ↔
      seen.Has j ∨ ((step frontier).diff seen).Has j :=
  Places.has_union (he.seen_length.trans (he.diff_length h).symm)

/-- One step further, what is new is the frontier. -/
theorem next (he : Explored text p seen frontier) (h : Follows text p step) :
    Explored text p (seen.union ((step frontier).diff seen)) ((step frontier).diff seen) where
  seen_length := (length_union (he.seen_length.trans (he.diff_length h).symm)).trans he.seen_length
  frontier_length := he.diff_length h
  seen_of_frontier := fun hi => (he.has_union h).2 (.inr hi)
  closed := fun hi hni hp => by
    rcases (he.has_union h).1 hi with hi | hi
    · exact (he.has_union h).2 (he.closed_next h hi hp)
    · exact absurd hi hni

/-- A way out of what has been seen leads over the next frontier: it comes to a place that is new,
with fewer steps left. -/
theorem exists_new (he : Explored text p seen frontier) (h : Follows text p step) {i j n : Nat}
    (hi : seen.Has i) (hspan : Spans text (.upTo p n) i j) : seen.Has j ∨
      ∃ k m, m < n ∧ ((step frontier).diff seen).Has k ∧ Spans text (.upTo p m) k j := by
  induction n generalizing i with
  | zero =>
    obtain ⟨rfl, -⟩ := Spans.upTo_zero.1 hspan
    exact .inl hi
  | succ n ih =>
    rcases Spans.upTo_succ.1 hspan with ⟨rfl, -⟩ | ⟨k, hp, hrest⟩
    · exact .inl hi
    rcases he.closed_next h hi hp with hk | hk
    · rcases ih hk hrest with hj | ⟨l, m, hm, hl, hspan⟩
      · exact .inl hj
      · exact .inr ⟨l, m, Nat.lt_succ_of_lt hm, hl, hspan⟩
    · exact .inr ⟨k, n, Nat.lt_succ_self n, hk, hrest⟩

end Explored

theorem has_closure (h : Follows text p step) (n : Nat) {seen frontier : Places}
    (he : Explored text p seen frontier) :
    (closure step n seen frontier).length = text.length + 1 ∧
      ∀ j, (closure step n seen frontier).Has j ↔
        seen.Has j ∨ ∃ i, frontier.Has i ∧ Spans text (.upTo p n) i j := by
  induction n generalizing seen frontier with
  | zero =>
    refine ⟨he.seen_length, fun j => ⟨.inl, ?_⟩⟩
    rintro (hj | ⟨i, hi, hspan⟩)
    · exact hj
    · obtain ⟨rfl, -⟩ := Spans.upTo_zero.1 hspan
      exact he.seen_of_frontier hi
  | succ n ih =>
    have hnew := fun {i j} (hi : frontier.Has i) =>
      he.exists_new (i := i) (j := j) (n := n + 1) h (he.seen_of_frontier hi)
    rw [closure]
    split
    · next hempty =>
      have hnone := isEmpty_iff.1 hempty
      refine ⟨he.seen_length, fun j => ⟨.inl, ?_⟩⟩
      rintro (hj | ⟨i, hi, hspan⟩)
      · exact hj
      · rcases hnew hi hspan with hj | ⟨k, m, -, hk, -⟩
        · exact hj
        · exact absurd hk (hnone k)
    · obtain ⟨hlength, hclosure⟩ := ih (he.next h)
      refine ⟨hlength, fun j => ?_⟩
      rw [hclosure, he.has_union h]
      constructor
      · rintro ((hj | hj) | ⟨k, hk, hspan⟩)
        · exact .inl hj
        · obtain ⟨⟨i, hi, hp⟩, -⟩ := (he.has_next h).1 hj
          exact .inr ⟨i, hi, .upToMore hp (.upToNone hp.bounds.2)⟩
        · obtain ⟨⟨i, hi, hp⟩, -⟩ := (he.has_next h).1 hk
          exact .inr ⟨i, hi, .upToMore hp hspan⟩
      · rintro (hj | ⟨i, hi, hspan⟩)
        · exact .inl (.inl hj)
        · rcases hnew hi hspan with hj | ⟨k, m, hm, hk, hrest⟩
          · exact .inl (.inl hj)
          · exact .inr ⟨k, hk, hrest.upTo_mono (Nat.le_of_lt_succ hm)⟩

theorem Follows.upTo (h : Follows text p step) (n : Nat) :
    Follows text (.upTo p n) fun s => closure step n s s := by
  have hboth := fun {s : Places} (hs : s.length = text.length + 1) =>
    has_closure h n ⟨hs, hs, fun hi => hi, fun hi hni _ => absurd hi hni⟩
  refine ⟨fun hs => (hboth hs).1, fun {s j} hs => ?_⟩
  rw [(hboth hs).2]
  constructor
  · rintro (hj | hj)
    · have hlt : j < s.length := Has.lt hj
      exact ⟨j, hj, .upToNone (by omega)⟩
    · exact hj
  · exact .inr

theorem Follows.star (h : Follows text p step) :
    Follows text (.star p) fun s => closure step (text.length + 1) s s := by
  have hup := h.upTo (text.length + 1)
  refine ⟨hup.length, fun {s j} hs => ?_⟩
  rw [hup.has hs]
  constructor
  · rintro ⟨i, hi, hspan⟩
    exact ⟨i, hi, hspan.star_of_upTo⟩
  · rintro ⟨i, hi, hspan⟩
    have hle := hspan.bounds
    exact ⟨i, hi, (hspan.upTo_of_star p rfl).upTo_mono (by omega)⟩

end Steps

/-! ### Whole patterns -/

theorem getElem?_surroundings (before : Option Char) (text : List Char) (i : Nat)
    (h : i ≤ text.length) : (surroundings before text)[i]? =
      some (if i = 0 then before else before? text i, text[i]?) := by
  induction text generalizing before i with
  | nil =>
    obtain rfl : i = 0 := Nat.le_zero.1 h
    rfl
  | cons c rest ih =>
    cases i with
    | zero => rfl
    | succ i =>
      rw [surroundings, List.getElem?_cons_succ, ih (some c) i (Nat.le_of_succ_le_succ h),
        List.getElem?_cons_succ]
      cases i with
      | zero => rfl
      | succ i => rfl

theorem length_surroundings (before : Option Char) (text : List Char) :
    (surroundings before text).length = text.length + 1 := by
  induction text generalizing before with
  | nil => rfl
  | cons c rest ih => rw [surroundings, List.length_cons, ih, List.length_cons]

theorem follows_char (text : List Char) (set : CharSet) :
    Follows text (.char set) (image text (.char set)) := by
  refine ⟨fun {s} hs => ?_, fun {s j} hs => ?_⟩
  · rw [image, List.length_cons, List.length_zipWith, hs]
    omega
  · rw [image]
    constructor
    · intro hj
      cases j with
      | zero => cases hj
      | succ i =>
        obtain ⟨b, c, hb, hc, h⟩ := has_zipWith.1 (show Has _ i from hj)
        rw [Bool.and_eq_true] at h
        obtain ⟨rfl, h⟩ := h
        exact ⟨i, hb, .char hc h⟩
    · rintro ⟨i, hi, hspan⟩
      cases hspan with
      | char hc h =>
        have hzip := has_zipWith (f := fun here c => here && set.holds c).2 ⟨true, _, hi, hc, h⟩
        exact hzip

theorem follows_look (text : List Char) (holds : Look) :
    Follows text (.look holds) (image text (.look holds)) := by
  have hplace : ∀ i, i ≤ text.length →
      (surroundings none text)[i]? = some (before? text i, text[i]?) := by
    intro i hi
    rw [getElem?_surroundings none text i hi]
    cases i <;> rfl
  refine ⟨fun {s} hs => ?_, fun {s j} hs => ?_⟩
  · rw [image, List.length_zipWith, length_surroundings, hs, Nat.min_self]
  · rw [image, has_zipWith]
    constructor
    · rintro ⟨b, around, hb, ha, h⟩
      have hlt : j < s.length := (List.getElem?_eq_some_iff.1 hb).1
      have hle : j ≤ text.length := by omega
      rw [Bool.and_eq_true] at h
      obtain ⟨rfl, h⟩ := h
      rw [hplace j hle, Option.some_inj] at ha
      subst ha
      exact ⟨j, hb, .look hle h⟩
    · rintro ⟨i, hi, hspan⟩
      cases hspan with
      | look hle h => exact ⟨true, _, hi, hplace j hle, h⟩

/-- The image of a set of places is where the matches that begin in it end. -/
theorem follows_image (text : List Char) (p : Pattern) : Follows text p (image text p) := by
  induction p with
  | empty =>
    refine ⟨fun hs => hs, fun {s j} hs => ?_⟩
    constructor
    · intro hj
      have hlt : j < s.length := Has.lt hj
      exact ⟨j, hj, .empty (by omega)⟩
    · rintro ⟨i, hi, hspan⟩
      cases hspan
      exact hi
  | char set => exact follows_char text set
  | look holds => exact follows_look text holds
  | cat p q ihp ihq =>
    refine ⟨fun hs => ihq.length (ihp.length hs), fun {s j} hs => ?_⟩
    rw [image, ihq.has (ihp.length hs)]
    constructor
    · rintro ⟨k, hk, hq⟩
      obtain ⟨i, hi, hp⟩ := (ihp.has hs).1 hk
      exact ⟨i, hi, .cat hp hq⟩
    · rintro ⟨i, hi, hspan⟩
      cases hspan with
      | cat hp hq => exact ⟨_, (ihp.has hs).2 ⟨i, hi, hp⟩, hq⟩
  | alt p q ihp ihq =>
    have hboth := fun {s : Places} (hs : s.length = text.length + 1) =>
      (ihp.length hs).trans (ihq.length hs).symm
    refine ⟨fun hs => (length_union (hboth hs)).trans (ihp.length hs), fun {s j} hs => ?_⟩
    rw [image, has_union (hboth hs), ihp.has hs, ihq.has hs]
    constructor
    · rintro (⟨i, hi, hp⟩ | ⟨i, hi, hq⟩)
      · exact ⟨i, hi, .altLeft hp⟩
      · exact ⟨i, hi, .altRight hq⟩
    · rintro ⟨i, hi, hspan⟩
      cases hspan with
      | altLeft hp => exact .inl ⟨i, hi, hp⟩
      | altRight hq => exact .inr ⟨i, hi, hq⟩
  | star p ih => exact ih.star
  | times p n ih => exact ih.steps n
  | upTo p n ih => exact ih.upTo n

/-- A pattern occurs in a text if and only if it matches between some two places of it. -/
theorem occursIn_iff {p : Pattern} {text : String} :
    p.occursIn text = true ↔ ∃ i j, Spans text.toList p i j := by
  have hall : (Places.all text.toList).length = text.toList.length + 1 := List.length_replicate
  have himage := fun {j} => (follows_image text.toList p).has (j := j) hall
  rw [occursIn, Bool.not_eq_true', ← Bool.not_eq_true, Places.isEmpty_iff]
  constructor
  · intro h
    rw [not_forall_not] at h
    obtain ⟨j, hj⟩ := h
    obtain ⟨i, -, hspan⟩ := himage.1 hj
    exact ⟨i, j, hspan⟩
  · rintro ⟨i, j, hspan⟩ hnone
    have hle := hspan.bounds
    exact hnone j (himage.2 ⟨i, has_all.2 (Nat.le_trans hle.1 hle.2), hspan⟩)

end LineTemplate.Pattern
