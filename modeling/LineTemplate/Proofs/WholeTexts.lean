import LineTemplate.Proofs.Items
import LineTemplate.Proofs.Matching
import LineTemplate.Proofs.Simulation

/-!
# Matching whole texts

The pattern for whole texts is put together as text: the pattern in a group between the two marks
for the ends of the text. Where the group holds the pattern and nothing else, the new pattern
matches a text exactly if the pattern matches it from its first to its last character. It does not
if the pattern ends in a comment, which hides the bracket of the group, or if the pattern closes
the group with a bracket of its own.

Of what reads the patterns and finds them, only `PatternReader.Conforms` is used: it may be any
reader that puts patterns together from their items, however it reads these, and whatever they
match.
-/

namespace LineTemplate

namespace Pattern

variable {item : ItemReader}

theorem finish?_eq_some_iff {s : State} {n : Nested} :
    s.finish? = some n ↔ s.outer = [] ∧ n = s.level.nested := by
  unfold State.finish?
  split
  · next h => simp only [h, Option.some.injEq, true_and, eq_comm]
  · next h => simp only [h, reduceCtorEq, false_and]

theorem nested?_eq_some_iff (hi : item.Lawful) {text : String} {n : Nested} :
    nested? item text = some n ↔
      ∃ s, Reads item .start text.toList s ∧ s.outer = [] ∧ n = s.level.nested := by
  unfold nested?
  rw [Option.bind_eq_some_iff]
  exact exists_congr fun s => and_congr (read_eq_some_iff hi) finish?_eq_some_iff

/-- The group around the pattern, behind the mark for the start of the text. -/
def around : Level := Level.push (.start .start) (some ⟨.look Look.textStart, 0⟩)

theorem reads_wholeText (hi : item.Lawful) {text : String} {u : State} :
    Reads item .start (wholeText text).toList u ↔
      Reads item (State.start.within [around]) (text.toList ++ ending) u := by
  have htext : (wholeText text).toList = '^' :: '(' :: '?' :: ':' :: (text.toList ++ ending) := by
    simp [wholeText, ending]
  have hcaret : Reads item .start (wholeText text).toList u ↔
      Reads item ⟨around, [], []⟩ ('(' :: '?' :: ':' :: (text.toList ++ ending)) u := by
    rw [htext]
    exact reads_item rfl (hi.caret .start _) rfl
  exact hcaret.trans (reads_item rfl (hi.group .start _) rfl)

/-- The mark at the end, as the flags of the group around want it. -/
def dollar (f : Flags) : Look := if f.multiLine then Look.lineEnd f.returns else Look.textEnd

/-- The ending closes the innermost group and puts the mark behind it. -/
theorem reads_ending (hi : item.Lawful) {s : State} {l : Level} {outer : List Level}
    (h : s.outer = l :: outer) : Reads item s ending
      ⟨(l.push (some ⟨s.level.nested.pattern, s.level.nested.depth + 1⟩)).push
        (some ⟨.look (dollar l.flags), 0⟩), outer, s.names⟩ := by
  have hclose : s.add .closing = some ⟨l.push (some
      ⟨s.level.nested.pattern, s.level.nested.depth + 1⟩), outer, s.names⟩ := by
    rw [State.add, h]
  have hdollar : skip l.flags ['$'] = ['$'] := skip_cons l.flags (by decide) (by decide) []
  exact .step (skip_ending _) (hi.bracket _ _) hclose
    (.step hdollar (hi.dollar _ _) rfl (.done (skip_nil _)))

theorem toList_ending (text : String) : (text ++ ")$").toList = text.toList ++ ending := by
  rw [String.toList_append]
  rfl

/-- Whether the ending stands behind the pattern, and does not become a part of it, shows where
no group is around: then its bracket cannot be read. -/
theorem nested?_ending (hi : item.Lawful) {text : String} {s : State}
    (hread : Reads item .start text.toList s) (houter : s.outer = []) :
    nested? item (text ++ ")$") = none ∧ (∀ u, Reads item (State.start.within [around])
      (text.toList ++ ending) u ↔ Reads item (s.within [around]) ending u) ∨
    nested? item (text ++ ")$") ≠ none ∧
      Reads item (State.start.within [around]) (text.toList ++ ending) (s.within [around]) := by
  have hself : s.within [] = s := by
    rw [State.within, List.append_nil]
  rcases reads_within hi hread with hstay | hswallow
  · refine .inl ⟨?_, hstay [around]⟩
    rw [Option.eq_none_iff_forall_ne_some]
    intro n hn
    obtain ⟨u, hu, -, -⟩ := (nested?_eq_some_iff hi).1 hn
    rw [toList_ending] at hu
    have hend : Reads item s ending u := hself ▸ (hstay [] u).1 hu
    exact hend.not_overcloses hi (.here houter (skip_ending _))
  · refine .inr ⟨?_, hswallow [around]⟩
    have hhidden : Reads item .start (text ++ ")$").toList s := by
      rw [toList_ending]
      exact hself ▸ hswallow []
    rw [(nested?_eq_some_iff hi).2 ⟨s, hhidden, houter, rfl⟩]
    exact Option.some_ne_none _

/-- A pattern that stays by itself is anchored at both ends of the text. -/
theorem nested?_wholeText (hi : item.Lawful) {text : String} {n : Nested}
    (h : nested? item text = some n) (hend : nested? item (text ++ ")$") = none) :
    ∃ m, nested? item (wholeText text) = some m ∧
      m.pattern = .cat (.look Look.textStart) (.cat n.pattern (.look Look.textEnd)) := by
  obtain ⟨s, hread, houter, rfl⟩ := (nested?_eq_some_iff hi).1 h
  rcases nested?_ending hi hread houter with ⟨-, hstay⟩ | ⟨hhidden, -⟩
  · have hwithin : (s.within [around]).outer = [around] := by
      rw [State.within, houter, List.nil_append]
    have hwhole := (reads_wholeText hi).2 ((hstay _).2 (reads_ending hi hwithin))
    exact ⟨_, (nested?_eq_some_iff hi).2 ⟨_, hwhole, rfl, rfl⟩, rfl⟩
  · exact absurd hend hhidden

theorem nested?_wholeText_eq_none (hi : item.Lawful) {text : String} {u : State}
    (h : Reads item (State.start.within [around]) (text.toList ++ ending) u)
    (hu : u.outer ≠ []) : nested? item (wholeText text) = none := by
  rw [Option.eq_none_iff_forall_ne_some]
  intro n hn
  obtain ⟨v, hv, houter, -⟩ := (nested?_eq_some_iff hi).1 hn
  rw [((reads_wholeText hi).1 hv).unique h] at houter
  exact hu houter

/-- A comment that hides the ending leaves the group around it open. -/
theorem nested?_wholeText_of_hidden (hi : item.Lawful) {text : String}
    (h : nested? item text ≠ none) (hend : nested? item (text ++ ")$") ≠ none) :
    nested? item (wholeText text) = none := by
  obtain ⟨n, hn⟩ := Option.ne_none_iff_exists'.1 h
  obtain ⟨s, hread, houter, -⟩ := (nested?_eq_some_iff hi).1 hn
  rcases nested?_ending hi hread houter with ⟨hnone, -⟩ | ⟨-, hhidden⟩
  · exact absurd hnone hend
  · exact nested?_wholeText_eq_none hi hhidden (within_ne_nil s (List.cons_ne_nil _ _))

/-- A pattern that leaves a group open, or cannot be read, is not mended by the ending. -/
theorem nested?_wholeText_of_none (hi : item.Lawful) {text : String}
    (h : nested? item text = none) (hclose : ¬ Overcloses item .start text.toList) :
    nested? item (wholeText text) = none := by
  by_cases hread : ∃ t, Reads item .start text.toList t
  · obtain ⟨t, ht⟩ := hread
    have houter : t.outer ≠ [] := by
      intro houter
      rw [(nested?_eq_some_iff hi).2 ⟨t, ht, houter, rfl⟩] at h
      cases h
    rcases reads_within hi ht with hstay | hswallow
    · obtain ⟨l, outer, hl⟩ := List.exists_cons_of_ne_nil houter
      have hwithin : (t.within [around]).outer = l :: (outer ++ [around]) := by
        rw [State.within, hl, List.cons_append]
      exact nested?_wholeText_eq_none hi ((hstay _ _).2 (reads_ending hi hwithin))
        (List.append_ne_nil_of_right_ne_nil outer (List.cons_ne_nil _ _))
    · exact nested?_wholeText_eq_none hi (hswallow _) (within_ne_nil t (List.cons_ne_nil _ _))
  · rw [Option.eq_none_iff_forall_ne_some]
    intro n hn
    obtain ⟨u, hu, houter, -⟩ := (nested?_eq_some_iff hi).1 hn
    have hunreadable : Unreadable item .start text.toList :=
      ⟨hclose, fun t ht => hread ⟨t, ht⟩⟩
    exact outer_of_unreadable hi (List.cons_ne_nil around []) hunreadable
      ((reads_wholeText hi).1 hu) houter

/-! ### Anchored patterns -/

/-- Between which places of a text a pattern matches. -/
abbrev MatchRelation := List Char → Pattern → Nat → Nat → Prop

/-- What is relied on of matching: the parts of a pattern match one behind the other, and each of
the marks for the ends of the text matches there, between no characters, and nowhere else. -/
structure MatchRelation.Lawful (spans : MatchRelation) : Prop where
  cat {text : List Char} {p q : Pattern} {i k : Nat} :
    spans text (.cat p q) i k ↔ ∃ j, spans text p i j ∧ spans text q j k
  textStart {text : List Char} {i j : Nat} :
    spans text (.look Look.textStart) i j ↔ i = 0 ∧ j = 0
  textEnd {text : List Char} {i j : Nat} :
    spans text (.look Look.textEnd) i j ↔ i = text.length ∧ j = text.length

theorem lawful_spans : MatchRelation.Lawful Spans where
  cat := by
    refine ⟨fun h => ?_, fun ⟨j, hp, hq⟩ => .cat hp hq⟩
    cases h with
    | cat hp hq => exact ⟨_, hp, hq⟩
  textStart {text i j} := by
    constructor
    · intro h
      cases h with
      | look hi hfirst =>
        cases i with
        | zero => exact ⟨rfl, rfl⟩
        | succ i =>
          rw [Look.textStart, before?, List.getElem?_eq_getElem hi] at hfirst
          cases hfirst
    · rintro ⟨rfl, rfl⟩
      exact .look (Nat.zero_le _) rfl
  textEnd {text i j} := by
    constructor
    · intro h
      cases h with
      | look hi hlast =>
        have hnone : text[i]? = none := Option.isNone_iff_eq_none.1 hlast
        have hlength := Nat.le_antisymm hi (List.getElem?_eq_none_iff.1 hnone)
        exact ⟨hlength, hlength⟩
    · rintro ⟨rfl, rfl⟩
      refine .look (Nat.le_refl _) ?_
      rw [Look.textEnd, List.getElem?_eq_none (Nat.le_refl _)]
      rfl

/-- A pattern between the two marks matches where it spans the whole text. -/
theorem exists_spans_anchored {spans : MatchRelation} (hs : spans.Lawful) {text : List Char}
    {p : Pattern} :
    (∃ i j, spans text (.cat (.look Look.textStart) (.cat p (.look Look.textEnd))) i j) ↔
      spans text p 0 text.length := by
  constructor
  · rintro ⟨i, j, h⟩
    obtain ⟨k, hstart, hrest⟩ := hs.cat.1 h
    obtain ⟨m, hp, hend⟩ := hs.cat.1 hrest
    obtain ⟨-, rfl⟩ := hs.textStart.1 hstart
    obtain ⟨rfl, -⟩ := hs.textEnd.1 hend
    exact hp
  · intro hp
    have hend := hs.cat.2 ⟨_, hp, hs.textEnd.2 ⟨rfl, rfl⟩⟩
    exact ⟨0, _, hs.cat.2 ⟨0, hs.textStart.2 ⟨rfl, rfl⟩, hend⟩⟩

/-- The pattern closes no group that it has not opened, and what stands behind it does not become
a part of it. -/
def StandsAlone (item : ItemReader) (text : String) : Prop :=
  ¬ Overcloses item .start text.toList ∧
    (nested? item text ≠ none → nested? item (text ++ ")$") = none)

theorem standsAlone_of_nested? (hi : item.Lawful) {text : String} (h : nested? item text ≠ none)
    (hend : nested? item (text ++ ")$") = none) : StandsAlone item text := by
  obtain ⟨n, hn⟩ := Option.ne_none_iff_exists'.1 h
  obtain ⟨s, hread, -, -⟩ := (nested?_eq_some_iff hi).1 hn
  exact ⟨hread.not_overcloses hi, fun _ => hend⟩

end Pattern

/-! ### Readers -/

namespace PatternReader

open Pattern (ItemReader MatchRelation nested? wholeText StandsAlone)

/-- What is relied on of the reader of patterns. It may refuse a pattern only because that exceeds
a limit, and it finds a pattern in a text where the pattern matches any part of it. -/
structure Conforms (read : PatternReader) (item : ItemReader) (spans : MatchRelation)
    (Exceeds : String → Prop) : Prop where
  lawful : item.Lawful
  matching : spans.Lawful
  refuses {text : String} : nested? item text = none → read text = none
  accepts {text : String} : nested? item text ≠ none → ¬ Exceeds text → read text ≠ none
  occurs {text : String} {n : Pattern.Nested} {p : Matcher} :
    nested? item text = some n → read text = some p →
      ∀ subject, p subject = true ↔ ∃ i j, spans subject.toList n.pattern i j

namespace Conforms

variable {read : PatternReader} {item : ItemReader} {spans : MatchRelation}
  {Exceeds : String → Prop} {text : String}

theorem exists_nested (h : read.Conforms item spans Exceeds) {p : Matcher}
    (hp : read text = some p) : ∃ n, nested? item text = some n := by
  cases hn : nested? item text with
  | some n => exact ⟨n, rfl⟩
  | none =>
    rw [h.refuses hn] at hp
    cases hp

/-- The pattern for whole texts is one if the pattern is one, where that stands alone. -/
theorem wholeText_eq_none_iff (h : read.Conforms item spans Exceeds)
    (halone : StandsAlone item text) (hlimits : ¬ Exceeds text)
    (hwhole : ¬ Exceeds (wholeText text)) :
    read (wholeText text) = none ↔ read text = none := by
  cases hn : nested? item text with
  | none =>
    have hnone := Pattern.nested?_wholeText_of_none h.lawful hn halone.1
    exact iff_of_true (h.refuses hnone) (h.refuses hn)
  | some n =>
    have hsome : nested? item text ≠ none := hn ▸ Option.some_ne_none n
    obtain ⟨m, hm, -⟩ := Pattern.nested?_wholeText h.lawful hn (halone.2 hsome)
    have hm' : nested? item (wholeText text) ≠ none := hm ▸ Option.some_ne_none m
    exact iff_of_false (h.accepts hm' hwhole) (h.accepts hsome hlimits)

/-- Where it is one, it matches the texts that the pattern matches from end to end. -/
theorem wholeText_occurs (h : read.Conforms item spans Exceeds) (halone : StandsAlone item text)
    {n : Pattern.Nested} (hn : nested? item text = some n) {q : Matcher}
    (hq : read (wholeText text) = some q) (subject : String) :
    q subject = true ↔ spans subject.toList n.pattern 0 subject.toList.length := by
  have hend := halone.2 (hn ▸ Option.some_ne_none n)
  obtain ⟨m, hm, hpattern⟩ := Pattern.nested?_wholeText h.lawful hn hend
  rw [h.occurs hm hq, hpattern]
  exact Pattern.exists_spans_anchored h.matching

end Conforms

end PatternReader

namespace Pattern

/-- The pattern is nested too deep or too large. -/
def Exceeds (text : String) : Prop := nested? item text ≠ none ∧ ofText? text = none

theorem conforms_reader : reader.Conforms item Spans Exceeds where
  lawful := lawful_item
  matching := lawful_spans
  refuses {text} hn := by
    rw [reader, ofText?, hn]
    rfl
  accepts {text} hn hlimits := by
    have hp : ofText? text ≠ none := fun hp => hlimits ⟨hn, hp⟩
    rw [reader, Ne, Option.map_eq_none_iff]
    exact hp
  occurs {text n p} hn hp subject := by
    obtain ⟨q, hq, rfl⟩ := Option.map_eq_some_iff.1 hp
    rw [ofText?, hn] at hq
    dsimp only at hq
    split at hq
    · cases hq
      exact occursIn_iff
    · cases hq

/-- A search finds out whether the text is a pattern, and if it is one whether it occurs. -/
theorem search_eq {read : PatternReader} {known : Known} (hk : known.Sound read)
    (text subject : String) (pos : Position) :
    match read text with
    | some p => ∃ more, search read known text subject pos = .ok (p subject, more)
    | none => search read known text subject pos = .error (.invalidPattern text pos) := by
  rw [search_eq_consult, (hk.consult text).1]
  cases read text with
  | none => rfl
  | some p => exact ⟨_, rfl⟩

theorem search_fails_iff {read : PatternReader} {known : Known} (hk : known.Sound read)
    (text subject : String) (pos : Position) :
    (∃ asked, search read known text subject pos = .error (.invalidPattern asked pos)) ↔
      read text = none := by
  have hsearch := search_eq hk text subject pos
  cases hp : read text with
  | none =>
    rw [hp] at hsearch
    exact iff_of_true ⟨text, hsearch⟩ rfl
  | some p =>
    rw [hp] at hsearch
    obtain ⟨more, hmore⟩ := hsearch
    rw [hmore]
    exact iff_of_false nofun (Option.some_ne_none p)

end Pattern

namespace Comparator

open Pattern (ItemReader MatchRelation nested? wholeText StandsAlone)

/-- A text that is no pattern is refused by both comparators, and one that is a pattern by none.
The one for whole texts holds exactly if the pattern matches the left text from end to end. -/
theorem full_spans {read : PatternReader} {item : ItemReader} {spans : MatchRelation}
    {Exceeds : String → Prop} (hread : read.Conforms item spans Exceeds)
    {known : Pattern.Known} (hk : known.Sound read)
    (l r : Value) (pos : Position) (halone : StandsAlone item r.text)
    (hlimits : ¬ Exceeds r.text) (hwhole : ¬ Exceeds (wholeText r.text)) :
    ((∃ text, full.apply read l r pos known = .error (.invalidPattern text pos)) ↔
      read r.text = none) ∧
    ((∃ text, find.apply read l r pos known = .error (.invalidPattern text pos)) ↔
      read r.text = none) ∧
    (read r.text ≠ none → ∃ n whole found more less, nested? item r.text = some n ∧
      full.apply read l r pos known = .ok (whole, more) ∧
      find.apply read l r pos known = .ok (found, less) ∧
      (whole = true ↔ spans l.text.toList n.pattern 0 l.text.toList.length) ∧
      (whole = true → found = true)) := by
  have hnone := hread.wholeText_eq_none_iff halone hlimits hwhole
  refine ⟨?_, ?_, fun hsome => ?_⟩
  · exact (Pattern.search_fails_iff hk (wholeText r.text) l.text pos).trans hnone
  · exact Pattern.search_fails_iff hk r.text l.text pos
  · obtain ⟨p, hp⟩ := Option.ne_none_iff_exists'.1 hsome
    obtain ⟨q, hq⟩ := Option.ne_none_iff_exists'.1 fun hq => hsome (hnone.1 hq)
    obtain ⟨n, hn⟩ := hread.exists_nested hp
    have hfull := Pattern.search_eq hk (wholeText r.text) l.text pos
    have hfind := Pattern.search_eq hk r.text l.text pos
    rw [hq] at hfull
    rw [hp] at hfind
    obtain ⟨more, hmore⟩ := hfull
    obtain ⟨less, hless⟩ := hfind
    have hspans := hread.wholeText_occurs halone hn hq l.text
    refine ⟨n, _, _, more, less, hn, hmore, hless, hspans, fun h => ?_⟩
    exact (hread.occurs hn hp l.text).2 ⟨_, _, hspans.1 h⟩

theorem full_spans_alternative :
    Pattern.reader.Conforms Pattern.item Pattern.Spans Pattern.Exceeds ∧
      Pattern.Known.Sound Pattern.reader [] ∧ StandsAlone Pattern.item "a|ab" ∧
      ¬ Pattern.Exceeds "a|ab" ∧ ¬ Pattern.Exceeds (wholeText "a|ab") ∧
      ∃ n more, nested? Pattern.item "a|ab" = some n ∧
        full.apply Pattern.reader (.string "ab") (.string "a|ab") ⟨1, 1⟩ [] = .ok (true, more) ∧
        Pattern.Spans ['a', 'b'] n.pattern 0 2 := by
  have hread := Pattern.conforms_reader
  have hsound : Pattern.Known.Sound Pattern.reader [] := Pattern.Known.sound_nil
  have halone : StandsAlone Pattern.item "a|ab" :=
    Pattern.standsAlone_of_nested? hread.lawful (Option.some_ne_none _) rfl
  have hlimits : ¬ Pattern.Exceeds "a|ab" := fun h => Option.some_ne_none _ h.2
  have hwhole : ¬ Pattern.Exceeds (wholeText "a|ab") := fun h => Option.some_ne_none _ h.2
  obtain ⟨-, -, hspans⟩ := full_spans hread hsound (.string "ab") (.string "a|ab") ⟨1, 1⟩
    halone hlimits hwhole
  obtain ⟨n, whole, found, more, less, hn, hfull, -, hiff, -⟩ := hspans (Option.some_ne_none _)
  have htrue : whole = true := by
    cases hfull
    rfl
  rw [htrue] at hfull
  exact ⟨hread, hsound, halone, hlimits, hwhole, n, more, hn, hfull, hiff.1 htrue⟩

/-- A pattern that makes what stands behind it a part of itself is refused for whole texts. -/
theorem full_refuses_hidden {read : PatternReader} {item : ItemReader} {spans : MatchRelation}
    {Exceeds : String → Prop} (hread : read.Conforms item spans Exceeds)
    {known : Pattern.Known} (hk : known.Sound read)
    (l r : Value) (pos : Position) (h : nested? item r.text ≠ none)
    (hend : nested? item (r.text ++ ")$") ≠ none) :
    full.apply read l r pos known = .error (.invalidPattern (wholeText r.text) pos) := by
  have hfull := Pattern.search_eq hk (wholeText r.text) l.text pos
  rw [hread.refuses (Pattern.nested?_wholeText_of_hidden hread.lawful h hend)] at hfull
  exact hfull

/-- A comment in extended text is such a part. -/
theorem full_refuses_comment :
    Pattern.reader.Conforms Pattern.item Pattern.Spans Pattern.Exceeds ∧
      ¬ Pattern.Exceeds "(?x)a#" ∧
      (∃ n, nested? Pattern.item "(?x)a#" = some n ∧ Pattern.Spans ['a'] n.pattern 0 1) ∧
      (∃ more, find.apply Pattern.reader (.string "a") (.string "(?x)a#") ⟨1, 1⟩ [] =
        .ok (true, more)) ∧
      full.apply Pattern.reader (.string "a") (.string "(?x)a#") ⟨1, 1⟩ [] =
        .error (.invalidPattern "^(?:(?x)a#)$" ⟨1, 1⟩) := by
  refine ⟨Pattern.conforms_reader, fun h => Option.some_ne_none _ h.2, ⟨_, rfl, ?_⟩, ⟨_, rfl⟩, rfl⟩
  exact .char rfl rfl

/-- A bracket of the pattern closes the group, so a text that is no pattern is taken for one. -/
example : Pattern.reader "a)|(b" = none ∧ ∃ more,
    full.apply Pattern.reader (.string "ax") (.string "a)|(b") ⟨1, 1⟩ [] = .ok (true, more) :=
  ⟨rfl, _, rfl⟩

end Comparator

end LineTemplate
