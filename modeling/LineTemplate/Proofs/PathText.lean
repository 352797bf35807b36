import LineTemplate.Proofs.Rereading

/-!
# The text of a path

The text of a path writes its keys behind points and its indexes in brackets, and nothing in it
tells where a key ends. So it is read back as the same path when the root and all keys are names,
and in no other case: what a key that is no name writes is read as an index, as more than one
step, or not at all.
-/

namespace LineTemplate

/-! ### White space and names -/

namespace Text

theorem dropEndWhile_append {p : Char → Bool} {a b : List Char} (h : ∀ c ∈ a, p c = false) :
    dropEndWhile p (a ++ b) = a ++ dropEndWhile p b := by
  have hkeep : a.reverse.dropWhile p = a.reverse := by
    cases ha : a.reverse with
    | nil => rfl
    | cons c rest =>
      have hc : c ∈ a := List.mem_reverse.1 (by rw [ha]; exact List.mem_cons_self)
      rw [List.dropWhile_cons_of_neg (by rw [h c hc]; decide)]
  rw [dropEndWhile, dropEndWhile, List.reverse_append, List.dropWhile_append]
  split
  · next hb =>
    rw [hkeep, List.isEmpty_iff.1 hb, List.reverse_reverse, List.reverse_nil, List.append_nil]
  · rw [List.reverse_append, List.reverse_reverse]

theorem dropEndWhile_cons {p : Char → Bool} {c : Char} (h : p c = false) (cs : List Char) :
    dropEndWhile p (c :: cs) = c :: dropEndWhile p cs :=
  dropEndWhile_append (List.forall_mem_singleton.2 h)

theorem exists_trimChars (cs : List Char) : ∃ front back, cs = front ++ (trimChars cs ++ back) ∧
    (∀ c ∈ front, isSpace c = true) ∧ ∀ c ∈ back, isSpace c = true := by
  obtain ⟨front, rest, rfl, hfront, hrest⟩ := Token.exists_run isSpace cs
  obtain ⟨back, core, hcut, hback, hcore⟩ := Token.exists_run isSpace rest.reverse
  have htrim : trimChars (front ++ rest) = core.reverse := by
    rw [trimChars, Token.dropWhile_append_of_all hfront hrest, dropEndWhile, hcut,
      Token.dropWhile_append_of_all hback hcore]
  have hsplit : rest = core.reverse ++ back.reverse := by
    rw [← List.reverse_append, ← hcut, List.reverse_reverse]
  refine ⟨front, back.reverse, ?_, hfront, fun c hc => hback c (List.mem_reverse.1 hc)⟩
  rw [htrim, ← hsplit]

/-- The last characters but white space are the same. -/
theorem eq_of_append_space {c d : Char} {a b v w : List Char} (h : a ++ c :: v = b ++ d :: w)
    (hc : isSpace c = false) (hd : isSpace d = false) (hv : ∀ e ∈ v, isSpace e = true)
    (hw : ∀ e ∈ w, isSpace e = true) : c = d := by
  have hdrop : ∀ (a v : List Char) (c : Char), isSpace c = false → (∀ e ∈ v, isSpace e = true) →
      (dropEndWhile isSpace (a ++ c :: v)).getLast? = some c := by
    intro a v c hc hv
    have hback : ∀ e ∈ v.reverse, isSpace e = true := fun e he => hv e (List.mem_reverse.1 he)
    have hstop : ∀ e ∈ (c :: a.reverse).head?, isSpace e = false := by
      rintro e ⟨⟩
      exact hc
    have hflip : (a ++ c :: v).reverse = v.reverse ++ c :: a.reverse := by simp
    rw [dropEndWhile, hflip, Token.dropWhile_append_of_all hback hstop, List.reverse_cons,
      List.getLast?_concat]
  have hlast := hdrop a v c hc hv
  rw [h, hdrop b w d hd hw] at hlast
  exact (Option.some.inj hlast).symm

theorem mem_of_mem_trimChars {c : Char} {cs : List Char} (h : c ∈ trimChars cs) : c ∈ cs := by
  rw [trimChars, dropEndWhile, List.mem_reverse] at h
  have hdrop := (List.dropWhile_suffix _).subset h
  exact (List.dropWhile_suffix _).subset (List.mem_reverse.1 hdrop)

end Text

namespace Token

theorem isNamePart_of_isNameStart {c : Char} (h : isNameStart c = true) : isNamePart c = true := by
  simp only [isNameStart, Bool.or_eq_true] at h
  simp only [isNamePart, Char.isAlphanum, Bool.or_eq_true]
  tauto

theorem isNamePart_of_isDigit {c : Char} (h : c.isDigit = true) : isNamePart c = true := by
  simp [isNamePart, Char.isAlphanum, h]

theorem isNamePart_of_isName {cs : List Char} (h : isName cs = true) :
    ∀ c ∈ cs, isNamePart c = true := by
  cases cs with
  | nil => simp
  | cons c rest =>
    rw [isName, Bool.and_eq_true, List.all_eq_true] at h
    exact List.forall_mem_cons.2 ⟨isNamePart_of_isNameStart h.1, h.2⟩

theorem isSpace_of_isNamePart {c : Char} (h : isNamePart c = true) : Text.isSpace c = false := by
  simp only [isNamePart, Char.isAlphanum, Char.isAlpha, Char.isUpper, Char.isLower, Char.isDigit,
    Bool.or_eq_true, Bool.and_eq_true, decide_eq_true_eq, beq_iff_eq] at h
  rcases h with ((((h | h) | h) | rfl) | rfl)
  · have hlow : 65 ≤ c.toNat := h.1
    have hhigh : c.toNat ≤ 90 := h.2
    simp only [Text.isSpace, Bool.or_eq_false_iff, Bool.and_eq_false_iff,
      decide_eq_false_iff_not, beq_eq_false_iff_ne]
    omega
  · have hlow : 97 ≤ c.toNat := h.1
    have hhigh : c.toNat ≤ 122 := h.2
    simp only [Text.isSpace, Bool.or_eq_false_iff, Bool.and_eq_false_iff,
      decide_eq_false_iff_not, beq_eq_false_iff_ne]
    omega
  · exact Reader.isSpace_of_isDigit (by simpa [Char.isDigit] using h)
  · decide
  · decide

/-- A character that is no part of a name differs from all characters of a name. -/
theorem ne_of_isNamePart {c d : Char} (h : isNamePart c = true) (hd : isNamePart d = false) :
    c ≠ d := by
  rintro rfl
  rw [hd] at h
  cases h

end Token

/-! ### The characters of a text -/

namespace Segment

/-- The characters that write the segment. -/
def shown (s : Segment) : List Char := s.text.toList

theorem shown_key (name : String) : shown (.key name) = '.' :: name.toList := by
  rw [shown, text, String.toList_append]
  rfl

theorem shown_index (i : Nat) : shown (.index i) = '[' :: (Numeral.digits i ++ [']']) := by
  have hdigits : (indexName i).toList = Numeral.digits i := String.toList_ofList
  rw [shown, text, String.toList_append, String.toList_append, hdigits, List.append_assoc]
  rfl

/-- If it is a key, it is a name. -/
def IsNamed : Segment → Prop
  | .key name => Token.isName name.toList = true
  | .index _ => True

theorem index?_lt {cs : List Char} {i : Nat} (h : index? cs = some i) : i < indexLimit := by
  unfold index? at h
  extract_lets ds at h
  split at h
  · next hds =>
    cases h
    rw [Bool.and_eq_true] at hds
    exact of_decide_eq_true hds.2
  · cases h

/-- What is read as an index is digits, maybe behind a plus sign. -/
theorem index?_eq_some {cs : List Char} {i : Nat} (h : index? cs = some i) :
    (∃ d ds, cs = d :: ds ∧ ∀ c ∈ d :: ds, c.isDigit = true) ∨
      ∃ ds, cs = '+' :: ds ∧ ∀ c ∈ ds, c.isDigit = true := by
  unfold index? at h
  extract_lets ds at h
  split at h
  · next hds =>
    simp only [Bool.and_eq_true, Numeral.isDigits, Bool.not_eq_true', List.isEmpty_eq_false_iff,
      List.all_eq_true] at hds
    obtain ⟨⟨hne, hdigits⟩, -⟩ := hds
    cases cs with
    | nil => exact absurd rfl hne
    | cons c rest =>
      by_cases hc : c = '+'
      · subst hc
        exact .inr ⟨rest, rfl, hdigits⟩
      · have hds : ds = c :: rest := by
          unfold ds
          split
          · next heq => exact absurd (List.cons.inj heq).1 hc
          · rfl
        rw [hds] at hdigits
        exact .inl ⟨c, rest, rfl, hdigits⟩
  · cases h

theorem isNamePart_of_index? {cs : List Char} {i : Nat} (h : index? cs = some i) :
    ∀ c ∈ cs, Token.isNamePart c = true ∨ c = '+' := by
  rcases index?_eq_some h with ⟨d, ds, rfl, hds⟩ | ⟨ds, rfl, hds⟩
  · exact fun c hc => .inl (Token.isNamePart_of_isDigit (hds c hc))
  · refine List.forall_mem_cons.2 ⟨.inr rfl, fun c hc => .inl ?_⟩
    exact Token.isNamePart_of_isDigit (hds c hc)

theorem index?_digits {i : Nat} (h : i < indexLimit) : index? (Numeral.digits i) = some i := by
  have hname := index?_indexName h
  rw [indexName, String.toList_ofList] at hname
  exact hname

/-- What is read as an index begins with a digit or a plus sign. -/
theorem head_of_index? {c : Char} {cs : List Char} {i : Nat} (h : index? (c :: cs) = some i) :
    c.isDigit = true ∨ c = '+' := by
  unfold index? at h
  split at h
  · next heq => exact .inr (List.cons.inj heq).1
  · extract_lets ds at h
    split at h
    · next hall =>
      simp only [Bool.and_eq_true, Numeral.isDigits] at hall
      exact .inl (List.all_eq_true.1 hall.1.2 c List.mem_cons_self)
    · cases h

end Segment

namespace Path

/-- The characters that write the segments, one after the other. -/
def shownAll (segs : List Segment) : List Char := segs.flatMap Segment.shown

theorem shownAll_cons (s : Segment) (more : List Segment) :
    shownAll (s :: more) = s.shown ++ shownAll more := List.flatMap_cons

theorem toList_text (p : Path) : p.text.toList = p.root.toList ++ shownAll p.rest := by
  have hfold : ∀ (segs : List Segment) (shown : String),
      (segs.foldl (fun shown s => shown ++ s.text) shown).toList =
        shown.toList ++ shownAll segs := by
    intro segs
    induction segs with
    | nil =>
      intro shown
      exact (List.append_nil _).symm
    | cons s more ih =>
      intro shown
      rw [List.foldl_cons, ih, String.toList_append, shownAll_cons, List.append_assoc,
        Segment.shown]
  exact hfold p.rest p.root

/-! ### Steps that are read -/

theorem isBreak_of_isNamePart {c : Char} (h : Token.isNamePart c = true) : isBreak c = false := by
  have hpoint := Token.ne_of_isNamePart h (d := '.') (by decide)
  have hbracket := Token.ne_of_isNamePart h (d := '[') (by decide)
  simp [isBreak, hpoint, hbracket]

theorem shownAll_head (segs : List Segment) :
    ∀ c ∈ (shownAll segs).head?, (!isBreak c) = false := by
  cases segs with
  | nil => simp [shownAll]
  | cons s more =>
    rw [shownAll_cons]
    cases s with
    | key name =>
      rw [Segment.shown_key]
      rintro c ⟨⟩
      decide
    | index i =>
      rw [Segment.shown_index]
      rintro c ⟨⟩
      decide

theorem dotted?_of_isName {cs : List Char} (h : Token.isName cs = true) :
    dotted? cs = some (.key (String.ofList cs)) := by
  cases hi : Segment.index? cs with
  | none => rw [dotted?, hi, if_pos h]
  | some i =>
    cases cs with
    | nil => cases h
    | cons c rest =>
      rw [Token.isName, Bool.and_eq_true] at h
      rcases Segment.head_of_index? hi with hd | rfl
      · rw [Token.isNameStart_of_isDigit hd] at h
        cases h.1
      · exact absurd h.1 (by decide)

theorem dotted?_eq_some {cs : List Char} {s : Segment} (h : dotted? cs = some s) :
    (∃ i, Segment.index? cs = some i ∧ s = .index i) ∨
      Token.isName cs = true ∧ s = .key (String.ofList cs) := by
  unfold dotted? at h
  split at h
  · next i hi => exact .inl ⟨i, hi, (Option.some.inj h).symm⟩
  · split at h
    · next hn => exact .inr ⟨hn, (Option.some.inj h).symm⟩
    · cases h

theorem bracketed?_eq_some {cs : List Char} {s : Segment} (h : bracketed? cs = some s) :
    (∃ name, unquote? cs = some name ∧ s = .key (String.ofList name)) ∨
      ∃ i, Segment.index? (Text.trimChars cs) = some i ∧ s = .index i := by
  unfold bracketed? at h
  split at h
  · next name hn => exact .inl ⟨name, hn, (Option.some.inj h).symm⟩
  · obtain ⟨i, hi, hs⟩ := Option.map_eq_some_iff.1 h
    exact .inr ⟨i, hi, hs.symm⟩

/-- What is unquoted has quotes around it. -/
theorem unquote?_eq_some {cs name : List Char} (h : unquote? cs = some name) :
    ∃ q, Token.IsQuote q ∧ Text.trimChars cs = q :: (name ++ [q]) := by
  unfold unquote? at h
  split at h
  · next q rest htrim =>
    split at h
    · next hq =>
      obtain ⟨front, hfront⟩ := List.getLast?_eq_some_iff.1 hq.2
      cases h
      refine ⟨q, hq.1, ?_⟩
      rw [htrim, hfront, List.dropLast_concat]
    · cases h
  · cases h

theorem isNamePart_of_dotted? {cs : List Char} {s : Segment} (h : dotted? cs = some s) :
    ∀ c ∈ cs, Token.isNamePart c = true ∨ c = '+' := by
  rcases dotted?_eq_some h with ⟨i, hi, -⟩ | ⟨hname, -⟩
  · exact Segment.isNamePart_of_index? hi
  · exact fun c hc => .inl (Token.isNamePart_of_isName hname c hc)

/-- What stands in a bracket is a key in quotes or an index, with white space around it. -/
theorem bracketed?_cases {cs : List Char} {s : Segment} (h : bracketed? cs = some s) :
    ∃ front core back, cs = front ++ (core ++ back) ∧
      (∀ c ∈ front, Text.isSpace c = true) ∧ (∀ c ∈ back, Text.isSpace c = true) ∧
      ((∃ q name, Token.IsQuote q ∧ core = q :: (name ++ [q]) ∧ s = .key (String.ofList name)) ∨
        ∃ i, Segment.index? core = some i ∧ s = .index i) := by
  obtain ⟨front, back, hcs, hfront, hback⟩ := Text.exists_trimChars cs
  refine ⟨front, Text.trimChars cs, back, hcs, hfront, hback, ?_⟩
  rcases bracketed?_eq_some h with ⟨name, hname, rfl⟩ | hi
  · obtain ⟨q, hq, htrim⟩ := unquote?_eq_some hname
    exact .inl ⟨q, name, hq, htrim, rfl⟩
  · exact .inr hi

theorem bracketed?_digits {i : Nat} (h : i < Segment.indexLimit) :
    bracketed? (Numeral.digits i) = some (.index i) := by
  have hspace : ∀ c ∈ Numeral.digits i, Text.isSpace c = false :=
    fun c hc => Reader.isSpace_of_isDigit (Numeral.isDigit_of_mem_digits hc)
  have htrim := Text.trimChars_of_forall hspace
  have hplain : unquote? (Numeral.digits i) = none := by
    cases hu : unquote? (Numeral.digits i) with
    | none => rfl
    | some name =>
      obtain ⟨q, hq, hd⟩ := unquote?_eq_some hu
      have hmem : q ∈ Numeral.digits i := by
        rw [← htrim, hd]
        exact List.mem_cons_self
      have hdigit := Numeral.isDigit_of_mem_digits hmem
      rcases hq with rfl | rfl <;> exact absurd hdigit (by decide)
  rw [bracketed?, hplain, htrim, Segment.index?_digits h]
  rfl

/-- A step behind a point goes up to the next point or bracket. -/
theorem segments?_point {name rest : List Char} (hn : ∀ c ∈ name, (!isBreak c) = true)
    (hr : ∀ c ∈ rest.head?, (!isBreak c) = false) :
    segments? ('.' :: (name ++ rest)) =
      (dotted? name).bind fun s => (segments? rest).map (s :: ·) := by
  rw [segments?, if_pos rfl, Token.takeWhile_append_of_all hn hr,
    Token.dropWhile_append_of_all hn hr]
  cases dotted? name with
  | none => rfl
  | some s => cases segments? rest <;> rfl

/-- A step between brackets goes up to the first bracket that closes. -/
theorem segments?_bracket {inside after : List Char} (hi : ']' ∉ inside) :
    segments? ('[' :: (inside ++ ']' :: after)) =
      (bracketed? inside).bind fun s => (segments? after).map (s :: ·) := by
  have hall : ∀ c ∈ inside, (c != ']') = true := by
    intro c hc
    exact bne_iff_ne.2 fun he => hi (he ▸ hc)
  have hstop : ∀ c ∈ (']' :: after).head?, (c != ']') = false := by
    rintro c ⟨⟩
    decide
  have hdrop := Token.dropWhile_append_of_all hall hstop
  rw [segments?, if_neg (by decide), if_pos rfl]
  split
  · next hnil =>
    rw [hdrop] at hnil
    cases hnil
  · next c more hcons =>
    rw [hdrop] at hcons
    cases hcons
    rw [Token.takeWhile_append_of_all hall hstop]
    cases bracketed? inside with
    | none => rfl
    | some s => cases segments? after <;> rfl

/-- The characters are steps, one after the other, and the segments are what each of them says. -/
inductive Steps : List Char → List Segment → Prop
  | nil : Steps [] []
  | point {name rest : List Char} {s : Segment} {more : List Segment} :
      (∀ c ∈ name, (!isBreak c) = true) → (∀ c ∈ rest.head?, (!isBreak c) = false) →
      dotted? name = some s → Steps rest more → Steps ('.' :: (name ++ rest)) (s :: more)
  | bracket {inside after : List Char} {s : Segment} {more : List Segment} :
      ']' ∉ inside → bracketed? inside = some s → Steps after more →
      Steps ('[' :: (inside ++ ']' :: after)) (s :: more)

theorem steps_of_segments? {cs : List Char} {segs : List Segment} (h : segments? cs = some segs) :
    Steps cs segs := by
  induction cs using segments?.induct generalizing segs with
  | case1 =>
    rw [segments?] at h
    cases h
    exact .nil
  | case2 cs ih =>
    obtain ⟨name, rest, rfl, hname, hrest⟩ := Token.exists_run (!isBreak ·) cs
    rw [Token.dropWhile_append_of_all hname hrest] at ih
    rw [segments?_point hname hrest] at h
    obtain ⟨s, hs, h⟩ := Option.bind_eq_some_iff.1 h
    obtain ⟨more, hmore, rfl⟩ := Option.map_eq_some_iff.1 h
    exact .point hname hrest hs (ih hmore)
  | case3 cs hdrop =>
    rw [segments?, if_neg (by decide), if_pos rfl] at h
    split at h
    · cases h
    · next hcons =>
      rw [hdrop] at hcons
      cases hcons
  | case4 cs c after hdrop _ ih =>
    obtain ⟨inside, rest, rfl, hinside, hrest⟩ := Token.exists_run (· != ']') cs
    rw [Token.dropWhile_append_of_all hinside hrest] at hdrop
    have hc : c = ']' := by simpa [hdrop] using hrest
    have hnot : ']' ∉ inside := fun hm => by simpa using hinside _ hm
    rw [hdrop, hc, segments?_bracket hnot] at h
    obtain ⟨s, hs, h⟩ := Option.bind_eq_some_iff.1 h
    obtain ⟨more, hmore, rfl⟩ := Option.map_eq_some_iff.1 h
    rw [hdrop, hc]
    exact .bracket hnot hs (ih hmore)
  | case5 c cs hpoint hbracket =>
    rw [segments?, if_neg hpoint, if_neg hbracket] at h
    cases h

/-! ### Reading a text back -/

/-- The root and all keys are names. -/
def IsNamed (p : Path) : Prop :=
  Token.isName p.root.toList = true ∧ ∀ s ∈ p.rest, s.IsNamed

/-- What is written is read, where all keys are names. -/
theorem segments?_shownAll {segs : List Segment} (h : ∀ s ∈ segs, s.IsNamed ∧ s.IsWritable) :
    segments? (shownAll segs) = some segs := by
  induction segs with
  | nil => rw [shownAll, List.flatMap_nil, segments?]
  | cons s more ih =>
    obtain ⟨⟨hs, hi⟩, hmore⟩ := List.forall_mem_cons.1 h
    rw [shownAll_cons]
    cases s with
    | key name =>
      have hname : ∀ c ∈ name.toList, (!isBreak c) = true := fun c hc => by
        rw [isBreak_of_isNamePart (Token.isNamePart_of_isName hs c hc)]
        rfl
      rw [Segment.shown_key, List.cons_append, segments?_point hname (shownAll_head more),
        dotted?_of_isName hs, ih hmore, String.ofList_toList]
      rfl
    | index i =>
      have hinside : ']' ∉ Numeral.digits i := fun hc =>
        absurd (Numeral.isDigit_of_mem_digits hc) (by decide)
      rw [Segment.shown_index, List.cons_append, List.append_assoc, List.singleton_append,
        segments?_bracket hinside, bracketed?_digits hi, ih hmore]
      rfl

/-- What is read as itself has no keys but names, also where white space is taken off its end. -/
theorem isName_of_segments? {segs : List Segment}
    (h : segments? (Text.dropEndWhile Text.isSpace (shownAll segs)) = some segs) :
    ∀ s ∈ segs, s.IsNamed := by
  induction segs with
  | nil => simp
  | cons s more ih =>
    rw [shownAll_cons] at h
    cases s with
    | key name =>
      -- the step ends where the next point or bracket stands, be it one of the key itself
      rw [Segment.shown_key, List.cons_append, Text.dropEndWhile_cons (by decide)] at h
      obtain ⟨front, rest, hcut, hfront, hrest⟩ := Token.exists_run (!isBreak ·)
        (Text.dropEndWhile Text.isSpace (name.toList ++ shownAll more))
      rw [hcut, segments?_point hfront hrest, Option.bind_eq_some_iff] at h
      obtain ⟨s, hs, h⟩ := h
      obtain ⟨segs, hsegs, he⟩ := Option.map_eq_some_iff.1 h
      cases he
      rcases dotted?_eq_some hs with ⟨i, -, he⟩ | ⟨hname, he⟩
      · cases he
      · cases he
        rw [String.toList_ofList] at hcut
        have hspace : ∀ c ∈ front, Text.isSpace c = false := fun c hc =>
          Token.isSpace_of_isNamePart (Token.isNamePart_of_isName hname c hc)
        rw [Text.dropEndWhile_append hspace, List.append_cancel_left_eq] at hcut
        refine List.forall_mem_cons.2 ⟨?_, ih (hcut ▸ hsegs)⟩
        rw [Segment.IsNamed, String.toList_ofList]
        exact hname
    | index i =>
      have hinside : ']' ∉ Numeral.digits i := fun hc =>
        absurd (Numeral.isDigit_of_mem_digits hc) (by decide)
      have hspace : ∀ c ∈ '[' :: (Numeral.digits i ++ [']']), Text.isSpace c = false := by
        refine List.forall_mem_cons.2 ⟨by decide, List.forall_mem_append.2 ⟨fun c hc => ?_, ?_⟩⟩
        · exact Reader.isSpace_of_isDigit (Numeral.isDigit_of_mem_digits hc)
        · exact List.forall_mem_singleton.2 (by decide)
      rw [Segment.shown_index, Text.dropEndWhile_append hspace, List.cons_append,
        List.append_assoc, List.singleton_append, segments?_bracket hinside,
        Option.bind_eq_some_iff] at h
      obtain ⟨s, -, h⟩ := h
      obtain ⟨segs, hsegs, he⟩ := Option.map_eq_some_iff.1 h
      cases he
      exact List.forall_mem_cons.2 ⟨trivial, ih hsegs⟩

theorem dropWhile_of_isName {root : List Char} (h : Token.isName root = true) (rest : List Char) :
    (root ++ rest).dropWhile Text.isSpace = root ++ rest := by
  cases root with
  | nil => cases h
  | cons c more =>
    have hc := Token.isSpace_of_isNamePart (Token.isNamePart_of_isName h c List.mem_cons_self)
    rw [List.cons_append, List.dropWhile_cons_of_neg (by rw [hc]; decide)]

/-- White space is taken off the end of what stands behind the root, and the rest is steps. -/
theorem ofChars?_append {root rest : List Char} (h : Token.isName root = true)
    (hr : ∀ c ∈ (Text.dropEndWhile Text.isSpace rest).head?, (!isBreak c) = false) :
    ofChars? (root ++ rest) =
      (segments? (Text.dropEndWhile Text.isSpace rest)).map fun segs =>
        ⟨String.ofList root, segs⟩ := by
  have hname := Token.isNamePart_of_isName h
  have hspace : ∀ c ∈ root, Text.isSpace c = false := fun c hc =>
    Token.isSpace_of_isNamePart (hname c hc)
  have hbreak : ∀ c ∈ root, (!isBreak c) = true := fun c hc => by
    rw [isBreak_of_isNamePart (hname c hc)]
    rfl
  have htrim : Text.trimChars (root ++ rest) = root ++ Text.dropEndWhile Text.isSpace rest := by
    rw [Text.trimChars, dropWhile_of_isName h, Text.dropEndWhile_append hspace]
  simp only [ofChars?, htrim, Token.takeWhile_append_of_all hbreak hr,
    Token.dropWhile_append_of_all hbreak hr, h, if_true]

/-- The root that is read is a name, and what stands behind it is read as steps. -/
theorem ofChars?_eq_some {cs : List Char} {p : Path} (h : ofChars? cs = some p) :
    ∃ rest, Text.trimChars cs = p.root.toList ++ rest ∧ Token.isName p.root.toList = true ∧
      segments? rest = some p.rest ∧ ∀ c ∈ rest.head?, (!isBreak c) = false := by
  rw [ofChars?] at h
  obtain ⟨root, rest, hcut, hroot, hrest⟩ :=
    Token.exists_run (!isBreak ·) (Text.trimChars cs)
  simp only [hcut, Token.takeWhile_append_of_all hroot hrest,
    Token.dropWhile_append_of_all hroot hrest] at h
  split at h
  · next hname =>
    obtain ⟨segs, hsegs, rfl⟩ := Option.map_eq_some_iff.1 h
    refine ⟨rest, ?_, ?_, hsegs, hrest⟩
    · rw [hcut, String.toList_ofList]
    · rw [String.toList_ofList]
      exact hname
  · cases h

/-- Without quotes there are no keys but names. -/
theorem Steps.isNamed {cs : List Char} {segs : List Segment} (h : Steps cs segs)
    (hq : ∀ c ∈ cs, ¬ Token.IsQuote c) : ∀ s ∈ segs, s.IsNamed ∧ s.IsWritable := by
  induction h with
  | nil => simp
  | @point name rest s more _ _ hs _ ih =>
    obtain ⟨-, hq⟩ := List.forall_mem_cons.1 hq
    refine List.forall_mem_cons.2 ⟨?_, ih (List.forall_mem_append.1 hq).2⟩
    rcases dotted?_eq_some hs with ⟨i, hi, rfl⟩ | ⟨hname, rfl⟩
    · exact ⟨trivial, Segment.index?_lt hi⟩
    · refine ⟨?_, trivial⟩
      rw [Segment.IsNamed, String.toList_ofList]
      exact hname
  | @bracket inside after s more _ hs _ ih =>
    obtain ⟨-, hq⟩ := List.forall_mem_cons.1 hq
    obtain ⟨hinside, hq⟩ := List.forall_mem_append.1 hq
    refine List.forall_mem_cons.2 ⟨?_, ih (List.forall_mem_cons.1 hq).2⟩
    rcases bracketed?_eq_some hs with ⟨name, hname, -⟩ | ⟨i, hi, rfl⟩
    · obtain ⟨q, hquote, htrim⟩ := unquote?_eq_some hname
      have hmem : q ∈ Text.trimChars inside := by
        rw [htrim]
        exact List.mem_cons_self
      exact absurd hquote (hinside q (Text.mem_of_mem_trimChars hmem))
    · exact ⟨trivial, Segment.index?_lt hi⟩

theorem isSpace_of_mem_shownAll {segs : List Segment} (h : ∀ s ∈ segs, s.IsNamed) :
    ∀ c ∈ shownAll segs, Text.isSpace c = false := by
  intro c hc
  obtain ⟨s, hs, hc⟩ := List.mem_flatMap.1 hc
  have hnamed := h s hs
  cases s with
  | key name =>
    rw [Segment.shown_key] at hc
    rcases List.mem_cons.1 hc with rfl | hc
    · decide
    · exact Token.isSpace_of_isNamePart (Token.isNamePart_of_isName hnamed c hc)
  | index i =>
    rw [Segment.shown_index] at hc
    rcases List.mem_cons.1 hc with rfl | hc
    · decide
    · rcases List.mem_append.1 hc with hc | hc
      · exact Reader.isSpace_of_isDigit (Numeral.isDigit_of_mem_digits hc)
      · rw [List.mem_singleton.1 hc]
        decide

theorem ofChars?_text {p : Path} (hn : p.IsNamed) (hi : ∀ s ∈ p.rest, s.IsWritable) :
    ofChars? p.text.toList = some p := by
  have hspace := isSpace_of_mem_shownAll hn.2
  have hkeep : Text.dropEndWhile Text.isSpace (shownAll p.rest) = shownAll p.rest := by
    have happend := Text.dropEndWhile_append (b := []) hspace
    rw [List.append_nil] at happend
    exact happend.trans (List.append_nil _)
  have hhead := shownAll_head p.rest
  rw [← hkeep] at hhead
  rw [toList_text, ofChars?_append hn.1 hhead, hkeep,
    segments?_shownAll fun s hs => ⟨hn.2 s hs, hi s hs⟩, String.ofList_toList]
  rfl

theorem isNamed_of_ofChars?_text {p : Path} (h : ofChars? p.text.toList = some p) :
    p.IsNamed := by
  obtain ⟨rest, htrim, hroot, hsegs, -⟩ := ofChars?_eq_some h
  refine ⟨hroot, isName_of_segments? ?_⟩
  have hspace : ∀ c ∈ p.root.toList, Text.isSpace c = false := fun c hc =>
    Token.isSpace_of_isNamePart (Token.isNamePart_of_isName hroot c hc)
  rw [toList_text, Text.trimChars, dropWhile_of_isName hroot, Text.dropEndWhile_append hspace,
    List.append_cancel_left_eq] at htrim
  rw [htrim]
  exact hsegs

/-- A path whose indexes can be read is read back from its text exactly when its root and all its
keys are names. So is every path that has been read from characters with no quotes among them: its
text is the one form that all the ways to write it come to. -/
theorem ofChars?_text_eq_some :
    (∀ p : Path, (∀ s ∈ p.rest, s.IsWritable) →
      (ofChars? p.text.toList = some p ↔ p.IsNamed)) ∧
    ∀ (cs : List Char) (p : Path), (∀ c ∈ cs, ¬ Token.IsQuote c) → ofChars? cs = some p →
      ofChars? p.text.toList = some p := by
  refine ⟨fun p hi => ⟨isNamed_of_ofChars?_text, fun hn => ofChars?_text hn hi⟩, ?_⟩
  intro cs p hq h
  obtain ⟨rest, htrim, hroot, hsegs, -⟩ := ofChars?_eq_some h
  have hsteps : ∀ s ∈ p.rest, s.IsNamed ∧ s.IsWritable := by
    refine (steps_of_segments? hsegs).isNamed fun c hc => hq c (Text.mem_of_mem_trimChars ?_)
    rw [htrim]
    exact List.mem_append_right _ hc
  exact ofChars?_text ⟨hroot, fun s hs => (hsteps s hs).1⟩ fun s hs => (hsteps s hs).2

/-- A path that is read back, one whose key is a numeral and is not, and another way to write the
first one. -/
theorem ofChars?_text_eq_some_steps :
    ofChars? (text ⟨"a", [.key "_b", .index 7]⟩).toList = some ⟨"a", [.key "_b", .index 7]⟩ ∧
    ofChars? (text ⟨"a", [.key "7"]⟩).toList ≠ some ⟨"a", [.key "7"]⟩ ∧
    ofChars? " a._b.+07 ".toList = some ⟨"a", [.key "_b", .index 7]⟩ := by
  obtain ⟨hback, hform⟩ := ofChars?_text_eq_some
  have hread : ofChars? " a._b.+07 ".toList = some ⟨"a", [.key "_b", .index 7]⟩ := by
    decide +kernel
  refine ⟨hform _ _ ?_ hread, fun h => ?_, hread⟩
  · simp [Token.IsQuote]
  · have hnamed := (hback ⟨"a", [.key "7"]⟩ (List.forall_mem_singleton.2 trivial)).1 h
    have hname : Token.isName ['7'] = true := hnamed.2 _ List.mem_cons_self
    exact absurd hname (by decide)

end Path

end LineTemplate
