import LineTemplate.Proofs.Cuts

/-!
# Two readers of paths

A path is written in directives, where a line is cut into tokens first, and in placeholders, where
the characters are read as they stand. Where both readers take all of the same text, they read the
same steps, save that the quoted keys of a directive have their escapes taken away. So they read
the same path wherever no key has an escape.
-/

namespace LineTemplate

/-! ### Steps in tokens -/

namespace Reader
open Token (StartsUnknown)

section Segments

variable {us : List Segment} {d : Token} {ts : List Token}

theorem segments_unknown (h : segments ts = .ok (us, [])) : ¬ StartsUnknown ts := by
  rintro ⟨t, more, rfl, ht⟩
  rw [segments.eq_def] at h
  simp only [ht, reduceCtorEq, if_false, Except.ok.injEq, Prod.mk.injEq, and_false] at h

theorem segments_dot (hd : d.kind = .dot) (h : segments (d :: ts) = .ok (us, [])) :
    ∃ t rest step more, ts = t :: rest ∧ dotted t = .ok step ∧
      segments rest = .ok (more, []) ∧ us = step ++ more := by
  cases ts with
  | nil =>
    simp only [segments, hd, if_true] at h
    cases h
  | cons t rest =>
    simp only [segments, hd, if_true] at h
    cases hstep : dotted t with
    | error r =>
      rw [hstep] at h
      cases h
    | ok step =>
      cases hmore : segments rest with
      | error r =>
        rw [hstep, hmore] at h
        cases h
      | ok result =>
        obtain ⟨more, left⟩ := result
        rw [hstep, hmore] at h
        cases h
        exact ⟨t, rest, step, more, rfl, hstep, hmore, rfl⟩

theorem segments_bracket (hd : d.kind = .leftBracket) (h : segments (d :: ts) = .ok (us, [])) :
    ∃ t r rest s more, ts = t :: r :: rest ∧ bracketed t = .ok s ∧ r.kind = .rightBracket ∧
      segments rest = .ok (more, []) ∧ us = s :: more := by
  cases ts with
  | nil =>
    simp only [segments, hd, reduceCtorEq, if_false, if_true] at h
    cases h
  | cons t rest =>
    simp only [segments, hd, reduceCtorEq, if_false, if_true] at h
    cases hs : bracketed t with
    | error r =>
      rw [hs] at h
      cases h
    | ok s =>
      rw [hs] at h
      cases rest with
      | nil => cases h
      | cons r rest =>
        simp only [bind, Except.bind] at h
        split at h
        · next hr =>
          cases hmore : segments rest with
          | error e =>
            rw [hmore] at h
            cases h
          | ok result =>
            obtain ⟨more, left⟩ := result
            rw [hmore] at h
            cases h
            exact ⟨t, r, rest, s, more, rfl, hs, hr, hmore, rfl⟩
        · cases h

end Segments

theorem dotted_name {name : List Char} {pos : Position} {step : List Segment}
    (h : dotted ⟨Token.nameKind name, String.ofList name, pos⟩ = .ok step) :
    step = [.key (String.ofList name)] := by
  unfold Token.nameKind at h
  split at h
  · cases h
  · cases h
    rfl

end Reader

/-! ### Keys without escapes -/

namespace Token

theorem unescape_of_notMem {cs : List Char} (h : '\\' ∉ cs) : unescape cs = cs := by
  induction cs with
  | nil => rfl
  | cons c rest ih =>
    obtain ⟨hc, hrest⟩ := not_or.1 (fun hm => h (List.mem_cons.2 hm))
    rw [unescape]
    · rw [ih hrest]
    · rintro _ _ rfl
      exact absurd rfl hc

end Token

namespace Segment

/-- The segment with the escapes in its key taken away. -/
def unescaped : Segment → Segment
  | .key name => .key (String.ofList (Token.unescape name.toList))
  | .index i => .index i

theorem unescaped_key {name : List Char} (h : '\\' ∉ name) :
    unescaped (.key (String.ofList name)) = .key (String.ofList name) := by
  rw [unescaped, String.toList_ofList, Token.unescape_of_notMem h]

end Segment

namespace Path

/-- The path with the escapes in all its keys taken away. -/
def unescaped (p : Path) : Path := ⟨p.root, p.rest.map Segment.unescaped⟩

end Path

/-! ### Where a key ends -/

namespace Path
open Token (IsQuote Closes ClosesBracket)

section Closes

variable {q : Char} {w behind : List Char}

theorem ne_quote {c : Char} (hq : IsQuote q) (hc : Token.isNamePart c = true ∨ c = '+') :
    c ≠ q ∧ c ≠ '\\' := by
  rcases hc with hc | rfl
  · refine ⟨Token.ne_of_isNamePart hc ?_, Token.ne_of_isNamePart hc (by decide)⟩
    rcases hq with rfl | rfl <;> decide
  · rcases hq with rfl | rfl <;> decide

theorem ne_quote_of_isSpace {c : Char} (hq : IsQuote q) (hc : Text.isSpace c = true) :
    c ≠ q ∧ c ≠ '\\' := by
  constructor
  · rintro rfl
    rcases hq with rfl | rfl <;> exact absurd hc (by decide)
  · rintro rfl
    exact absurd hc (by decide)

theorem isSpace_of_isQuote (hq : IsQuote q) : Text.isSpace q = false := by
  rcases hq with rfl | rfl <;> decide

theorem isSpace_of_isGap {c : Char} (h : Token.isGap c = true) : Text.isSpace c = true := by
  rcases Token.isGap_iff.1 h with rfl | rfl | rfl | rfl <;> decide

/-- A string that has been opened before does not end in a key so that the bracket is closed next:
it would end with a quote of the key, and the first one of them has the key behind it. -/
theorem not_closes_key {q' : Char} {front name back begun rest after : List Char}
    (hq : IsQuote q) (hq' : IsQuote q') (hfront : ∀ c ∈ front, Text.isSpace c = true)
    (hback : ∀ c ∈ back, Text.isSpace c = true)
    (hnot : ']' ∉ front ++ (q' :: (name ++ [q']) ++ back))
    (hinside : front ++ (q' :: (name ++ [q']) ++ back) = begun ++ q :: rest)
    (hrest : ∀ c ∈ rest, Token.isGap c = true)
    (h : Closes q (front ++ (q' :: (name ++ [q']) ++ back) ++ ']' :: after) behind) :
    ¬ ClosesBracket behind := by
  intro hb
  have hlast : front ++ (q' :: (name ++ [q']) ++ back) =
      (front ++ q' :: name) ++ q' :: back := by
    simp
  by_cases he : q' = q
  · subst he
    have hkey : front ++ (q' :: (name ++ [q']) ++ back) ++ ']' :: after =
        front ++ q' :: ((name ++ q' :: back) ++ ']' :: after) := by
      simp
    rw [hkey] at h
    have hfirst := (h.past fun c hc => ne_quote_of_isSpace hq (hfront c hc)).eq_of_cons
      hq.ne_escape
    rw [hfirst] at hb
    have hgap := hb.isGap (fun hm => hnot (by
      rw [hlast, List.append_assoc, List.cons_append]
      exact List.mem_append_right front (List.mem_cons_of_mem q' hm)))
    have hquote := isSpace_of_isGap (hgap q' (by simp))
    rw [isSpace_of_isQuote hq] at hquote
    cases hquote
  · rw [hlast] at hinside
    exact he (Text.eq_of_append_space hinside (isSpace_of_isQuote hq') (isSpace_of_isQuote hq)
      hback fun c hc => isSpace_of_isGap (hrest c hc))

/-- No string is closed in a bracket so that the bracket is closed next. -/
theorem closes_bracket {inside after : List Char} {s : Segment} (hq : IsQuote q)
    (hnot : ']' ∉ inside) (hs : bracketed? inside = some s)
    (h : Closes q ('[' :: (inside ++ ']' :: after)) behind) (hb : ClosesBracket behind) :
    Closes q after behind := by
  have hopen : '[' ≠ q ∧ '[' ≠ '\\' := by rcases hq with rfl | rfl <;> decide
  have hclose : ']' ≠ q ∧ ']' ≠ '\\' := by rcases hq with rfl | rfl <;> decide
  have hin := Closes.past (a := ['[']) h (List.forall_mem_singleton.2 hopen)
  rcases hin.cut hclose.2 with ⟨begun, rest, hinside, hbehind⟩ | he | hafter
  · -- the string is closed in this bracket
    exfalso
    obtain ⟨front, core, back, rfl, hfront, hback, hcore⟩ := bracketed?_cases hs
    have hrest : ∀ c ∈ rest, Token.isGap c = true := by
      have hgaps := hb
      rw [hbehind] at hgaps
      refine hgaps.isGap fun hm => hnot ?_
      rw [hinside]
      exact List.mem_append_right begun (List.mem_cons_of_mem q hm)
    rcases hcore with ⟨q', name, hq', rfl, -⟩ | ⟨i, hi, -⟩
    · exact not_closes_key hq hq' hfront hback hnot hinside hrest hin hb
    · have hmem : q ∈ front ++ (core ++ back) := by
        rw [hinside]
        exact List.mem_append_right begun List.mem_cons_self
      rcases List.mem_append.1 hmem with hm | hm
      · exact (ne_quote_of_isSpace hq (hfront q hm)).1 rfl
      rcases List.mem_append.1 hm with hm | hm
      · exact (ne_quote hq (Segment.isNamePart_of_index? hi q hm)).1 rfl
      · exact (ne_quote_of_isSpace hq (hback q hm)).1 rfl
  · exact absurd he hclose.1
  · exact hafter

/-- No string that has been opened before is closed in steps so that a bracket is closed next. -/
theorem Steps.not_closes {cs : List Char} {segs : List Segment} (h : Steps cs segs)
    (hq : IsQuote q) (hw : ∀ c ∈ w, Text.isSpace c = true) (hb : ClosesBracket behind) :
    ¬ Closes q (cs ++ w) behind := by
  induction h with
  | nil =>
    rintro ⟨body, content, -, he⟩
    have hmem : q ∈ w := by
      rw [← List.nil_append w, he]
      exact List.mem_append_right body List.mem_cons_self
    exact (ne_quote_of_isSpace hq (hw q hmem)).1 rfl
  | @point name rest s more _ _ hs _ ih =>
    intro hc
    have hplain : ∀ c ∈ '.' :: name, c ≠ q ∧ c ≠ '\\' := by
      refine List.forall_mem_cons.2 ⟨?_, fun c hc => ne_quote hq (isNamePart_of_dotted? hs c hc)⟩
      rcases hq with rfl | rfl <;> decide
    rw [← List.cons_append, List.append_assoc] at hc
    exact ih (hc.past hplain)
  | @bracket inside after s more hnot hs _ ih =>
    intro hc
    rw [List.cons_append, List.append_assoc, List.cons_append] at hc
    exact ih (closes_bracket hq hnot hs hc hb)

end Closes

end Path

/-! ### The steps that both readers take -/

namespace Reader

theorem splitPoint_append {ds : List Char} (h : ∀ d ∈ ds, d.isDigit = true) (es : List Char) :
    PlainDecimal.splitPoint (ds ++ '.' :: es) = (ds, some es) := by
  induction ds with
  | nil => rw [List.nil_append, PlainDecimal.splitPoint, if_pos rfl]
  | cons d ds ih =>
    obtain ⟨hd, hds⟩ := List.forall_mem_cons.1 h
    have hne : d ≠ '.' := by
      rintro rfl
      exact absurd hd (by decide)
    rw [List.cons_append, PlainDecimal.splitPoint, if_neg hne, ih hds]

theorem dotted_unknown {t : Token} {ts : List Token} {step : List Segment}
    (h : Token.StartsUnknown (t :: ts)) : dotted t ≠ .ok step := by
  obtain ⟨u, more, he, hu⟩ := h
  cases he
  intro hs
  simp only [dotted, hu] at hs
  cases hs

theorem bracketed_unknown {t : Token} {ts : List Token} {s : Segment}
    (h : Token.StartsUnknown (t :: ts)) : bracketed t ≠ .ok s := by
  obtain ⟨u, more, he, hu⟩ := h
  cases he
  intro hs
  simp only [bracketed, hu] at hs
  cases hs

end Reader

namespace Path
open Token (IsQuote Closes ClosesBracket cutFrom cutFrom_name cutFrom_number cutFrom_single
  cutFrom_space cutFrom_string exists_quoted exists_rightBracket StartsUnknown)

section Agreement

variable {line : Nat} {w front back rest : List Char} {us more : List Segment} {s : Segment}

/-- The tokens of all of these characters are read as these steps. -/
def TokensRead (line : Nat) (cs : List Char) (us : List Segment) : Prop :=
  ∃ column, Reader.segments (cutFrom line column cs) = .ok (us, [])

theorem TokensRead.space (h : TokensRead line (w ++ rest) us)
    (hw : ∀ c ∈ w, Text.isSpace c = true) : TokensRead line rest us := by
  obtain ⟨column, h⟩ := h
  rcases cutFrom_space hw rest with ⟨column', he⟩ | hu
  · rw [he] at h
    exact ⟨column', h⟩
  · exact absurd hu (Reader.segments_unknown h)

theorem TokensRead.point (h : TokensRead line ('.' :: rest) us) : ∃ column t ts step more,
    cutFrom line column rest = t :: ts ∧ Reader.dotted t = .ok step ∧
      Reader.segments ts = .ok (more, []) ∧ us = step ++ more := by
  obtain ⟨column, h⟩ := h
  rw [cutFrom_single .dot (by decide) (fun _ => rfl) (by simp)] at h
  obtain ⟨t, ts, step, more, hcut, hs, hm, he⟩ := Reader.segments_dot rfl h
  exact ⟨column + 1, t, ts, step, more, hcut, hs, hm, he⟩

/-- What stands in a bracket is one token, and behind it the bracket is closed. -/
theorem TokensRead.bracket (h : TokensRead line ('[' :: (front ++ rest)) us)
    (hf : ∀ c ∈ front, Text.isSpace c = true) : ∃ column t ts s more,
    cutFrom line column rest = t :: ts ∧ Reader.bracketed t = .ok s ∧ us = s :: more ∧
      ∀ column' cs, ts = cutFrom line column' cs → ∃ gap after,
        (∀ c ∈ gap, Token.isGap c = true) ∧ cs = gap ++ ']' :: after ∧
          TokensRead line after more := by
  obtain ⟨column, h⟩ := h
  rw [cutFrom_single .leftBracket (by decide) (fun _ => rfl) (by simp)] at h
  obtain ⟨t, r, ts, s, more, hcut, hs, hr, hm, rfl⟩ := Reader.segments_bracket rfl h
  rcases cutFrom_space hf rest with ⟨column', he⟩ | hu
  · rw [he] at hcut
    refine ⟨column', t, r :: ts, s, more, hcut, hs, rfl, fun column'' cs hts => ?_⟩
    obtain ⟨gap, after, last, hgap, hsplit, hafter⟩ := exists_rightBracket hts.symm hr
    exact ⟨gap, after, hgap, hsplit, last, hafter ▸ hm⟩
  · rw [hcut] at hu
    exact absurd hs (Reader.bracketed_unknown hu)

theorem eq_of_closes {gap back cs rest : List Char} (hgap : ∀ c ∈ gap, Token.isGap c = true)
    (hback : ∀ c ∈ back, Text.isSpace c = true) (h : back ++ ']' :: rest = gap ++ ']' :: cs) :
    cs = rest := by
  have hdrop : ∀ a b : List Char, (∀ c ∈ a, Text.isSpace c = true) →
      (a ++ ']' :: b).dropWhile Text.isSpace = ']' :: b := by
    intro a b ha
    refine Token.dropWhile_append_of_all ha ?_
    rintro c ⟨⟩
    decide
  have hleft := hdrop back rest hback
  rw [h, hdrop gap cs fun c hc => isSpace_of_isGap (hgap c hc)] at hleft
  exact (List.cons.inj hleft).2

/-- Behind a step comes another one, or white space. -/
theorem head_rest (hr : ∀ c ∈ rest.head?, (!isBreak c) = false)
    (hw : ∀ c ∈ w, Text.isSpace c = true) :
    ∀ c ∈ (rest ++ w).head?, Token.isNamePart c = false := by
  intro c hc
  rw [← Bool.not_eq_true]
  intro hn
  cases rest with
  | cons d rest =>
    have hd : (!isBreak c) = false := hr c hc
    rw [isBreak_of_isNamePart hn] at hd
    cases hd
  | nil =>
    have hspace : Text.isSpace c = true := hw c (List.mem_of_mem_head? hc)
    rw [Token.isSpace_of_isNamePart hn] at hspace
    cases hspace

theorem isDigit_of_not_isNamePart {c : Char} (h : Token.isNamePart c = false) :
    c.isDigit = false := by
  rw [← Bool.not_eq_true]
  intro hd
  rw [Token.isNamePart_of_isDigit hd] at h
  cases h

theorem TokensRead.key {name : List Char} (hn : Token.isName name = true)
    (hstop : ∀ c ∈ rest.head?, Token.isNamePart c = false)
    (h : TokensRead line ('.' :: (name ++ rest)) us) :
    ∃ more, us = .key (String.ofList name) :: more ∧ TokensRead line rest more := by
  obtain ⟨column, t, ts, step, more, hcut, hs, hm, rfl⟩ := h.point
  cases name with
  | nil => cases hn
  | cons c name =>
    rw [Token.isName, Bool.and_eq_true, List.all_eq_true] at hn
    rw [List.cons_append, cutFrom_name hn.1 hn.2 hstop] at hcut
    cases hcut
    rw [Reader.dotted_name hs]
    exact ⟨more, rfl, _, hm⟩

theorem TokensRead.digits {c : Char} {ds : List Char} {i : Nat}
    (hd : ∀ d ∈ c :: ds, d.isDigit = true)
    (hi : Segment.index? (c :: ds) = some i) (hstop : ∀ d ∈ rest.head?, d.isDigit = false)
    (hpoint : Token.fractionLength rest = 0) (h : TokensRead line ('.' :: (c :: ds ++ rest)) us) :
    ∃ more, us = .index i :: more ∧ TokensRead line rest more := by
  obtain ⟨column, t, ts, step, more, hcut, hs, hm, rfl⟩ := h.point
  obtain ⟨hc, hds⟩ := List.forall_mem_cons.1 hd
  obtain ⟨pos, column', hnumber⟩ := cutFrom_number line column hc hds
    (.inl rfl : Token.IsFraction []) hstop fun _ => hpoint
  rw [List.nil_append, List.append_nil] at hnumber
  rw [List.cons_append, hnumber] at hcut
  cases hcut
  simp only [Reader.dotted, String.toList_ofList, Reader.splitPoint_of_digits hd,
    Reader.index_eq_ok hi] at hs
  cases hs
  exact ⟨more, rfl, column', hm⟩

/-- Two indexes behind points are one decimal. -/
theorem TokensRead.decimal {c e : Char} {ds es : List Char} {i j : Nat}
    (hd : ∀ d ∈ c :: ds, d.isDigit = true) (he : ∀ d ∈ e :: es, d.isDigit = true)
    (hi : Segment.index? (c :: ds) = some i) (hj : Segment.index? (e :: es) = some j)
    (hstop : ∀ d ∈ rest.head?, d.isDigit = false)
    (h : TokensRead line ('.' :: (c :: ds ++ '.' :: (e :: es ++ rest))) us) :
    ∃ more, us = .index i :: .index j :: more ∧ TokensRead line rest more := by
  obtain ⟨column, t, ts, step, more, hcut, hs, hm, rfl⟩ := h.point
  obtain ⟨hc, hds⟩ := List.forall_mem_cons.1 hd
  have hfraction : Token.IsFraction ('.' :: e :: es) :=
    .inr ⟨e :: es, ⟨List.cons_ne_nil e es, he⟩, rfl⟩
  obtain ⟨pos, column', hnumber⟩ := cutFrom_number line column hc hds hfraction
    hstop (by simp)
  rw [List.cons_append] at hnumber
  rw [List.cons_append, hnumber] at hcut
  cases hcut
  rw [← List.cons_append] at hs
  simp only [Reader.dotted, String.toList_ofList, Reader.splitPoint_append hd,
    Reader.index_eq_ok hi, Reader.index_eq_ok hj] at hs
  cases hs
  exact ⟨more, rfl, column', hm⟩

theorem TokensRead.bracketIndex {core : List Char} {i : Nat}
    (hfront : ∀ c ∈ front, Text.isSpace c = true) (hback : ∀ c ∈ back, Text.isSpace c = true)
    (hi : Segment.index? core = some i)
    (h : TokensRead line ('[' :: (front ++ (core ++ (back ++ ']' :: rest)))) us) :
    ∃ more, us = .index i :: more ∧ TokensRead line rest more := by
  obtain ⟨column, t, ts, s, more, hcut, hs, rfl, hclose⟩ := h.bracket hfront
  rcases Segment.index?_eq_some hi with ⟨d, ds, rfl, hd⟩ | ⟨ds, rfl, -⟩
  · obtain ⟨hc, hds⟩ := List.forall_mem_cons.1 hd
    have hstop : ∀ c ∈ (back ++ ']' :: rest).head?, c.isDigit = false ∧ c ≠ '.' := by
      intro c hc
      cases back with
      | nil =>
        cases hc
        decide
      | cons e back =>
        cases hc
        have he := hback c List.mem_cons_self
        refine ⟨?_, ?_⟩
        · rw [← Bool.not_eq_true]
          intro hdigit
          rw [Reader.isSpace_of_isDigit hdigit] at he
          cases he
        · rintro rfl
          exact absurd he (by decide)
    obtain ⟨pos, column', hnumber⟩ := cutFrom_number line column hc hds
      (.inl rfl : Token.IsFraction []) (fun c hc => (hstop c hc).1)
      fun _ => Token.fractionLength_of_ne fun c hc => (hstop c hc).2
    rw [List.nil_append, List.append_nil] at hnumber
    rw [List.cons_append, hnumber] at hcut
    cases hcut
    simp only [Reader.bracketed, String.toList_ofList, Reader.index_eq_ok hi] at hs
    cases hs
    obtain ⟨gap, after, hgap, hsplit, hread⟩ := hclose column' _ rfl
    rw [eq_of_closes hgap hback hsplit] at hread
    exact ⟨more, rfl, hread⟩
  · have hu : StartsUnknown (cutFrom line column ('+' :: ds ++ (back ++ ']' :: rest))) :=
      Token.startsUnknown_single (by decide) (fun _ => rfl) _
    rw [hcut] at hu
    exact absurd hs (Reader.bracketed_unknown hu)

theorem TokensRead.bracketKey {q : Char} {name after : List Char} {segs : List Segment}
    (hfront : ∀ c ∈ front, Text.isSpace c = true) (hback : ∀ c ∈ back, Text.isSpace c = true)
    (hq : IsQuote q) (hname : ']' ∉ name) (hsteps : Steps after segs)
    (hw : ∀ c ∈ w, Text.isSpace c = true)
    (h : TokensRead line
      ('[' :: (front ++ q :: (name ++ q :: (back ++ ']' :: (after ++ w))))) us) :
    ∃ more, us = .key (String.ofList (Token.unescape name)) :: more ∧
      TokensRead line (after ++ w) more := by
  obtain ⟨column, t, ts, s, more, hcut, hs, rfl, hclose⟩ := h.bracket hfront
  obtain ⟨body, content, tail, hbody, hb, htail⟩ :=
    exists_quoted q (name ++ q :: (back ++ ']' :: (after ++ w)))
  rw [hbody] at hcut
  rcases htail with htail | hopen
  · obtain ⟨behind, rfl⟩ := List.head?_eq_some_iff.1 htail
    obtain ⟨pos, column', hstring⟩ := cutFrom_string line column hq hb behind
    rw [hstring] at hcut
    cases hcut
    cases hs
    obtain ⟨gap, cs, hgap, hbehind, hread⟩ := hclose column' behind rfl
    have hbracket : ClosesBracket behind := ⟨gap, cs, hgap, hbehind⟩
    have hspace := isSpace_of_isQuote hq
    -- the string is the key, or a part of it, or goes on behind it
    rcases hb.cut hbody hq.ne_escape with ⟨begun, left, rfl, hleft⟩ | ⟨rfl, -, hsame⟩ | hlater
    · exfalso
      have hsplit : behind = (left ++ q :: back) ++ ']' :: (after ++ w) := by
        rw [hleft, List.append_assoc, List.cons_append]
      have hnot : ']' ∉ left ++ q :: back := by
        intro hm
        rcases List.mem_append.1 hm with hm | hm
        · exact hname (List.mem_append_right begun (List.mem_cons_of_mem q hm))
        rcases List.mem_cons.1 hm with hm | hm
        · rcases hq with rfl | rfl <;> cases hm
        · exact absurd (hback _ hm) (by decide)
      rw [hsplit] at hbracket
      have hgap := hbracket.isGap hnot q (List.mem_append_right left List.mem_cons_self)
      rw [isSpace_of_isGap hgap] at hspace
      cases hspace
    · rw [← Token.unescape_of_quoted hb]
      rw [hsame] at hbehind
      rw [eq_of_closes hgap hback hbehind] at hread
      exact ⟨more, rfl, hread⟩
    · exfalso
      have hplain : ∀ c ∈ back ++ [']'], c ≠ q ∧ c ≠ '\\' := by
        refine List.forall_mem_append.2 ⟨fun c hc => ne_quote_of_isSpace hq (hback c hc), ?_⟩
        rcases hq with rfl | rfl <;> exact List.forall_mem_singleton.2 (by decide)
      have hsplit : back ++ ']' :: (after ++ w) = (back ++ [']']) ++ (after ++ w) := by
        rw [List.append_assoc, List.singleton_append]
      rw [hsplit] at hlater
      exact hsteps.not_closes hq hw hbracket (hlater.past hplain)
  · have hu : StartsUnknown (cutFrom line column (q :: (body ++ tail))) :=
      Token.startsUnknown_open hq hb hopen
    rw [hcut] at hu
    exact absurd hs (Reader.bracketed_unknown hu)

/-- A step that begins with a digit is an index. -/
theorem Steps.index_of_digit {cs more : List Char} {segs : List Segment} {e : Char}
    (h : Steps cs segs) (hw : ∀ c ∈ w, Text.isSpace c = true) (he : e.isDigit = true)
    (hcs : cs ++ w = '.' :: e :: more) : ∃ es rest j segs', cs = '.' :: (e :: es ++ rest) ∧
      (∀ d ∈ e :: es, d.isDigit = true) ∧ Segment.index? (e :: es) = some j ∧
      segs = .index j :: segs' ∧ Steps rest segs' ∧ ∀ c ∈ rest.head?, (!isBreak c) = false := by
  have hpart := Token.isNamePart_of_isDigit he
  cases h with
  | nil =>
    rw [List.nil_append] at hcs
    rw [hcs] at hw
    exact absurd (hw '.' List.mem_cons_self) (by decide)
  | bracket => cases hcs
  | @point name rest s segs _ hrest hs hsteps =>
    have hmore : (name ++ rest) ++ w = e :: more := (List.cons.inj hcs).2
    cases name with
    | nil =>
      rw [List.nil_append] at hmore
      have hend := head_rest hrest hw e (by rw [hmore]; rfl)
      rw [hend] at hpart
      cases hpart
    | cons a es =>
      obtain rfl : a = e := (List.cons.inj hmore).1
      rcases dotted?_eq_some hs with ⟨j, hj, rfl⟩ | ⟨hname, -⟩
      · rcases Segment.index?_eq_some hj with ⟨_, _, ⟨⟩, hes⟩ | ⟨_, ⟨⟩, -⟩
        · exact ⟨es, rest, j, segs, rfl, hes, hj, rfl, hsteps, hrest⟩
        · cases he
      · rw [Token.isName, Token.isNameStart_of_isDigit he] at hname
        cases hname

/-- A step behind a point with what is read of it: itself, or itself and the next one. -/
theorem TokensRead.dotted {name : List Char} {s : Segment} {segs : List Segment}
    (hs : dotted? name = some s) (hsteps : Steps rest segs)
    (hrest : ∀ c ∈ rest.head?, (!isBreak c) = false) (hw : ∀ c ∈ w, Text.isSpace c = true)
    (h : TokensRead line ('.' :: (name ++ (rest ++ w))) us) :
    (∃ more, us = s.unescaped :: more ∧ TokensRead line (rest ++ w) more) ∨
      ∃ next s' segs' more, next.length < rest.length ∧ Steps next segs' ∧ segs = s' :: segs' ∧
        us = s.unescaped :: s'.unescaped :: more ∧ TokensRead line (next ++ w) more := by
  have hend := head_rest hrest hw
  rcases dotted?_eq_some hs with ⟨i, hi, rfl⟩ | ⟨hname, rfl⟩
  · rcases Segment.index?_eq_some hi with ⟨c, ds, rfl, hd⟩ | ⟨ds, rfl, -⟩
    · by_cases hf : Token.fractionLength (rest ++ w) = 0
      · exact .inl (h.digits hd hi (fun c hc => isDigit_of_not_isNamePart (hend c hc)) hf)
      · right
        obtain ⟨e, more, hmore, he⟩ := Token.exists_of_fractionLength hf
        obtain ⟨es, next, j, segs', rfl, hes, hj, rfl, hnext, hbreak⟩ :=
          hsteps.index_of_digit hw he hmore
        have hsplit : '.' :: (e :: es ++ next) ++ w = '.' :: (e :: es ++ (next ++ w)) := by
          rw [List.cons_append, List.append_assoc]
        rw [hsplit] at h
        obtain ⟨left, rfl, hleft⟩ := h.decimal hd hes hi hj fun c hc =>
          isDigit_of_not_isNamePart (head_rest hbreak hw c hc)
        refine ⟨next, _, segs', left, ?_, hnext, rfl, rfl, hleft⟩
        simp only [List.length_cons, List.length_append]
        omega
    · obtain ⟨column, t, ts, step, more, hcut, hs, -⟩ := h.point
      have hu : StartsUnknown (cutFrom line column ('+' :: ds ++ (rest ++ w))) :=
        Token.startsUnknown_single (by decide) (fun _ => rfl) _
      rw [hcut] at hu
      exact absurd hs (Reader.dotted_unknown hu)
  · have hplain : '\\' ∉ name := fun hm =>
      absurd (Token.isNamePart_of_isName hname _ hm) (by decide)
    rw [Segment.unescaped_key hplain]
    exact .inl (h.key hname hend)

/-- What is read of the tokens is what is read of the characters, without the escapes. -/
theorem Steps.unescaped_of_tokens {cs : List Char} {segs : List Segment} (h : Steps cs segs)
    (hw : ∀ c ∈ w, Text.isSpace c = true) (hr : TokensRead line (cs ++ w) us) :
    us = segs.map Segment.unescaped := by
  induction hn : cs.length using Nat.strong_induction_on generalizing cs segs us with
  | h n ih =>
    subst hn
    cases h with
    | nil =>
      have hnil : TokensRead line ([] : List Char) us := by
        refine TokensRead.space (w := w) ?_ hw
        rw [List.append_nil]
        exact hr
      obtain ⟨column, hnil⟩ := hnil
      rw [cutFrom, Token.scan, List.map_nil, Reader.segments] at hnil
      cases hnil
      rfl
    | @point name rest s more _ hrest hs hmore =>
      rw [List.cons_append, List.append_assoc] at hr
      rcases hr.dotted hs hmore hrest hw with
        ⟨left, rfl, hleft⟩ | ⟨next, s', segs, left, hlt, hnext, rfl, rfl, hleft⟩
      · have hlt : rest.length < ('.' :: (name ++ rest)).length := by
          simp only [List.length_cons, List.length_append]
          omega
        rw [List.map_cons, ih _ hlt hmore hleft rfl]
      · have hlt : next.length < ('.' :: (name ++ rest)).length := by
          simp only [List.length_cons, List.length_append]
          omega
        rw [List.map_cons, List.map_cons, ih _ hlt hnext hleft rfl]
    | @bracket inside after s more hnot hs hmore =>
      have hlt : after.length < ('[' :: (inside ++ ']' :: after)).length := by
        simp only [List.length_cons, List.length_append]
        omega
      obtain ⟨front, core, back, rfl, hfront, hback, hcore⟩ := bracketed?_cases hs
      rcases hcore with ⟨q, name, hq, rfl, rfl⟩ | ⟨i, hi, rfl⟩
      · have hname : ']' ∉ name := fun hm => hnot (by simp [hm])
        have hsplit : '[' :: (front ++ (q :: (name ++ [q]) ++ back) ++ ']' :: after) ++ w =
            '[' :: (front ++ q :: (name ++ q :: (back ++ ']' :: (after ++ w)))) := by
          simp
        rw [hsplit] at hr
        obtain ⟨left, rfl, hleft⟩ := hr.bracketKey hfront hback hq hname hmore hw
        rw [List.map_cons, ih _ hlt hmore hleft rfl, Segment.unescaped, String.toList_ofList]
      · have hsplit : '[' :: (front ++ (core ++ back) ++ ']' :: after) ++ w =
            '[' :: (front ++ (core ++ (back ++ ']' :: (after ++ w)))) := by
          simp
        rw [hsplit] at hr
        obtain ⟨left, rfl, hleft⟩ := hr.bracketIndex hfront hback hi
        rw [List.map_cons, ih _ hlt hmore hleft rfl, Segment.unescaped]

end Agreement

/-! ### The same text in both readers -/

theorem exists_root {line column : Nat} {t : List Char} {p : Path} {pos stop : Position}
    (h : Reader.all Reader.operand (cutFrom line column (':' :: t)) stop =
      .ok ⟨.variable p, [], pos⟩) :
    ∃ root ts, cutFrom line (column + 1) t = root :: ts ∧ root.kind = .identifier ∧
      root.literal = p.root ∧ Reader.segments ts = .ok (p.rest, []) := by
  have hyields := Reader.reads_operand.all_eq_ok.1 h
  rw [cutFrom_single .colon (by decide) (fun _ => rfl) (by simp)] at hyields
  generalize hts : cutFrom line (column + 1) t = ts at hyields
  generalize hall : (⟨.colon, String.ofList [':'], ⟨line, column⟩⟩ : Token) :: ts = all at hyields
  cases hyields with
  | mk hterm hpipes =>
    cases hpipes
    cases hterm with
    | path _ hpath =>
      cases hpath with
      | @mk root segs us hk hsegs =>
        rw [List.append_nil] at hall
        obtain rfl := (List.cons.inj hall).2
        have hread := Reader.segments_append hsegs Reader.stops_nil
        rw [List.append_nil] at hread
        exact ⟨root, us, rfl, hk, rfl, hread⟩

theorem Steps.unescaped_eq {cs : List Char} {segs : List Segment} (h : Steps cs segs)
    (hn : '\\' ∉ cs) : segs.map Segment.unescaped = segs := by
  induction h with
  | nil => rfl
  | @point name rest s more _ _ hs _ ih =>
    have hkey : s.unescaped = s := by
      rcases dotted?_eq_some hs with ⟨i, -, rfl⟩ | ⟨-, rfl⟩
      · rfl
      · exact Segment.unescaped_key fun hm => hn (by simp [hm])
    rw [List.map_cons, hkey, ih fun hm => hn (by simp [hm])]
  | @bracket inside after s more _ hs _ ih =>
    have hkey : s.unescaped = s := by
      rcases bracketed?_eq_some hs with ⟨name, hname, rfl⟩ | ⟨i, -, rfl⟩
      · obtain ⟨q, -, htrim⟩ := unquote?_eq_some hname
        refine Segment.unescaped_key fun hm => hn ?_
        have hinside : '\\' ∈ inside := by
          refine Text.mem_of_mem_trimChars ?_
          rw [htrim]
          exact List.mem_cons_of_mem q (List.mem_append_left [q] hm)
        simp [hinside]
      · rfl
    rw [List.map_cons, hkey, ih fun hm => hn (by simp [hm])]

/-- Where a directive takes all of a text as a path, and a placeholder takes it too, the directive
reads what the placeholder reads with the escapes in its keys taken away. So the two read the same
path, and with it the same value, where the text has no escape. -/
theorem unescaped_of_operand {line column : Nat} {t : List Char} {p q : Path}
    {pos stop : Position} (hd : Reader.all Reader.operand
      ((Token.scan column (':' :: t)).map (Token.ofLexeme line)) stop = .ok ⟨.variable p, [], pos⟩)
    (hp : ofChars? t = some q) : p = q.unescaped ∧ ('\\' ∉ t → p = q) := by
  obtain ⟨root, ts, hcut, hk, hroot, hread⟩ := exists_root hd
  obtain ⟨rest, htrim, hname, hsegs, hrest⟩ := ofChars?_eq_some hp
  have hsteps := steps_of_segments? hsegs
  have hp : p = q.unescaped := by
    obtain ⟨front, back, ht, hfront, hback⟩ := Text.exists_trimChars t
    rw [htrim] at ht
    rw [ht] at hcut
    rcases cutFrom_space hfront ((q.root.toList ++ rest) ++ back) with ⟨column', he⟩ | hu
    · cases hr : q.root.toList with
      | nil =>
        rw [hr] at hname
        cases hname
      | cons c name =>
        rw [hr, Token.isName, Bool.and_eq_true, List.all_eq_true] at hname
        rw [he, hr, List.append_assoc, List.cons_append,
          cutFrom_name hname.1 hname.2 (head_rest hrest hback)] at hcut
        cases hcut
        have hsame := hsteps.unescaped_of_tokens hback ⟨_, hread⟩
        have hnames : p.root = q.root := by
          rw [← hroot, ← hr, String.ofList_toList]
        rw [unescaped, ← hnames, ← hsame]
    · obtain ⟨u, more, hcons, hunknown⟩ := hu
      rw [hcons] at hcut
      cases hcut
      rw [hunknown] at hk
      cases hk
  refine ⟨hp, fun hn => ?_⟩
  have hplain : '\\' ∉ rest := by
    intro hm
    refine hn (Text.mem_of_mem_trimChars ?_)
    rw [htrim]
    exact List.mem_append_right _ hm
  rw [hp, unescaped, hsteps.unescaped_eq hplain]

/-- Two indexes that are cut as one decimal, and a key with an escaped quote. -/
theorem unescaped_of_operand_steps :
    Reader.all Reader.operand
        ((Token.scan 4 ":a.0.1[ 'it\\'s' ]".toList).map (Token.ofLexeme 2)) ⟨2, 22⟩ =
      .ok ⟨.variable ⟨"a", [.index 0, .index 1, .key "it's"]⟩, [], ⟨2, 4⟩⟩ ∧
    ofChars? "a.0.1[ 'it\\'s' ]".toList = some ⟨"a", [.index 0, .index 1, .key "it\\'s"]⟩ ∧
    (⟨"a", [.index 0, .index 1, .key "it's"]⟩ : Path) =
      unescaped ⟨"a", [.index 0, .index 1, .key "it\\'s"]⟩ := by
  have hd : Reader.all Reader.operand
      ((Token.scan 4 (':' :: "a.0.1[ 'it\\'s' ]".toList)).map (Token.ofLexeme 2)) ⟨2, 22⟩ =
        .ok ⟨.variable ⟨"a", [.index 0, .index 1, .key "it's"]⟩, [], ⟨2, 4⟩⟩ := by
    decide +kernel
  have hp : ofChars? "a.0.1[ 'it\\'s' ]".toList =
      some ⟨"a", [.index 0, .index 1, .key "it\\'s"]⟩ := by
    decide +kernel
  exact ⟨hd, hp, (unescaped_of_operand hd hp).1⟩

/-- The two readers need not read the same path: an escaped quote is a quote in the key that a
directive names, and an escape and a quote in the key that a placeholder names. -/
theorem exists_operand_ne : ∃ p q : Path, p ≠ q ∧
    Reader.all Reader.operand
        ((Token.scan 4 ":a['it\\'s']".toList).map (Token.ofLexeme 1)) ⟨1, 15⟩ =
      .ok ⟨.variable p, [], ⟨1, 4⟩⟩ ∧
    ofChars? "a['it\\'s']".toList = some q := by
  refine ⟨⟨"a", [.key "it's"]⟩, ⟨"a", [.key "it\\'s"]⟩, ?_⟩
  decide +kernel

end Path

end LineTemplate
