import LineTemplate.Proofs.PathText

/-!
# Cutting a line

What the first token of a line is and what stands behind it, for the tokens that paths are made
of, and where a string that has been opened is closed: a string that goes on over a quote, because
it is escaped, ends at another quote further on.
-/

namespace LineTemplate

/-! ### Tokens one at a time -/

namespace Token

/-- The tokens of the characters from a column of a line on. -/
def cutFrom (line column : Nat) (cs : List Char) : List Token :=
  (scan column cs).map (ofLexeme line)

section Cut

variable {line column : Nat} {c : Char} {w more : List Char} {kind : Kind}

theorem cutFrom_cons (hc : isGap c = false) (he : extent c (w ++ more) = (kind, w.length)) :
    cutFrom line column (c :: (w ++ more)) =
      ofLexeme line ⟨kind, c :: w, column⟩ :: cutFrom line (column + 1 + w.length) more := by
  rw [cutFrom, scan, hc, he]
  simp only [Bool.false_eq_true, if_false, List.take_left, List.drop_left, List.map_cons, cutFrom]

theorem cutFrom_gap (hw : ∀ c ∈ w, isGap c = true) (cs : List Char) :
    cutFrom line column (w ++ cs) = cutFrom line (column + w.length) cs := by
  rw [cutFrom, cutFrom, scan_gap hw]

/-- A token that is one character, whatever stands behind it. -/
theorem cutFrom_single (kind : Kind) (hc : isGap c = false) (he : ∀ cs, extent c cs = (kind, 0))
    (hk : kind ≠ .string) (cs : List Char) :
    cutFrom line column (c :: cs) =
      ⟨kind, String.ofList [c], ⟨line, column⟩⟩ :: cutFrom line (column + 1) cs := by
  have hcons := @cutFrom_cons line column c [] cs kind hc (he cs)
  rw [ofLexeme, if_neg hk] at hcons
  exact hcons

theorem cutFrom_name (hc : isNameStart c = true) (hw : ∀ d ∈ w, isNamePart d = true)
    (hstop : ∀ d ∈ more.head?, isNamePart d = false) :
    cutFrom line column (c :: (w ++ more)) =
      ⟨nameKind (c :: w), String.ofList (c :: w), ⟨line, column⟩⟩ ::
        cutFrom line (column + 1 + w.length) more := by
  have hgap : isGap c = false := SpellsFrom.not_gap (.name hc hw)
  have he : extent c (w ++ more) = (nameKind (c :: w), w.length) := by
    rw [extent_name hc, run_of_all hw hstop, List.take_left]
  have hk : nameKind (c :: w) ≠ .string := by
    unfold nameKind
    split <;> simp
  rw [cutFrom_cons hgap he, ofLexeme, if_neg hk]

theorem cutFrom_number (line column : Nat) {ds fraction : List Char} (hc : c.isDigit = true)
    (hds : ∀ d ∈ ds, d.isDigit = true) (hf : IsFraction fraction)
    (hstop : ∀ d ∈ more.head?, d.isDigit = false)
    (hpoint : fraction = [] → fractionLength more = 0) :
    ∃ pos column', cutFrom line column (c :: (ds ++ (fraction ++ more))) =
      ⟨.number, String.ofList (c :: (ds ++ fraction)), pos⟩ :: cutFrom line column' more := by
  have hgap : isGap c = false := SpellsFrom.not_gap (.number (.inl hc) hds hf rfl)
  have he : extent c ((ds ++ fraction) ++ more) = (.number, (ds ++ fraction).length) := by
    rw [List.append_assoc, extent_number (.inl hc), numberLength_of_stop hds hf hstop hpoint,
      List.length_append]
  refine ⟨⟨line, column⟩, column + 1 + (ds ++ fraction).length, ?_⟩
  rw [← List.append_assoc, cutFrom_cons hgap he, ofLexeme, if_neg (by simp)]

theorem cutFrom_string (line column : Nat) {q : Char} {body content : List Char} (hq : IsQuote q)
    (hb : Quoted q body content) (cs : List Char) :
    ∃ pos column', cutFrom line column (q :: (body ++ q :: cs)) =
      ⟨.string, String.ofList content, pos⟩ :: cutFrom line column' cs := by
  have hgap : isGap q = false := SpellsFrom.not_gap (.string hq hb rfl)
  have he : extent q ((body ++ [q]) ++ cs) = (.string, (body ++ [q]).length) := by
    rw [extent_quote hq, List.append_assoc, List.singleton_append,
      quotedLength_closed hq.ne_escape hb, if_pos rfl, List.length_append, List.length_singleton]
  refine ⟨⟨line, column⟩, column + 1 + (body ++ [q]).length, ?_⟩
  have hsplit : body ++ q :: cs = (body ++ [q]) ++ cs := by
    rw [List.append_assoc, List.singleton_append]
  rw [hsplit, cutFrom_cons hgap he, ofLexeme, if_pos rfl, inner, List.tail_cons,
    List.dropLast_concat, unescape_of_quoted hb]

/-- The first token is one of unknown kind. -/
def StartsUnknown (ts : List Token) : Prop := ∃ t more, ts = t :: more ∧ t.kind = .unknown

theorem startsUnknown_open {q : Char} {body content : List Char} (hq : IsQuote q)
    (hb : Quoted q body content) (hm : more = [] ∨ more = ['\\']) :
    StartsUnknown (cutFrom line column (q :: (body ++ more))) := by
  have hgap : isGap q = false := SpellsFrom.not_gap (.string hq hb rfl)
  have he : extent q (body ++ more) = (.unknown, body.length) := by
    rw [extent_quote hq, quotedLength_open hq.ne_escape hb hm]
    rfl
  exact ⟨_, _, cutFrom_cons hgap he, rfl⟩

theorem startsUnknown_single (hc : isGap c = false) (he : ∀ cs, extent c cs = (.unknown, 0))
    (cs : List Char) : StartsUnknown (cutFrom line column (c :: cs)) :=
  ⟨_, _, cutFrom_single .unknown hc he (by simp) cs, rfl⟩

theorem extent_of_isSpace (hc : Text.isSpace c = true) (cs : List Char) :
    extent c cs = (.unknown, 0) := by
  have hne : ∀ d, Text.isSpace d = false → c ≠ d := by
    rintro d hd rfl
    rw [hd] at hc
    cases hc
  have hname : isNameStart c = false := by
    rw [← Bool.not_eq_true]
    intro hn
    rw [isSpace_of_isNamePart (isNamePart_of_isNameStart hn)] at hc
    cases hc
  have hdigit : c.isDigit = false := by
    rw [← Bool.not_eq_true]
    intro hd
    rw [Reader.isSpace_of_isDigit hd] at hc
    cases hc
  have hquote : ¬ IsQuote c := by
    rintro (h | h)
    · exact hne _ (by decide) h
    · exact hne _ (by decide) h
  have hother : isOther c = true :=
    isOther_eq_true.2 ⟨hne _ (by decide), hname, hdigit, hne _ (by decide), hquote⟩
  rw [extent_symbol hother]
  rcases symbolExtent_cases c cs with ⟨w, more, -, hm, -⟩ | ⟨hu, -⟩
  · have hall : symbols.all (fun entry => entry.2.head?.all fun c => !Text.isSpace c) = true := by
      decide
    have hnot : (!Text.isSpace c) = true := List.all_eq_true.1 hall _ hm
    rw [hc] at hnot
    cases hnot
  · exact hu

/-- White space is a gap, or a token that is unknown begins in it. -/
theorem cutFrom_space (hw : ∀ c ∈ w, Text.isSpace c = true) (cs : List Char) :
    (∃ column', cutFrom line column (w ++ cs) = cutFrom line column' cs) ∨
      StartsUnknown (cutFrom line column (w ++ cs)) := by
  obtain ⟨gap, rest, rfl, hgap, hstop⟩ := exists_run isGap w
  rw [List.append_assoc, cutFrom_gap hgap]
  cases rest with
  | nil => exact .inl ⟨_, rfl⟩
  | cons c rest =>
    have hc : Text.isSpace c = true := hw c (List.mem_append_right gap List.mem_cons_self)
    exact .inr (startsUnknown_single (hstop c rfl) (extent_of_isSpace hc) (rest ++ cs))

/-- A bracket that closes comes next, behind a gap or at once. -/
theorem exists_rightBracket {t : Token} {ts : List Token}
    (h : cutFrom line column w = t :: ts) (ht : t.kind = .rightBracket) :
    ∃ gap cs column', (∀ c ∈ gap, isGap c = true) ∧ w = gap ++ ']' :: cs ∧
      ts = cutFrom line column' cs := by
  have hl : Lexes line column w (t :: ts) := lexes_iff.2 h
  cases hl with
  | @token _ gap slice literal after kind more hgap htake hmore =>
    have hts : cutFrom line _ after = ts := lexes_iff.1 hmore
    simp only at ht
    rw [ht] at htake
    cases htake with
    | longest hs _ =>
      cases hs with
      | symbol hm =>
        have hslice : slice = [']'] := by
          simp only [symbols, List.mem_cons, Prod.mk.injEq, List.not_mem_nil, or_false] at hm
          simpa using hm
        exact ⟨gap, after, _, hgap, by rw [hslice]; rfl, hts.symm⟩

end Cut

/-! ### Where a string is closed -/

/-- Behind an opened quote the string is closed, and `behind` is what stands behind it. -/
def Closes (q : Char) (cs behind : List Char) : Prop :=
  ∃ body content, Quoted q body content ∧ cs = body ++ q :: behind

section Closes

variable {q : Char} {a b behind : List Char}

/-- An escape takes no more than one character with it. -/
theorem Quoted.resume {c : Char} {body content : List Char} (h : Quoted q body content)
    (hc : c ≠ '\\') (he : body = a ++ c :: b) : ∃ content', Quoted q b content' := by
  induction h generalizing a with
  | nil => simp at he
  | @plain d body content _ _ hb ih =>
    cases a with
    | nil =>
      cases he
      exact ⟨content, hb⟩
    | cons e a =>
      cases he
      exact ih rfl
  | @escape d body content hb ih =>
    rcases a with - | ⟨e, - | ⟨f, a⟩⟩
    · cases he
      exact absurd rfl hc
    · cases he
      exact ⟨content, hb⟩
    · cases he
      exact ih rfl

theorem Quoted.past {body content : List Char} (h : Quoted q body content)
    (ha : ∀ c ∈ a, c ≠ q ∧ c ≠ '\\') (he : body ++ q :: behind = a ++ b) : Closes q b behind := by
  induction a generalizing body content with
  | nil => exact ⟨body, content, h, he.symm⟩
  | cons c a ih =>
    obtain ⟨⟨hq, hescape⟩, ha⟩ := List.forall_mem_cons.1 ha
    cases h with
    | nil => exact absurd (List.cons.inj he).1.symm hq
    | plain _ _ hb => exact ih hb ha (List.cons.inj he).2
    | escape => exact absurd (List.cons.inj he).1.symm hescape

/-- Characters that are neither the quote nor an escape close nothing. -/
theorem Closes.past (h : Closes q (a ++ b) behind) (ha : ∀ c ∈ a, c ≠ q ∧ c ≠ '\\') :
    Closes q b behind := by
  obtain ⟨body, content, hb, he⟩ := h
  exact hb.past ha he.symm

theorem Closes.eq_of_cons (h : Closes q (q :: b) behind) (hq : q ≠ '\\') : behind = b := by
  obtain ⟨body, content, hb, he⟩ := h
  cases hb with
  | nil => exact (List.cons.inj he).2.symm
  | plain hne =>
    cases he
    exact absurd rfl hne
  | escape =>
    cases he
    exact absurd rfl hq

/-- The string is closed before the character, at it or behind it. -/
theorem Quoted.cut {c : Char} {body content : List Char} (h : Quoted q body content)
    (he : a ++ c :: b = body ++ q :: behind) (hc : c ≠ '\\') :
    (∃ front rest, a = front ++ q :: rest ∧ behind = rest ++ c :: b) ∨
      (body = a ∧ c = q ∧ behind = b) ∨ Closes q b behind := by
  rcases List.append_eq_append_iff.1 he with ⟨more, rfl, hmore⟩ | ⟨more, rfl, hmore⟩
  · cases more with
    | nil =>
      cases hmore
      exact .inr (.inl ⟨List.append_nil a, rfl, rfl⟩)
    | cons d more =>
      cases hmore
      obtain ⟨content', hb⟩ := h.resume hc rfl
      exact .inr (.inr ⟨more, content', hb, rfl⟩)
  · cases more with
    | nil =>
      cases hmore
      exact .inr (.inl ⟨(List.append_nil body).symm, rfl, rfl⟩)
    | cons d more =>
      cases hmore
      exact .inl ⟨body, more, rfl, rfl⟩

theorem Closes.cut {c : Char} (h : Closes q (a ++ c :: b) behind) (hc : c ≠ '\\') :
    (∃ front rest, a = front ++ q :: rest ∧ behind = rest ++ c :: b) ∨ c = q ∨
      Closes q b behind := by
  obtain ⟨body, content, hb, he⟩ := h
  rcases hb.cut he hc with h | ⟨-, h, -⟩ | h
  · exact .inl h
  · exact .inr (.inl h)
  · exact .inr (.inr h)

end Closes

/-- A bracket that closes comes first, behind a gap or at once. -/
def ClosesBracket (cs : List Char) : Prop :=
  ∃ gap rest, (∀ c ∈ gap, isGap c = true) ∧ cs = gap ++ ']' :: rest

theorem ClosesBracket.isGap {a b : List Char} (h : ClosesBracket (a ++ ']' :: b)) (ha : ']' ∉ a) :
    ∀ c ∈ a, isGap c = true := by
  obtain ⟨gap, rest, hgap, he⟩ := h
  rcases List.append_eq_append_iff.1 he with ⟨more, rfl, -⟩ | ⟨more, rfl, hmore⟩
  · exact (List.forall_mem_append.1 hgap).1
  · cases more with
    | nil =>
      rw [List.append_nil]
      exact hgap
    | cons c more =>
      cases hmore
      exact absurd (List.mem_append_right gap List.mem_cons_self) ha

end Token

end LineTemplate
