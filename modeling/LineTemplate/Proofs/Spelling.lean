import LineTemplate.Token.Scan

/-!
# How tokens are spelled

The token patterns, written down without a scanner: `Spells kind slice literal` holds when the
characters `slice` are a token of the kind `kind` with the literal `literal`. `extent` finds the
longest piece that is spelled so at the front of a line.
-/

namespace LineTemplate.Token

/-! ### Patterns -/

def IsQuote (c : Char) : Prop := c = '\'' ∨ c = '"'

/-- What an escape stands for; one that has no meaning stands for itself. -/
def escaped (c : Char) : List Char :=
  if c = 'n' then ['\n']
  else if c = 't' then ['\t']
  else if c = 'r' then ['\r']
  else if c = '\'' ∨ c = '"' ∨ c = '\\' then [c]
  else ['\\', c]

/-- Between two quotes `q` the first characters stand for the second ones. -/
inductive Quoted (q : Char) : List Char → List Char → Prop
  | nil : Quoted q [] []
  | plain {c : Char} {body content : List Char} :
      c ≠ q → c ≠ '\\' → Quoted q body content → Quoted q (c :: body) (c :: content)
  | escape {c : Char} {body content : List Char} :
      Quoted q body content → Quoted q ('\\' :: c :: body) (escaped c ++ content)

def IsNumeral (ds : List Char) : Prop := ds ≠ [] ∧ ∀ d ∈ ds, d.isDigit = true

def IsFraction (cs : List Char) : Prop := cs = [] ∨ ∃ ds, IsNumeral ds ∧ cs = '.' :: ds

def symbols : List (Kind × List Char) :=
  [(.colon, [':']), (.comma, [',']), (.dot, ['.']), (.leftBracket, ['[']), (.rightBracket, [']']),
    (.leftParen, ['(']), (.rightParen, [')']), (.pipe, ['|']), (.and, ['&', '&']),
    (.or, ['|', '|']), (.not, ['!']), (.comparison .eq, ['=', '=']), (.comparison .eq, ['=']),
    (.comparison .notEq, ['!', '=']), (.comparison .notEq, ['<', '>']),
    (.comparison .gtEq, ['>', '=']), (.comparison .ltEq, ['<', '=']), (.comparison .gt, ['>']),
    (.comparison .lt, ['<']), (.comparison .find, ['~']), (.comparison .notFind, ['!', '~']),
    (.comparison .full, ['@']), (.comparison .notFull, ['!', '@'])]

def throwWord : List Char := ['t', 'h', 'r', 'o', 'w']

/-- A slice of a line, its kind and its literal. -/
inductive Spells : Kind → List Char → List Char → Prop
  | directive (d : Directive) : Spells (.directive d) ('#' :: d.word.toList) ('#' :: d.word.toList)
  /-- A word behind the sigil that is none of the directives. -/
  | stranger {c : Char} {rest : List Char} :
      c.isAlpha = true → (∀ d ∈ rest, isWordPart d = true) →
      (∀ d : Directive, d.word.toList ≠ c :: rest) →
      Spells .unknown ('#' :: c :: rest) ('#' :: c :: rest)
  | throw : Spells .throw throwWord throwWord
  | name {c : Char} {rest : List Char} :
      isNameStart c = true → (∀ d ∈ rest, isNamePart d = true) → c :: rest ≠ throwWord →
      Spells .identifier (c :: rest) (c :: rest)
  | number {ds fraction : List Char} : IsNumeral ds → IsFraction fraction →
      Spells .number (ds ++ fraction) (ds ++ fraction)
  | negative {ds fraction : List Char} : IsNumeral ds → IsFraction fraction →
      Spells .number ('-' :: (ds ++ fraction)) ('-' :: (ds ++ fraction))
  | string {q : Char} {body content : List Char} : IsQuote q → Quoted q body content →
      Spells .string (q :: (body ++ [q])) content
  | symbol {kind : Kind} {slice : List Char} : (kind, slice) ∈ symbols → Spells kind slice slice

/-! ### Runs of characters -/

section Run

variable {p : Char → Bool} {w more : List Char}

theorem run_append (hw : ∀ c ∈ w, p c = true) : run p (w ++ more) = w.length + run p more := by
  simp only [run, List.takeWhile_append_of_pos hw, List.length_append]

theorem run_eq_zero (h : ∀ c ∈ more.head?, p c = false) : run p more = 0 := by
  cases more with
  | nil => rfl
  | cons c rest => simp [run, h c rfl]

theorem run_of_all (hw : ∀ c ∈ w, p c = true) (h : ∀ c ∈ more.head?, p c = false) :
    run p (w ++ more) = w.length := by
  rw [run_append hw, run_eq_zero h, Nat.add_zero]

theorem exists_run (p : Char → Bool) (cs : List Char) :
    ∃ w more, cs = w ++ more ∧ (∀ c ∈ w, p c = true) ∧ ∀ c ∈ more.head?, p c = false := by
  refine ⟨cs.takeWhile p, cs.dropWhile p, List.takeWhile_append_dropWhile.symm, ?_, ?_⟩
  · exact fun c hc => List.all_eq_true.1 List.all_takeWhile c hc
  · intro c hc
    have hnot := List.head?_dropWhile_not p cs
    rw [hc] at hnot
    simpa using hnot

theorem dropWhile_append_of_all (hw : ∀ c ∈ w, p c = true) (h : ∀ c ∈ more.head?, p c = false) :
    (w ++ more).dropWhile p = more := by
  rw [List.dropWhile_append_of_pos hw]
  cases more with
  | nil => rfl
  | cons c rest => simp [h c rfl]

theorem takeWhile_append_of_all (hw : ∀ c ∈ w, p c = true) (h : ∀ c ∈ more.head?, p c = false) :
    (w ++ more).takeWhile p = w := by
  rw [List.takeWhile_append_of_pos hw]
  cases more with
  | nil => exact List.append_nil w
  | cons c rest => simp [h c rfl]

end Run

/-! ### Numbers -/

theorem numberLength_append {ds fraction more : List Char} (hd : ∀ d ∈ ds, d.isDigit = true)
    (hf : IsFraction fraction) :
    ds.length + fraction.length ≤ numberLength (ds ++ (fraction ++ more)) := by
  rcases hf with rfl | ⟨es, ⟨hne, he⟩, rfl⟩
  · rw [List.nil_append, numberLength, run_append hd, List.length_nil]
    omega
  · obtain ⟨e, es, rfl⟩ := List.exists_cons_of_ne_nil hne
    obtain ⟨he, hes⟩ := List.forall_mem_cons.1 he
    have hpoint : ∀ c ∈ ('.' :: (e :: es) ++ more).head?, c.isDigit = false := by
      rintro c ⟨⟩
      decide
    rw [numberLength, run_of_all hd hpoint, dropWhile_append_of_all hd hpoint]
    simp only [List.cons_append, fractionLength, he, if_true, run_append hes, List.length_cons]
    omega

theorem fractionLength_of_ne {more : List Char} (h : ∀ c ∈ more.head?, c ≠ '.') :
    fractionLength more = 0 := by
  cases more with
  | nil => rfl
  | cons c rest =>
    have hc := h c rfl
    unfold fractionLength
    split
    · next heq => exact absurd (List.cons.inj heq).1 hc
    · rfl

theorem exists_of_fractionLength {more : List Char} (h : fractionLength more ≠ 0) :
    ∃ e rest, more = '.' :: e :: rest ∧ e.isDigit = true := by
  unfold fractionLength at h
  split at h
  · next e rest =>
    split at h
    · next he => exact ⟨e, rest, rfl, he⟩
    · exact absurd rfl h
  · exact absurd rfl h

theorem numberLength_of_stop {ds fraction more : List Char} (hd : ∀ d ∈ ds, d.isDigit = true)
    (hf : IsFraction fraction) (h : ∀ c ∈ more.head?, c.isDigit = false)
    (hn : fraction = [] → fractionLength more = 0) :
    numberLength (ds ++ (fraction ++ more)) = ds.length + fraction.length := by
  rcases hf with rfl | ⟨es, ⟨hne, he⟩, rfl⟩
  · rw [List.nil_append, numberLength, run_of_all hd h, dropWhile_append_of_all hd h, hn rfl,
      List.length_nil]
  · obtain ⟨e, es, rfl⟩ := List.exists_cons_of_ne_nil hne
    obtain ⟨he, hes⟩ := List.forall_mem_cons.1 he
    have hpoint : ∀ c ∈ ('.' :: (e :: es) ++ more).head?, c.isDigit = false := by
      rintro c ⟨⟩
      decide
    rw [numberLength, run_of_all hd hpoint, dropWhile_append_of_all hd hpoint]
    simp only [List.cons_append, fractionLength, he, if_true, run_of_all hes h, List.length_cons]
    omega

theorem exists_number (cs : List Char) :
    ∃ ds fraction more, cs = ds ++ (fraction ++ more) ∧ (∀ d ∈ ds, d.isDigit = true) ∧
      IsFraction fraction ∧ numberLength cs = ds.length + fraction.length ∧
      (startsWith Char.isDigit cs = true → ds ≠ []) := by
  obtain ⟨ds, after, rfl, hd, hstop⟩ := exists_run Char.isDigit cs
  have hne : startsWith Char.isDigit (ds ++ after) = true → ds ≠ [] := by
    rintro h rfl
    cases after with
    | nil => cases h
    | cons c rest => exact absurd h (by simp [startsWith, hstop c rfl])
  have hlength : numberLength (ds ++ after) = ds.length + fractionLength after := by
    rw [numberLength, run_of_all hd hstop, dropWhile_append_of_all hd hstop]
  -- a point belongs to the number only if a digit follows it
  by_cases hf : ∃ c rest, after = '.' :: c :: rest ∧ c.isDigit = true
  · obtain ⟨c, rest, rfl, hc⟩ := hf
    obtain ⟨es, more, rfl, hes, hmore⟩ := exists_run Char.isDigit rest
    refine ⟨ds, '.' :: c :: es, more, rfl, hd, .inr ⟨c :: es, ⟨List.cons_ne_nil c es, ?_⟩, rfl⟩,
      ?_, hne⟩
    · exact List.forall_mem_cons.2 ⟨hc, hes⟩
    · rw [hlength, fractionLength, if_pos hc, run_of_all hes hmore, List.length_cons,
        List.length_cons]
      omega
  · refine ⟨ds, [], after, rfl, hd, .inl rfl, ?_, hne⟩
    have hzero : fractionLength after = 0 := by
      unfold fractionLength
      split
      · next c rest =>
        have hc : c.isDigit = false := by
          rw [← Bool.not_eq_true]
          exact fun hc => hf ⟨c, rest, rfl, hc⟩
        rw [hc]
        rfl
      · rfl
    rw [hlength, hzero, List.length_nil]

/-! ### Strings -/

theorem IsQuote.ne_escape {q : Char} (h : IsQuote q) : q ≠ '\\' := by
  rcases h with rfl | rfl <;> decide

theorem quotedLength_cons_self (q : Char) (rest : List Char) :
    quotedLength q (q :: rest) = (true, 1) := by
  cases rest <;> simp only [quotedLength, if_true]

theorem quotedLength_plain {q c : Char} (hc : c ≠ q) (he : c ≠ '\\') (rest : List Char) :
    quotedLength q (c :: rest) = ((quotedLength q rest).1, (quotedLength q rest).2 + 1) := by
  cases rest <;> simp only [quotedLength, hc, he, if_false]

theorem quotedLength_append {q : Char} (hq : q ≠ '\\') {body content : List Char}
    (h : Quoted q body content) (more : List Char) :
    quotedLength q (body ++ more) =
      ((quotedLength q more).1, (quotedLength q more).2 + body.length) := by
  induction h with
  | nil => rfl
  | plain hc he _ ih =>
    rw [List.cons_append, quotedLength_plain hc he, ih, List.length_cons, Nat.add_assoc]
  | escape _ ih =>
    simp only [List.cons_append, quotedLength, hq.symm, if_false, if_true, ih, List.length_cons]
    rw [Nat.add_assoc]

theorem quotedLength_closed {q : Char} (hq : q ≠ '\\') {body content : List Char}
    (h : Quoted q body content) (more : List Char) :
    quotedLength q (body ++ q :: more) = (true, body.length + 1) := by
  rw [quotedLength_append hq h, quotedLength_cons_self, Nat.add_comm]

theorem quotedLength_open {q : Char} (hq : q ≠ '\\') {body content more : List Char}
    (h : Quoted q body content) (hm : more = [] ∨ more = ['\\']) :
    quotedLength q (body ++ more) = (false, body.length) := by
  rw [quotedLength_append hq h]
  rcases hm with rfl | rfl
  · simp only [quotedLength, Nat.zero_add]
  · simp only [quotedLength, hq.symm, if_false, if_true, Nat.zero_add]

/-- What follows a quote is closed by another one, or runs up to the end of the line. -/
theorem exists_quoted (q : Char) (cs : List Char) :
    ∃ body content more, cs = body ++ more ∧ Quoted q body content ∧
      (more.head? = some q ∨ more = [] ∨ more = ['\\']) := by
  fun_induction quotedLength q cs with
  | case1 => exact ⟨[], [], [], rfl, .nil, .inr (.inl rfl)⟩
  | case2 rest => exact ⟨[], [], q :: rest, rfl, .nil, .inl rfl⟩
  | case3 h => exact ⟨[], [], ['\\'], rfl, .nil, .inr (.inr rfl)⟩
  | case4 c rest closed n _ _ ih =>
    obtain ⟨body, content, more, rfl, hb, hm⟩ := ih
    exact ⟨'\\' :: c :: body, _, more, rfl, .escape hb, hm⟩
  | case5 c rest hc he closed n _ ih =>
    obtain ⟨body, content, more, rfl, hb, hm⟩ := ih
    exact ⟨c :: body, _, more, rfl, .plain hc he hb, hm⟩

theorem unescape_escape (c : Char) (rest : List Char) :
    unescape ('\\' :: c :: rest) = escaped c ++ unescape rest := by
  rw [unescape.eq_def]
  simp only
  split <;> simp_all [escaped]

theorem unescape_of_quoted {q : Char} {body content : List Char} (h : Quoted q body content) :
    unescape body = content := by
  induction h with
  | nil => rfl
  | @plain c body content _ he _ ih =>
    cases body with
    | nil =>
      rw [unescape]
      · rw [ih]
      · simp
    | cons d body =>
      rw [unescape]
      · rw [ih]
      · rintro _ _ rfl
        exact absurd rfl he
  | escape _ ih => rw [unescape_escape, ih]

/-! ### Words and names -/

theorem isWordPart_of_isAlpha {c : Char} (h : c.isAlpha = true) : isWordPart c = true := by
  simp [isWordPart, Char.isAlphanum, h]

theorem directive_word (d : Directive) : ∃ c rest, d.word.toList = c :: rest ∧
    c.isAlpha = true ∧ ∀ a ∈ rest, isWordPart a = true := by
  cases d <;> exact ⟨_, _, rfl, by decide, List.all_eq_true.1 (by decide)⟩

theorem directiveKind_word (d : Directive) : directiveKind d.word.toList = .directive d := by
  rw [directiveKind, String.ofList_toList, Directive.ofWord?_word]

theorem spells_word {c : Char} {rest : List Char} (hc : c.isAlpha = true)
    (hr : ∀ d ∈ rest, isWordPart d = true) :
    Spells (directiveKind (c :: rest)) ('#' :: c :: rest) ('#' :: c :: rest) := by
  cases hw : Directive.ofWord? (String.ofList (c :: rest)) with
  | none =>
    have hk : directiveKind (c :: rest) = .unknown := by rw [directiveKind, hw]
    rw [hk]
    refine .stranger hc hr fun d hd => ?_
    rw [← hd, String.ofList_toList, Directive.ofWord?_word] at hw
    cases hw
  | some d =>
    have hk : directiveKind (c :: rest) = .directive d := by rw [directiveKind, hw]
    have hd : d.word.toList = c :: rest := by
      rw [Directive.word_of_ofWord? hw, String.toList_ofList]
    rw [hk, ← hd]
    exact .directive d

theorem spells_name {c : Char} {rest : List Char} (hc : isNameStart c = true)
    (hr : ∀ d ∈ rest, isNamePart d = true) :
    Spells (nameKind (c :: rest)) (c :: rest) (c :: rest) := by
  unfold nameKind
  split
  · next h =>
    rw [h]
    exact .throw
  · next h => exact .name hc hr h

/-! ### The first character -/

inductive SpellsFrom (c : Char) (rest : List Char) : Kind → List Char → Prop
  | word {a : Char} {w : List Char} : c = '#' → rest = a :: w → a.isAlpha = true →
      (∀ d ∈ w, isWordPart d = true) → SpellsFrom c rest (directiveKind rest) (c :: rest)
  | name : isNameStart c = true → (∀ d ∈ rest, isNamePart d = true) →
      SpellsFrom c rest (nameKind (c :: rest)) (c :: rest)
  | number {ds fraction : List Char} : c.isDigit = true ∨ c = '-' ∧ ds ≠ [] →
      (∀ d ∈ ds, d.isDigit = true) → IsFraction fraction → rest = ds ++ fraction →
      SpellsFrom c rest .number (c :: rest)
  | string {body content : List Char} : IsQuote c → Quoted c body content → rest = body ++ [c] →
      SpellsFrom c rest .string content
  | symbol {kind : Kind} : (kind, c :: rest) ∈ symbols → SpellsFrom c rest kind (c :: rest)

theorem Spells.first {kind : Kind} {slice literal : List Char} (h : Spells kind slice literal) :
    ∃ c rest, slice = c :: rest ∧ SpellsFrom c rest kind literal := by
  cases h with
  | directive d =>
    obtain ⟨a, w, hd, ha, hw⟩ := directive_word d
    refine ⟨'#', d.word.toList, rfl, ?_⟩
    rw [← directiveKind_word d]
    exact .word rfl hd ha hw
  | @stranger a w ha hw hne =>
    have hk : directiveKind (a :: w) = .unknown := by
      cases ho : Directive.ofWord? (String.ofList (a :: w)) with
      | none => rw [directiveKind, ho]
      | some d =>
        have hd := congrArg String.toList (Directive.word_of_ofWord? ho)
        rw [String.toList_ofList] at hd
        exact absurd hd (hne d)
    refine ⟨'#', a :: w, rfl, ?_⟩
    rw [← hk]
    exact .word rfl rfl ha hw
  | throw => exact ⟨'t', _, rfl, .name (by decide) (List.all_eq_true.1 (by decide))⟩
  | @name c rest hc hr hne =>
    have hk : nameKind (c :: rest) = .identifier := if_neg hne
    refine ⟨c, rest, rfl, ?_⟩
    rw [← hk]
    exact .name hc hr
  | @number ds fraction hd hf =>
    obtain ⟨d, ds, rfl⟩ := List.exists_cons_of_ne_nil hd.1
    obtain ⟨hd, hds⟩ := List.forall_mem_cons.1 hd.2
    exact ⟨d, ds ++ fraction, rfl, .number (.inl hd) hds hf rfl⟩
  | @negative ds fraction hd hf =>
    exact ⟨'-', ds ++ fraction, rfl, .number (.inr ⟨rfl, hd.1⟩) hd.2 hf rfl⟩
  | @string q body content hq hb => exact ⟨q, body ++ [q], rfl, .string hq hb rfl⟩
  | symbol h =>
    have hne : ∀ entry ∈ symbols, entry.2 ≠ [] := by decide
    obtain ⟨c, rest, rfl⟩ := List.exists_cons_of_ne_nil (hne _ h)
    exact ⟨c, rest, rfl, .symbol h⟩

/-- The character begins neither a word, nor a name, nor a number, nor a string. -/
def isOther (c : Char) : Bool :=
  c ≠ '#' && !isNameStart c && !c.isDigit && c ≠ '-' && c ≠ '\'' && c ≠ '"'

theorem isNameStart_of_isDigit {c : Char} (h : c.isDigit = true) : isNameStart c = false := by
  have hle : c.val.toNat ≤ 57 := of_decide_eq_true (Bool.and_eq_true_iff.1 h).2
  have hupper : ¬ c.isUpper = true := by
    intro hc
    have hlow : 65 ≤ c.val.toNat := (of_decide_eq_true hc).1
    omega
  have hlower : ¬ c.isLower = true := by
    intro hc
    have hlow : 97 ≤ c.val.toNat := of_decide_eq_true (Bool.and_eq_true_iff.1 hc).1
    omega
  have halpha : c.isAlpha = false :=
    Bool.or_eq_false_iff.2 ⟨Bool.eq_false_iff.2 hupper, Bool.eq_false_iff.2 hlower⟩
  have hne : c ≠ '_' ∧ c ≠ '$' := by
    constructor <;>
    · rintro rfl
      revert h
      decide
  simp [isNameStart, halpha, hne]

section Extent

variable {c : Char} {rest more : List Char}

theorem extent_word (h : startsWith Char.isAlpha rest = true) : extent '#' rest =
    (directiveKind (rest.take (run isWordPart rest)), run isWordPart rest) := by
  simp only [extent, if_true, h]

theorem extent_name (h : isNameStart c = true) : extent c rest =
    (nameKind (c :: rest.take (run isNamePart rest)), run isNamePart rest) := by
  have hne : c ≠ '#' := by
    rintro rfl
    revert h
    decide
  simp only [extent, hne, if_false, h, if_true]

theorem extent_number (h : c.isDigit = true ∨ c = '-' ∧ startsWith Char.isDigit rest = true) :
    extent c rest = (.number, numberLength rest) := by
  rcases h with h | ⟨rfl, h⟩
  · have hne : c ≠ '#' := by
      rintro rfl
      revert h
      decide
    simp only [extent, hne, if_false, isNameStart_of_isDigit h, h, if_true, Bool.false_eq_true]
  · have hname : isNameStart '-' = false := by decide
    have hdigit : ('-' : Char).isDigit = false := by decide
    simp [extent, hname, hdigit, h]

theorem starts_number {ds : List Char} (hc : c.isDigit = true ∨ c = '-' ∧ ds ≠ [])
    (hd : ∀ d ∈ ds, d.isDigit = true) :
    c.isDigit = true ∨ c = '-' ∧ startsWith Char.isDigit (ds ++ more) = true := by
  rcases hc with hc | ⟨hc, hne⟩
  · exact .inl hc
  · obtain ⟨d, ds, rfl⟩ := List.exists_cons_of_ne_nil hne
    exact .inr ⟨hc, hd d List.mem_cons_self⟩

theorem extent_quote (h : IsQuote c) : extent c rest =
    (if (quotedLength c rest).1 then .string else .unknown, (quotedLength c rest).2) := by
  rcases h with rfl | rfl
  · have hname : isNameStart '\'' = false := by decide
    have hdigit : ('\'' : Char).isDigit = false := by decide
    simp [extent, hname, hdigit]
  · have hname : isNameStart '"' = false := by decide
    have hdigit : ('"' : Char).isDigit = false := by decide
    simp [extent, hname, hdigit]

theorem extent_symbol (h : isOther c = true) : extent c rest = symbolExtent c rest := by
  simp only [isOther, Bool.and_eq_true, decide_eq_true_eq, Bool.not_eq_true'] at h
  obtain ⟨⟨⟨⟨⟨hhash, hname⟩, hdigit⟩, hminus⟩, hsingle⟩, hdouble⟩ := h
  simp [extent, hhash, hname, hdigit, hminus, hsingle, hdouble]

theorem isOther_of_symbol {kind : Kind} (h : (kind, c :: rest) ∈ symbols) : isOther c = true := by
  have hall : symbols.all (fun entry => entry.2.head?.all isOther) = true := by decide
  exact List.all_eq_true.1 hall _ h

theorem symbolExtent_cons (c d : Char) (more : List Char) :
    symbolExtent c (d :: more) = symbolExtent c [d] := by
  unfold symbolExtent
  split <;> first | rfl | simp_all

end Extent

theorem symbolExtent_of_mem {kind : Kind} {c : Char} {w : List Char}
    (h : (kind, c :: w) ∈ symbols) : symbolExtent c w = (kind, w.length) := by
  have hall : symbols.all (fun entry => entry.2.head?.all fun c =>
      symbolExtent c entry.2.tail = (entry.1, entry.2.tail.length)) = true := by decide
  exact of_decide_eq_true (List.all_eq_true.1 hall _ h)

/-- A symbol is the longest one that stands there, and there is none where it is unknown. -/
theorem symbolExtent_cases (c : Char) (rest : List Char) :
    (∃ w more, rest = w ++ more ∧ ((symbolExtent c rest).1, c :: w) ∈ symbols ∧
      (symbolExtent c rest).2 = w.length) ∨
    symbolExtent c rest = (.unknown, 0) ∧
      ∀ kind w, (kind, c :: w) ∈ symbols → ¬ w <+: rest := by
  unfold symbolExtent
  split
  case h_24 =>
    refine .inr ⟨rfl, fun kind w hm hp => ?_⟩
    obtain ⟨more, rfl⟩ := hp
    simp only [symbols, List.mem_cons, Prod.mk.injEq, List.cons.injEq, List.not_mem_nil,
      or_false] at hm
    grind
  all_goals
    first
    | exact .inl ⟨[], rest, rfl, by decide, rfl⟩
    | exact .inl ⟨[_], _, rfl, by decide, rfl⟩

theorem length_of_symbol {kind : Kind} {c : Char} {w : List Char} (h : (kind, c :: w) ∈ symbols) :
    w = [] ∨ ∃ d, w = [d] := by
  have hall : ∀ entry ∈ symbols, entry.2.length ≤ 2 := by decide
  have hle := hall _ h
  rcases w with - | ⟨d, - | ⟨e, w⟩⟩
  · exact .inl rfl
  · exact .inr ⟨d, rfl⟩
  · simp only [List.length_cons] at hle
    omega

/-! ### The longest token -/

/-- Characters that are a token by themselves, whatever stands behind them. -/
def brackets : List Char := [':', ',', '[', ']', '(', ')']

/-- Gaps and brackets, which no token before them goes on with. -/
def boundaries : List Char := [' ', '\t', '\r', '\x0c'] ++ brackets

theorem extent_bracket : ∀ c ∈ brackets, ∀ cs, extent c cs = extent c [] := by
  intro c hc cs
  simp only [brackets, List.mem_cons, List.not_mem_nil, or_false] at hc
  rcases hc with rfl | rfl | rfl | rfl | rfl | rfl <;> rfl

theorem symbolExtent_boundary {kind : Kind} {c g : Char} (h : (kind, [c]) ∈ symbols)
    (hg : g ∈ boundaries) : symbolExtent c [g] = symbolExtent c [] := by
  have hall : symbols.all (fun entry => entry.2.head?.all fun c =>
      boundaries.all fun g => symbolExtent c [g] = symbolExtent c []) = true := by decide
  exact of_decide_eq_true (List.all_eq_true.1 (List.all_eq_true.1 hall _ h) g hg)

section Longest

variable {c : Char} {rest more literal : List Char} {kind : Kind}

/-- No token that begins here is longer than what the scanner takes. -/
theorem SpellsFrom.length_le (h : SpellsFrom c rest kind literal) (more : List Char) :
    rest.length ≤ (extent c (rest ++ more)).2 := by
  cases h with
  | @word a w hc hr ha hw =>
    subst hc hr
    have hall : ∀ d ∈ a :: w, isWordPart d = true :=
      List.forall_mem_cons.2 ⟨isWordPart_of_isAlpha ha, hw⟩
    rw [extent_word (by exact ha), run_append hall]
    exact Nat.le_add_right _ _
  | name hc hr =>
    rw [extent_name hc, run_append hr]
    exact Nat.le_add_right _ _
  | @number ds fraction hc hd hf hr =>
    subst hr
    rw [List.append_assoc, extent_number (starts_number hc hd), List.length_append]
    exact numberLength_append hd hf
  | @string body content hq hb hr =>
    subst hr
    rw [extent_quote hq, List.append_assoc, List.singleton_append,
      quotedLength_closed hq.ne_escape hb]
    exact Nat.le_of_eq List.length_append
  | symbol hm =>
    rw [extent_symbol (isOther_of_symbol hm)]
    rcases length_of_symbol hm with rfl | ⟨d, rfl⟩
    · exact Nat.zero_le _
    · have hone : symbolExtent c ([d] ++ more) = (kind, 1) := by
        rw [List.singleton_append, symbolExtent_cons]
        exact symbolExtent_of_mem hm
      exact Nat.le_of_eq (congrArg Prod.snd hone).symm

/-- A token in front of a gap or of a bracket is taken as it is. -/
theorem SpellsFrom.extent_eq (h : SpellsFrom c rest kind literal)
    (hm : ∀ g ∈ more.head?, g ∈ boundaries) : extent c (rest ++ more) = (kind, rest.length) := by
  have hstop : ∀ p : Char → Bool, boundaries.all (fun g => !p g) = true →
      ∀ g ∈ more.head?, p g = false := by
    intro p hp g hg
    simpa using List.all_eq_true.1 hp g (hm g hg)
  cases h with
  | @word a w hc hr ha hw =>
    subst hc hr
    have hall : ∀ d ∈ a :: w, isWordPart d = true :=
      List.forall_mem_cons.2 ⟨isWordPart_of_isAlpha ha, hw⟩
    have hrun := run_of_all hall (hstop isWordPart (by decide))
    rw [extent_word (by exact ha), hrun, List.take_left]
  | name hc hr =>
    have hrun := run_of_all hr (hstop isNamePart (by decide))
    rw [extent_name hc, hrun, List.take_left]
  | @number ds fraction hc hd hf hr =>
    subst hr
    have hdigit := hstop Char.isDigit (by decide)
    have hpoint : fraction = [] → fractionLength more = 0 := fun _ =>
      fractionLength_of_ne fun g hg => of_decide_eq_false (hstop (· = '.') (by decide) g hg)
    rw [List.append_assoc, extent_number (starts_number hc hd),
      numberLength_of_stop hd hf hdigit hpoint, List.length_append]
  | @string body content hq hb hr =>
    subst hr
    rw [extent_quote hq, List.append_assoc, List.singleton_append,
      quotedLength_closed hq.ne_escape hb, List.length_append, List.length_singleton, if_pos rfl]
  | symbol hs =>
    rw [extent_symbol (isOther_of_symbol hs)]
    rcases length_of_symbol hs with rfl | ⟨d, rfl⟩
    · cases more with
      | nil => exact symbolExtent_of_mem hs
      | cons g after =>
        rw [List.nil_append, symbolExtent_cons, symbolExtent_boundary hs (hm g rfl)]
        exact symbolExtent_of_mem hs
    · rw [List.singleton_append, symbolExtent_cons]
      exact symbolExtent_of_mem hs

end Longest

end LineTemplate.Token
