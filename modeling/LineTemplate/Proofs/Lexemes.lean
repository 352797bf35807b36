import LineTemplate.Proofs.Lines
import LineTemplate.Proofs.Spelling

/-!
# The tokens of a text

What the lines of a text fall into, written down without a scanner: `Lexes` cuts a directive line
into tokens with gaps between them, each one the longest that is spelled at its place, and
`Line.Lexed` gives the tokens of any line. `scan` and `tokenize` find these tokens and no others.
-/

namespace LineTemplate

namespace Token

/-- In front of `after` stands the longest piece that is spelled as some token, or what the
scanner makes of a place where none is spelled. -/
inductive Takes : Kind → List Char → List Char → List Char → Prop
  | longest {kind : Kind} {slice literal after : List Char} : Spells kind slice literal →
      (∀ k p l, Spells k p l → p <+: slice ++ after → p.length ≤ slice.length) →
      Takes kind slice literal after
  | unclosed {q : Char} {body content after : List Char} :
      IsQuote q → Quoted q body content → after = [] ∨ after = ['\\'] →
      (∀ k p l, Spells k p l → ¬ p <+: q :: (body ++ after)) →
      Takes .unknown (q :: body) (q :: body) after
  | single {c : Char} {after : List Char} : isGap c = false → ¬ IsQuote c →
      (∀ k p l, Spells k p l → ¬ p <+: c :: after) → Takes .unknown [c] [c] after

theorem Spells.literal_eq {kind : Kind} {slice literal : List Char}
    (h : Spells kind slice literal) :
    literal = if kind = .string then unescape (inner slice) else slice := by
  cases h with
  | string hq hb =>
    rw [if_pos rfl, inner, List.tail_cons, List.dropLast_concat, unescape_of_quoted hb]
  | symbol hm =>
    have hall : ∀ entry ∈ symbols, entry.1 ≠ .string := by decide
    rw [if_neg (hall _ hm)]
  | directive | stranger | throw | name | number | negative => rw [if_neg (by simp)]

theorem Takes.literal_eq {kind : Kind} {slice literal after : List Char}
    (h : Takes kind slice literal after) :
    literal = if kind = .string then unescape (inner slice) else slice := by
  cases h with
  | longest hs _ => exact hs.literal_eq
  | unclosed | single => rw [if_neg (by simp)]

theorem isGap_iff {c : Char} : isGap c = true ↔ c = ' ' ∨ c = '\t' ∨ c = '\r' ∨ c = '\x0c' := by
  simp [isGap, or_assoc]

theorem SpellsFrom.not_gap {c : Char} {rest literal : List Char} {kind : Kind}
    (h : SpellsFrom c rest kind literal) : isGap c = false := by
  rw [← Bool.not_eq_true]
  intro hg
  have hc := isGap_iff.1 hg
  cases h with
  | word hhash => subst hhash; revert hg; decide
  | name hn => rcases hc with rfl | rfl | rfl | rfl <;> revert hn <;> decide
  | number hd =>
    rcases hd with hd | ⟨rfl, -⟩
    · rcases hc with rfl | rfl | rfl | rfl <;> revert hd <;> decide
    · revert hg; decide
  | string hq =>
    rcases hq with rfl | rfl <;> revert hg <;> decide
  | symbol hm =>
    have hall : symbols.all (fun entry => entry.2.head?.all fun c => !isGap c) = true := by decide
    have hnot : (!isGap c) = true := List.all_eq_true.1 hall _ hm
    rw [hg] at hnot
    cases hnot

theorem SpellsFrom.spells {c : Char} {rest literal : List Char} {kind : Kind}
    (h : SpellsFrom c rest kind literal) : Spells kind (c :: rest) literal := by
  cases h with
  | word hc hr ha hw =>
    subst hc hr
    exact spells_word ha hw
  | name hc hr => exact spells_name hc hr
  | @number ds fraction hc hd hf hr =>
    subst hr
    rcases hc with hc | ⟨rfl, hne⟩
    · have hds : IsNumeral (c :: ds) := ⟨List.cons_ne_nil c ds, List.forall_mem_cons.2 ⟨hc, hd⟩⟩
      exact .number hds hf
    · exact .negative ⟨hne, hd⟩ hf
  | string hq hb hr =>
    subst hr
    exact .string hq hb
  | symbol hm => exact .symbol hm

theorem spells_cons {c : Char} {rest literal : List Char} {kind : Kind} :
    Spells kind (c :: rest) literal ↔ SpellsFrom c rest kind literal := by
  refine ⟨fun h => ?_, fun h => h.spells⟩
  obtain ⟨d, w, he, hf⟩ := h.first
  cases he
  exact hf

theorem isOther_eq_true {c : Char} : isOther c = true ↔ c ≠ '#' ∧ isNameStart c = false ∧
    c.isDigit = false ∧ c ≠ '-' ∧ ¬ IsQuote c := by
  simp [isOther, IsQuote, and_assoc]

section Takes

variable {c : Char} {rest : List Char}

theorem not_spelled (hname : isNameStart c = false) (hdigit : c.isDigit = false)
    (hword : c = '#' → startsWith Char.isAlpha rest = false)
    (hminus : c = '-' → startsWith Char.isDigit rest = false)
    (hquote : IsQuote c → (quotedLength c rest).1 = false)
    (hsymbol : ∀ kind w, (kind, c :: w) ∈ symbols → ¬ w <+: rest) :
    ∀ k p l, Spells k p l → ¬ p <+: c :: rest := by
  intro k p l hp hpre
  obtain ⟨d, w, rfl, h⟩ := hp.first
  obtain ⟨rfl, hw⟩ := List.cons_prefix_cons.1 hpre
  obtain ⟨more, rfl⟩ := id hw
  cases h with
  | word hc hr ha =>
    subst hr
    have hfalse := hword hc
    rw [List.cons_append, startsWith, ha] at hfalse
    cases hfalse
  | name hc =>
    rw [hname] at hc
    cases hc
  | @number ds fraction hc hds hf hr =>
    rcases hc with hc | ⟨hc, hne⟩
    · rw [hdigit] at hc
      cases hc
    · obtain ⟨d, ds, rfl⟩ := List.exists_cons_of_ne_nil hne
      subst hr
      have hfalse := hminus hc
      rw [List.cons_append, List.cons_append, startsWith, hds d List.mem_cons_self] at hfalse
      cases hfalse
  | string hq hb hr =>
    subst hr
    have hfalse := hquote hq
    rw [List.append_assoc, List.singleton_append, quotedLength_closed hq.ne_escape hb] at hfalse
    cases hfalse
  | symbol hm => exact hsymbol _ _ hm hw

theorem takes_of_spells {w more literal : List Char} {kind : Kind}
    (he : extent c (w ++ more) = (kind, w.length)) (hs : SpellsFrom c w kind literal) :
    Takes kind (c :: w) literal more := by
  refine .longest hs.spells fun k p l hp hpre => ?_
  obtain ⟨d, v, rfl, hv⟩ := hp.first
  obtain ⟨rfl, more', hmore⟩ := List.cons_prefix_cons.1 hpre
  have hle := hv.length_le more'
  rw [hmore, List.append_eq, he] at hle
  exact Nat.succ_le_succ hle

/-- What the scanner takes where a token begins with `c` is the longest token, if there is one. -/
def TakesLongest (c : Char) (rest : List Char) : Prop :=
  ∃ kind w more literal, rest = w ++ more ∧ extent c rest = (kind, w.length) ∧
    Takes kind (c :: w) literal more

theorem takesLongest_single (hc : isGap c = false) (hq : ¬ IsQuote c)
    (he : extent c rest = (.unknown, 0)) (hn : ∀ k p l, Spells k p l → ¬ p <+: c :: rest) :
    TakesLongest c rest := ⟨_, [], rest, _, rfl, he, .single hc hq hn⟩

theorem takesLongest_sigil (rest : List Char) : TakesLongest '#' rest := by
  cases hs : startsWith Char.isAlpha rest with
  | true =>
    have he := extent_word hs
    obtain ⟨w, more, rfl, hw, hstop⟩ := exists_run isWordPart rest
    rw [run_of_all hw hstop, List.take_left] at he
    obtain ⟨a, v, rfl⟩ : ∃ a v, w = a :: v := by
      cases w with
      | cons a v => exact ⟨a, v, rfl⟩
      | nil =>
        cases more with
        | nil => cases hs
        | cons d more =>
          have hd := hstop d rfl
          rw [isWordPart, Char.isAlphanum, show d.isAlpha = true from hs] at hd
          cases hd
    have hfrom := SpellsFrom.word (c := '#') rfl rfl hs (List.forall_mem_cons.1 hw).2
    exact ⟨_, a :: v, more, _, rfl, he, takes_of_spells he hfrom⟩
  | false =>
    have he : extent '#' rest = (.unknown, 0) := by
      simp only [extent, if_true, hs, Bool.false_eq_true, if_false]
    refine takesLongest_single (by decide) (by simp [IsQuote]) he ?_
    refine not_spelled (by decide) (by decide) (fun _ => hs) (by simp) (by simp [IsQuote]) ?_
    intro kind w hm
    exact absurd (isOther_of_symbol hm) (by decide)

theorem takesLongest_name (h : isNameStart c = true) (rest : List Char) : TakesLongest c rest := by
  have he : extent c rest = (nameKind (c :: rest.take (run isNamePart rest)),
      run isNamePart rest) := extent_name h
  obtain ⟨w, more, rfl, hw, hstop⟩ := exists_run isNamePart rest
  rw [run_of_all hw hstop, List.take_left] at he
  exact ⟨_, w, more, _, rfl, he, takes_of_spells he (.name h hw)⟩

theorem takesLongest_number (h : c.isDigit = true ∨ c = '-' ∧ startsWith Char.isDigit rest = true) :
    TakesLongest c rest := by
  have he := extent_number h
  obtain ⟨ds, fraction, more, rfl, hds, hf, hn, hne⟩ := exists_number rest
  rw [← List.append_assoc] at he hn h hne ⊢
  rw [hn, ← List.length_append] at he
  have hfrom := SpellsFrom.number (h.imp_right fun h => ⟨h.1, hne h.2⟩) hds hf rfl
  exact ⟨_, ds ++ fraction, more, _, rfl, he, takes_of_spells he hfrom⟩

theorem takesLongest_sign (h : startsWith Char.isDigit rest = false) : TakesLongest '-' rest := by
  have he : extent '-' rest = (.unknown, 0) := by
    have hname : isNameStart '-' = false := by decide
    have hdigit : ('-' : Char).isDigit = false := by decide
    simp [extent, hname, hdigit, h]
  refine takesLongest_single (by decide) (by simp [IsQuote]) he ?_
  refine not_spelled (by decide) (by decide) (by simp) (fun _ => h) (by simp [IsQuote]) ?_
  intro kind w hm
  exact absurd (isOther_of_symbol hm) (by decide)

theorem takesLongest_quote (h : IsQuote c) (rest : List Char) : TakesLongest c rest := by
  have he : extent c rest = (if (quotedLength c rest).1 then .string else .unknown,
      (quotedLength c rest).2) := extent_quote h
  obtain ⟨body, content, more, rfl, hb, hm⟩ := exists_quoted c rest
  rcases hm with hm | hm
  · obtain ⟨after, rfl⟩ : ∃ after, more = c :: after := List.head?_eq_some_iff.1 hm
    rw [quotedLength_closed h.ne_escape hb, if_pos rfl] at he
    have hsplit : body ++ c :: after = (body ++ [c]) ++ after := by
      rw [List.append_assoc, List.singleton_append]
    have hlength : body.length + 1 = (body ++ [c]).length := by
      rw [List.length_append, List.length_singleton]
    rw [hsplit, hlength] at he
    rw [hsplit]
    exact ⟨_, body ++ [c], after, _, rfl, he, takes_of_spells he (.string h hb rfl)⟩
  · have hopen := quotedLength_open h.ne_escape hb hm
    rw [hopen, if_neg (by simp)] at he
    have hfirst : isNameStart c = false ∧ c.isDigit = false ∧ c ≠ '#' ∧ c ≠ '-' := by
      rcases h with rfl | rfl <;> decide
    obtain ⟨hname, hdigit, hhash, hminus⟩ := hfirst
    refine ⟨_, body, more, _, rfl, he, .unclosed h hb hm ?_⟩
    refine not_spelled hname hdigit (fun hc => absurd hc hhash) (fun hc => absurd hc hminus)
      (fun _ => by rw [hopen]) fun kind w hs => ?_
    exact absurd h (isOther_eq_true.1 (isOther_of_symbol hs)).2.2.2.2

theorem takesLongest_other (hc : isGap c = false) (h : isOther c = true) (rest : List Char) :
    TakesLongest c rest := by
  have he : extent c rest = symbolExtent c rest := extent_symbol h
  obtain ⟨hhash, hname, hdigit, hminus, hquote⟩ := isOther_eq_true.1 h
  rcases symbolExtent_cases c rest with ⟨w, more, hr, hm, hn⟩ | ⟨hu, hnot⟩
  · have he' : extent c (w ++ more) = ((symbolExtent c rest).1, w.length) := by
      rw [← hr, he]
      exact Prod.ext rfl hn
    subst hr
    exact ⟨_, w, more, _, rfl, he', takes_of_spells he' (.symbol hm)⟩
  · refine takesLongest_single hc hquote (he.trans hu) ?_
    exact not_spelled hname hdigit (fun h => absurd h hhash) (fun h => absurd h hminus)
      (fun h => absurd h hquote) hnot

theorem takesLongest (hc : isGap c = false) (rest : List Char) : TakesLongest c rest := by
  -- the cases are those of `extent`, in their order
  by_cases hhash : c = '#'
  · rw [hhash]
    exact takesLongest_sigil rest
  by_cases hname : isNameStart c = true
  · exact takesLongest_name hname rest
  by_cases hnumber : c.isDigit = true ∨ c = '-' ∧ startsWith Char.isDigit rest = true
  · exact takesLongest_number hnumber
  by_cases hminus : c = '-'
  · rw [hminus]
    refine takesLongest_sign (Bool.eq_false_iff.2 fun h => ?_)
    exact hnumber (.inr ⟨hminus, h⟩)
  by_cases hquote : IsQuote c
  · exact takesLongest_quote hquote rest
  · refine takesLongest_other hc (isOther_eq_true.2 ⟨hhash, ?_, ?_, hminus, hquote⟩) rest
    · exact Bool.eq_false_iff.2 hname
    · exact Bool.eq_false_iff.2 fun h => hnumber (.inl h)

end Takes

/-! ### One way to take it -/

theorem SpellsFrom.kind_unique {c : Char} {rest l m : List Char} {kind kind' : Kind}
    (h : SpellsFrom c rest kind l) (h' : SpellsFrom c rest kind' m) : kind = kind' := by
  have he : extent c (rest ++ []) = (kind, rest.length) := h.extent_eq (by simp)
  rw [h'.extent_eq (by simp)] at he
  exact (congrArg Prod.fst he).symm

theorem Takes.first {kind : Kind} {slice literal after : List Char}
    (h : Takes kind slice literal after) : ∃ c w, slice = c :: w ∧ isGap c = false := by
  cases h with
  | longest hs =>
    obtain ⟨c, w, rfl, hf⟩ := hs.first
    exact ⟨c, w, rfl, hf.not_gap⟩
  | unclosed hq => exact ⟨_, _, rfl, by rcases hq with rfl | rfl <;> decide⟩
  | single hc => exact ⟨_, _, rfl, hc⟩

/-- A place can be taken in one way only. -/
theorem Takes.unique {c : Char} {w v l m after behind : List Char} {kind kind' : Kind}
    (h : Takes kind (c :: w) l after) (h' : Takes kind' (c :: v) m behind)
    (he : w ++ after = v ++ behind) : kind = kind' ∧ w = v := by
  generalize hs : c :: w = slice at h
  generalize hs' : c :: v = slice' at h'
  have happ : slice ++ after = slice' ++ behind := by
    rw [← hs, ← hs', List.cons_append, List.cons_append, he]
  have hpre : slice <+: slice' ++ behind := ⟨after, happ⟩
  have hpre' : slice' <+: slice ++ after := ⟨behind, happ.symm⟩
  -- both stand at the same place, so a token that is spelled there rules the other two cases out
  cases h with
  | longest hspell hlong =>
    cases h' with
    | longest hspell' hlong' =>
      have hle := hlong _ _ _ hspell' hpre'
      have hge := hlong' _ _ _ hspell hpre
      have hw : w = v := by
        have hlen : slice.length = slice'.length := Nat.le_antisymm hge hle
        have heq := List.append_inj_left happ hlen
        rw [← hs, ← hs'] at heq
        exact (List.cons.inj heq).2
      subst hs hs' hw
      exact ⟨(spells_cons.1 hspell).kind_unique (spells_cons.1 hspell'), rfl⟩
    | unclosed _ _ _ hnone => exact absurd hpre (hnone _ _ _ hspell)
    | single _ _ hnone => exact absurd hpre (hnone _ _ _ hspell)
  | @unclosed q body content after hq hb hm hnone =>
    cases h' with
    | longest hspell' _ => exact absurd hpre' (hnone _ _ _ hspell')
    | @unclosed _ body' content' _ _ hb' hm' _ =>
      cases hs
      cases hs'
      have hlen := congrArg Prod.snd (quotedLength_open hq.ne_escape hb hm)
      rw [he, quotedLength_open hq.ne_escape hb' hm'] at hlen
      exact ⟨rfl, List.append_inj_left he hlen.symm⟩
    | single _ hnq _ =>
      cases hs
      cases hs'
      exact absurd hq hnq
  | single hc hnq hnone =>
    cases h' with
    | longest hspell' _ => exact absurd hpre' (hnone _ _ _ hspell')
    | unclosed hq _ _ _ =>
      cases hs
      cases hs'
      exact absurd hq hnq
    | single =>
      cases hs
      cases hs'
      exact ⟨rfl, rfl⟩

theorem Takes.extent_eq {c : Char} {w literal after : List Char} {kind : Kind}
    (h : Takes kind (c :: w) literal after) : extent c (w ++ after) = (kind, w.length) := by
  obtain ⟨d, v, hd, hgap⟩ := h.first
  cases hd
  obtain ⟨kind', v, behind, m, hsplit, he, h'⟩ := takesLongest hgap (w ++ after)
  obtain ⟨rfl, rfl⟩ := h.unique h' hsplit
  exact he

/-! ### Lines -/

/-- From `column` on the characters fall into tokens with gaps between them: each token is taken as
it should be, and its place is that of its first character. -/
inductive Lexes (line : Nat) : Nat → List Char → List Token → Prop
  | done {column : Nat} {gap : List Char} : (∀ c ∈ gap, isGap c = true) → Lexes line column gap []
  | token {column : Nat} {gap slice literal after : List Char} {kind : Kind} {more : List Token} :
      (∀ c ∈ gap, isGap c = true) → Takes kind slice literal after →
      Lexes line (column + gap.length + slice.length) after more →
      Lexes line column (gap ++ (slice ++ after))
        (⟨kind, String.ofList literal, ⟨line, column + gap.length⟩⟩ :: more)

theorem Lexes.gap {line column : Nat} {c : Char} {cs : List Char} {ts : List Token}
    (hc : isGap c = true) (h : Lexes line (column + 1) cs ts) :
    Lexes line column (c :: cs) ts := by
  cases h with
  | done hg => exact .done (List.forall_mem_cons.2 ⟨hc, hg⟩)
  | @token _ gap slice literal after kind more hg ht hm =>
    have hcolumn : column + 1 + gap.length = column + (c :: gap).length := by
      rw [List.length_cons]
      omega
    rw [hcolumn] at hm ⊢
    exact .token (List.forall_mem_cons.2 ⟨hc, hg⟩) ht hm

theorem lexes_scan (line column : Nat) (cs : List Char) :
    Lexes line column cs ((scan column cs).map (ofLexeme line)) := by
  fun_induction scan column cs with
  | case1 column => exact .done (by simp)
  | case2 column c rest hc ih => exact ih.gap hc
  | case3 column c rest hc kind n he ih =>
    obtain ⟨kind', w, more, literal, rfl, he', ht⟩ := takesLongest (Bool.eq_false_iff.2 hc) rest
    rw [he'] at he
    cases he
    rw [List.take_left, List.drop_left, List.map_cons]
    rw [List.drop_left] at ih
    have hcolumn : column + 1 + w.length = column + ([] : List Char).length + (c :: w).length := by
      rw [List.length_nil, List.length_cons]
      omega
    rw [hcolumn] at ih ⊢
    have hnone : ∀ g ∈ ([] : List Char), isGap g = true := by simp
    have htoken := Lexes.token hnone ht ih
    rw [ht.literal_eq] at htoken
    exact htoken

theorem scan_gap {gap : List Char} (hg : ∀ c ∈ gap, isGap c = true) (column : Nat)
    (cs : List Char) : scan column (gap ++ cs) = scan (column + gap.length) cs := by
  induction gap generalizing column with
  | nil => rfl
  | cons c gap ih =>
    obtain ⟨hc, hg⟩ := List.forall_mem_cons.1 hg
    rw [List.cons_append, scan, if_pos hc, ih hg, List.length_cons]
    congr 1
    omega

theorem Lexes.scan_eq {line column : Nat} {cs : List Char} {ts : List Token}
    (h : Lexes line column cs ts) : (scan column cs).map (ofLexeme line) = ts := by
  induction h with
  | @done column gap hg =>
    have hscan := scan_gap hg column []
    rw [List.append_nil] at hscan
    rw [hscan, scan, List.map_nil]
  | @token column gap slice literal after kind more hg ht _ ih =>
    obtain ⟨c, w, rfl, hc⟩ := ht.first
    rw [scan_gap hg, List.cons_append, scan, hc, ht.extent_eq]
    simp only [Bool.false_eq_true, if_false, List.take_left, List.drop_left, List.map_cons]
    rw [List.length_cons, ← Nat.add_assoc, Nat.add_right_comm] at ih
    rw [ih, ofLexeme, ht.literal_eq]

/-- The scanner finds the tokens of a line, and no other ones are there. -/
theorem lexes_iff {line column : Nat} {cs : List Char} {ts : List Token} :
    Lexes line column cs ts ↔ (scan column cs).map (ofLexeme line) = ts := by
  refine ⟨Lexes.scan_eq, ?_⟩
  rintro rfl
  exact lexes_scan line column cs

/-- The first character of the line that is no gap is the sigil, and a letter follows it. -/
def OpensDirective (cs : List Char) : Prop :=
  ∃ gap c rest, cs = gap ++ '#' :: c :: rest ∧ (∀ g ∈ gap, isGap g = true) ∧ c.isAlpha = true

theorem isDirectiveLine_iff {cs : List Char} : isDirectiveLine cs = true ↔ OpensDirective cs := by
  constructor
  · intro h
    obtain ⟨gap, after, rfl, hgap, hstop⟩ := exists_run isGap cs
    rw [isDirectiveLine, dropWhile_append_of_all hgap hstop] at h
    split at h
    · next c rest => exact ⟨gap, c, rest, rfl, hgap, h⟩
    · cases h
  · rintro ⟨gap, c, rest, rfl, hgap, hc⟩
    have hstop : ∀ g ∈ ('#' :: c :: rest).head?, isGap g = false := by
      rintro g ⟨⟩
      decide
    rw [isDirectiveLine, dropWhile_append_of_all hgap hstop]
    exact hc

end Token

namespace Text

/-- `body` is the line without the carriage return that it may end in. -/
def LacksReturn (cs body : List Char) : Prop :=
  cs = body ++ ['\r'] ∨ cs = body ∧ body.getLast? ≠ some '\r'

theorem dropReturn_append (cs : List Char) : dropReturn (cs ++ ['\r']) = cs := by
  induction cs with
  | nil => rfl
  | cons c rest ih =>
    obtain ⟨d, more, hd⟩ := List.exists_cons_of_ne_nil (l := rest ++ ['\r']) (by simp)
    rw [hd] at ih
    rw [List.cons_append, hd, dropReturn, ih]
    simp

theorem dropReturn_of_getLast {cs : List Char} (h : cs.getLast? ≠ some '\r') :
    dropReturn cs = cs := by
  induction cs with
  | nil => rfl
  | cons c rest ih =>
    cases rest with
    | nil => exact if_neg fun hc => h (by rw [hc]; rfl)
    | cons d more =>
      rw [List.getLast?_cons_cons] at h
      rw [dropReturn, ih h]
      simp

theorem lacksReturn_iff {cs body : List Char} : LacksReturn cs body ↔ dropReturn cs = body := by
  constructor
  · rintro (rfl | ⟨rfl, h⟩)
    · exact dropReturn_append body
    · exact dropReturn_of_getLast h
  · rintro rfl
    by_cases h : cs.getLast? = some '\r'
    · obtain ⟨front, rfl⟩ := List.getLast?_eq_some_iff.1 h
      rw [dropReturn_append]
      exact .inl rfl
    · rw [dropReturn_of_getLast h]
      exact .inr ⟨rfl, h⟩

end Text

namespace Line
open Token

/-- The first of the words is the sigil with the letters behind it. -/
def OpensWith (n : Nat) (body : List Char) (words : List Token) : Prop :=
  ∃ gap c rest after kind more, body = gap ++ ('#' :: c :: rest ++ after) ∧
    (∀ g ∈ gap, isGap g = true) ∧ c.isAlpha = true ∧ (∀ d ∈ rest, isWordPart d = true) ∧
    (∀ d ∈ after.head?, isWordPart d = false) ∧
    words = ⟨kind, String.ofList ('#' :: c :: rest), ⟨n, gap.length⟩⟩ :: more

inductive Lexed (n : Nat) : List Char → List Token → Prop
  | text {cs : List Char} : ¬ OpensDirective cs → Lexed n cs [⟨.text, String.ofList cs, ⟨n, 0⟩⟩]
  | directive {cs body : List Char} {words : List Token} :
      OpensDirective cs → Text.LacksReturn cs body → Lexes n 0 body words →
      OpensWith n body words → AllWords words →
      Lexed n cs (words ++ [⟨.endOfLine, "", ⟨n, body.length⟩⟩])

theorem opensDirective_of_lacksReturn {cs body : List Char} (h : OpensDirective cs)
    (hr : Text.LacksReturn cs body) : OpensDirective body := by
  rcases hr with rfl | ⟨rfl, -⟩
  · obtain ⟨gap, c, rest, he, hgap, hc⟩ := h
    rcases rest.eq_nil_or_concat with rfl | ⟨front, d, rfl⟩
    · -- the letter would be the return
      have hsplit : body ++ ['\r'] = (gap ++ ['#']) ++ [c] := by
        rw [he, List.append_assoc, List.singleton_append]
      cases List.append_inj_right' hsplit rfl
      cases hc
    · have hsplit : body ++ ['\r'] = (gap ++ '#' :: c :: front) ++ [d] := by
        rw [he, List.concat_eq_append, List.append_assoc, List.cons_append, List.cons_append]
      exact ⟨gap, c, front, List.append_inj_left' hsplit rfl, hgap, hc⟩
  · exact h

theorem opensWith {n : Nat} {body : List Char} {words : List Token} (h : OpensDirective body)
    (hl : Lexes n 0 body words) : OpensWith n body words := by
  obtain ⟨gap, c, rest, rfl, hgap, hc⟩ := h
  obtain ⟨w, after, rfl, hw, hafter⟩ := exists_run isWordPart rest
  have hall : ∀ d ∈ c :: w, isWordPart d = true :=
    List.forall_mem_cons.2 ⟨isWordPart_of_isAlpha hc, hw⟩
  have hrun : run isWordPart ((c :: w) ++ after) = (c :: w).length := run_of_all hall hafter
  have hextent : extent '#' (c :: w ++ after) = (directiveKind (c :: w), (c :: w).length) := by
    rw [extent_word (by exact hc), hrun, List.take_left]
  have hscan : scan 0 (gap ++ '#' :: (c :: w ++ after)) =
      ⟨directiveKind (c :: w), '#' :: c :: w, gap.length⟩ ::
        scan (gap.length + 1 + (c :: w).length) after := by
    have hsigil : isGap '#' = false := by decide
    rw [scan_gap hgap, Nat.zero_add, scan, hsigil, hextent]
    simp only [Bool.false_eq_true, if_false, List.take_left, List.drop_left]
  have hwords := hl.scan_eq
  rw [← List.cons_append, hscan, List.map_cons, ofLexeme,
    ← (spells_word hc hw).literal_eq] at hwords
  exact ⟨gap, c, w, after, _, _, rfl, hgap, hc, hw, hafter, hwords.symm⟩

theorem lexed_iff {n : Nat} {cs : List Char} {ts : List Token} :
    Lexed n cs ts ↔ (ofChars n cs).tokens = ts := by
  unfold ofChars
  constructor
  · intro h
    cases h with
    | text hd =>
      rw [← isDirectiveLine_iff] at hd
      rw [if_neg hd, tokens]
    | directive hd hr hl =>
      rw [if_pos (isDirectiveLine_iff.2 hd), Text.lacksReturn_iff.1 hr, tokens, lexes_iff.1 hl]
  · rintro rfl
    split
    · next h =>
      have hd := isDirectiveLine_iff.1 h
      have hr := Text.lacksReturn_iff.2 (Eq.refl (Text.dropReturn cs))
      have hl := lexes_iff.2 (Eq.refl ((scan 0 (Text.dropReturn cs)).map (ofLexeme n)))
      have hw := wordy_ofChars n cs
      rw [ofChars, if_pos h] at hw
      exact .directive hd hr hl (opensWith (opensDirective_of_lacksReturn hd hr) hl) hw
    · next h => exact .text fun hd => h (isDirectiveLine_iff.2 hd)

theorem length_ofCut (n : Nat) (pieces : List (List Char)) :
    (ofCut n pieces).length = pieces.length := by
  induction pieces generalizing n with
  | nil => rfl
  | cons cs more ih => rw [ofCut, List.length_cons, List.length_cons, ih]

theorem getElem?_ofCut (pieces : List (List Char)) (k n : Nat) :
    (ofCut k pieces)[n]? = pieces[n]?.map (ofChars (k + n)) := by
  induction pieces generalizing k n with
  | nil => rfl
  | cons cs more ih =>
    cases n with
    | zero => rfl
    | succ n =>
      rw [ofCut, List.getElem?_cons_succ, List.getElem?_cons_succ, ih, Nat.add_right_comm,
        Nat.add_assoc]

end Line

namespace Token

theorem endOf_eq {pieces : List (List Char)} {last : List Char} (h : pieces.getLast? = some last)
    (k : Nat) : endOf k pieces = ⟨k + (pieces.length - 1), last.length⟩ := by
  induction pieces generalizing k with
  | nil => cases h
  | cons cs more ih =>
    cases more with
    | nil =>
      cases h
      rfl
    | cons second more =>
      rw [List.getLast?_cons_cons] at h
      have hcount : k + 1 + ((second :: more).length - 1) =
          k + ((cs :: second :: more).length - 1) := by
        simp only [List.length_cons]
        omega
      rw [endOf, ih h, hcount]
      simp

/-- The tokens of a text are those of its lines, in order, and one for the end of it. -/
theorem tokenize_lexed (text : String) :
    Text.joinWith "\n" (Text.lines text) = text ∧
    (∀ line ∈ Text.cutLines text.toList, '\n' ∉ line) ∧
    ∃ (rows : List (List Token)) (last : List Char),
      (Text.cutLines text.toList).getLast? = some last ∧
      tokenize text = rows.flatten ++
        [⟨.endOfTemplate, "", ⟨(Text.cutLines text.toList).length - 1, last.length⟩⟩] ∧
      (∀ t ∈ rows.flatten, t.kind ≠ .endOfTemplate) ∧
      rows.length = (Text.cutLines text.toList).length ∧
      ∀ n line, (Text.cutLines text.toList)[n]? = some line →
        ∀ row, rows[n]? = some row ↔ Line.Lexed n line row := by
  refine ⟨Text.joinWith_lines text, fun line => Text.notMem_of_mem_cutLines, ?_⟩
  have hlast := List.getLast?_eq_some_getLast (Text.cutLines_ne_nil text.toList)
  refine ⟨(Line.ofText text).map Line.tokens, _, hlast, ?_, ?_, ?_, ?_⟩
  · rw [tokenize, endOf_eq hlast, Nat.zero_add, List.flatMap_def]
  · intro t ht
    rw [← List.flatMap_def] at ht
    obtain ⟨line, hline, ht⟩ := List.mem_flatMap.1 ht
    exact (Line.wordy_ofCut 0 _ line hline).kind_ne ht
  · rw [List.length_map, Line.ofText, Line.length_ofCut]
  · intro n line hline row
    rw [List.getElem?_map, Line.ofText, Line.getElem?_ofCut, hline, Nat.zero_add, Line.lexed_iff]
    exact Option.some_inj

end Token

end LineTemplate
