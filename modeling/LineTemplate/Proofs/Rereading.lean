import LineTemplate.Proofs.Parsing
import LineTemplate.Proofs.Writing

/-!
# Reading what was written

The grammar derives an expression from the tokens of the words that it is written with, up to the
places of the tokens, and so the reader gives it back.
-/

namespace LineTemplate

open Token (Word)

/-! ### Places left out -/

def Literal.unplaced : Literal → Literal
  | .malformed text _ => .malformed text default
  | l => l

def PipeCall.unplaced (c : PipeCall) : PipeCall := ⟨c.name, c.args.map Literal.unplaced, default⟩

def Term.unplaced : Term → Term
  | .literal l => .literal l.unplaced
  | .variable p => .variable p

def Operand.unplaced (o : Operand) : Operand :=
  ⟨o.term.unplaced, o.pipes.map PipeCall.unplaced, default⟩

def Expr.unplaced : Expr → Expr
  | .operand o => .operand o.unplaced
  | .not e => .not e.unplaced
  | .compare c left right _ => .compare c left.unplaced right.unplaced default
  | .and left right => .and left.unplaced right.unplaced
  | .or left right => .or left.unplaced right.unplaced

namespace Token

theorem exists_of_words {w : Word} {ws : List Word} {ts : List Token}
    (h : ts.map word = w :: ws) :
    ∃ pos us, ts = ⟨w.kind, w.literal, pos⟩ :: us ∧ us.map word = ws := by
  obtain ⟨t, us, rfl, hw, hus⟩ := List.map_eq_cons_iff.1 h
  subst hw
  exact ⟨t.pos, us, rfl, hus⟩

theorem exists_of_enclosed {ws : List Word} {ts : List Token} (h : ts.map word = enclosed ws) :
    ∃ l r us, l.kind = .leftParen ∧ r.kind = .rightParen ∧ ts = l :: (us ++ [r]) ∧
      us.map word = ws := by
  obtain ⟨p, us, rfl, hus⟩ := exists_of_words h
  obtain ⟨vs, ends, rfl, hvs, hends⟩ := List.map_eq_append_iff.1 hus
  obtain ⟨q, rest, rfl, hrest⟩ := exists_of_words hends
  rw [List.map_eq_nil_iff.1 hrest]
  exact ⟨_, _, vs, rfl, rfl, rfl, hvs⟩

end Token

open Token (exists_of_words exists_of_enclosed)

/-! ### Literals -/

namespace Reader

theorem splitSign_of_digits {ds : List Char} (h : ∀ d ∈ ds, d.isDigit = true) :
    PlainDecimal.splitSign ds = (false, ds) := by
  unfold PlainDecimal.splitSign
  split
  · exact absurd (h '-' List.mem_cons_self) (by decide)
  · exact absurd (h '+' List.mem_cons_self) (by decide)
  · rfl

theorem splitPoint_of_digits {ds : List Char} (h : ∀ d ∈ ds, d.isDigit = true) :
    PlainDecimal.splitPoint ds = (ds, none) := by
  induction ds with
  | nil => rfl
  | cons d ds ih =>
    obtain ⟨hd, hds⟩ := List.forall_mem_cons.1 h
    have hne : d ≠ '.' := by
      rintro rfl
      exact absurd hd (by decide)
    rw [PlainDecimal.splitPoint, if_neg hne, ih hds]

theorem isSpace_of_isDigit {c : Char} (h : c.isDigit = true) : Text.isSpace c = false := by
  simp only [Char.isDigit, Bool.and_eq_true, decide_eq_true_eq] at h
  have hlow : 48 ≤ c.toNat := h.1
  have hhigh : c.toNat ≤ 57 := h.2
  simp only [Text.isSpace, Bool.or_eq_false_iff, Bool.and_eq_false_iff, decide_eq_false_iff_not,
    beq_eq_false_iff_ne]
  omega

theorem ofChars?_intChars (i : Int) : PlainDecimal.ofChars? (Numeral.intChars i) =
    some ⟨decide (i < 0), Numeral.digits i.natAbs, none⟩ := by
  have hds : ∀ d ∈ Numeral.digits i.natAbs, d.isDigit = true :=
    fun d => Numeral.isDigit_of_mem_digits
  have hspace : ∀ c ∈ Numeral.intChars i, Text.isSpace c = false := by
    intro c hc
    rw [Numeral.intChars] at hc
    split at hc
    · rcases List.mem_cons.1 hc with rfl | hc
      · decide
      · exact isSpace_of_isDigit (hds c hc)
    · exact isSpace_of_isDigit (hds c hc)
  have hsign : PlainDecimal.splitSign (Numeral.intChars i) =
      (decide (i < 0), Numeral.digits i.natAbs) := by
    rw [Numeral.intChars]
    split
    · next h => simp only [PlainDecimal.splitSign, h, decide_true]
    · next h => simp only [splitSign_of_digits hds, h, decide_false]
  simp only [PlainDecimal.ofChars?, Text.trimChars_of_forall hspace, hsign,
    splitPoint_of_digits hds, Numeral.isDigits_digits, Option.all_none, Bool.and_self, if_true]

theorem numeral_intChars {i : Int} (h : Numeral.fitsSigned 64 i = true) (pos : Position) :
    numeral (String.ofList (Numeral.intChars i)) pos = .number (.int i) := by
  have hint : PlainDecimal.toInt ⟨decide (i < 0), Numeral.digits i.natAbs, none⟩ = i := by
    simp only [PlainDecimal.toInt, Numeral.value_digits, decide_eq_true_eq]
    split <;> omega
  simp only [numeral, String.toList_ofList, ofChars?_intChars, Option.isNone_none, hint, h,
    Bool.and_self, if_true]

end Reader

namespace Literal

theorem yields_of_written {l : Literal} (h : l.IsWritable) (pos : Position) :
    l.Yields [⟨l.written.kind, l.written.literal, pos⟩] := by
  cases l with
  | string s => exact @Yields.string ⟨.string, s, pos⟩ rfl
  | number n =>
    cases n with
    | int i =>
      have hy := @Yields.number ⟨.number, String.ofList (Numeral.intChars i), pos⟩ rfl
      rw [Reader.numeral_intChars h pos] at hy
      exact hy
    | double x => exact h.elim
  | bool b =>
    cases b
    · exact @Yields.word ⟨.identifier, "false", pos⟩ rfl
    · exact @Yields.word ⟨.identifier, "true", pos⟩ rfl
  | null => exact @Yields.word ⟨.identifier, "null", pos⟩ rfl
  | blank => exact @Yields.word ⟨.identifier, "blank", pos⟩ rfl
  | malformed text pos => exact h.elim

theorem yieldsList_of_listed {ls : List Literal} (hne : ls ≠ []) (h : ∀ l ∈ ls, l.IsWritable)
    {ts : List Token} (hts : ts.map Token.word = listed ls) : YieldsList ls ts := by
  induction ls generalizing ts with
  | nil => exact absurd rfl hne
  | cons l more ih =>
    obtain ⟨hl, hmore⟩ := List.forall_mem_cons.1 h
    cases more with
    | nil =>
      obtain ⟨pos, us, rfl, hus⟩ := exists_of_words hts
      rw [List.map_eq_nil_iff.1 hus]
      exact .one (yields_of_written hl pos)
    | cons second more =>
      obtain ⟨pos, us, rfl, hus⟩ := exists_of_words hts
      obtain ⟨pos', vs, rfl, hvs⟩ := exists_of_words hus
      exact .more (yields_of_written hl pos) rfl (ih (List.cons_ne_nil _ _) hmore hvs)

end Literal

/-! ### Operands -/

theorem Segment.index?_indexName {i : Nat} (h : i < indexLimit) :
    index? (indexName i).toList = some i := by
  have hsign : ∀ rest, Numeral.digits i ≠ '+' :: rest := by
    intro rest he
    have hplus : '+' ∈ Numeral.digits i := by
      rw [he]
      exact List.mem_cons_self
    exact absurd (Numeral.isDigit_of_mem_digits hplus) (by decide)
  rw [indexName, String.toList_ofList, index?, Numeral.isDigits_digits, Numeral.value_digits,
    decide_eq_true h]
  · rfl
  · exact hsign

theorem Segment.yields_of_written {s : Segment} (h : s.IsWritable) {ts : List Token}
    (hts : ts.map Token.word = s.written) : Segment.Yields [s] ts := by
  obtain ⟨p, us, rfl, hus⟩ := exists_of_words hts
  obtain ⟨q, vs, rfl, hvs⟩ := exists_of_words hus
  obtain ⟨r, rest, rfl, hrest⟩ := exists_of_words hvs
  rw [List.map_eq_nil_iff.1 hrest]
  cases s with
  | key name =>
    exact @Segment.Yields.bracketKey ⟨.leftBracket, "[", p⟩ ⟨.string, name, q⟩ _ rfl rfl rfl
  | index i => exact .bracketIndex rfl rfl (index?_indexName h) rfl

theorem Segment.yieldsList_of_written {steps : List Segment} (h : ∀ s ∈ steps, s.IsWritable)
    {ts : List Token} (hts : ts.map Token.word = steps.flatMap written) : YieldsList steps ts := by
  induction steps generalizing ts with
  | nil =>
    rw [List.map_eq_nil_iff.1 hts]
    exact .nil
  | cons s more ih =>
    obtain ⟨hs, hmore⟩ := List.forall_mem_cons.1 h
    rw [List.flatMap_cons] at hts
    obtain ⟨us, vs, rfl, hus, hvs⟩ := List.map_eq_append_iff.1 hts
    exact .cons (yields_of_written hs hus) (ih hmore hvs)

theorem PipeCall.yieldsArgs_of_written {args : List Literal} (h : ∀ l ∈ args, l.IsWritable)
    {ts : List Token} (hts : ts.map Token.word =
      if args.isEmpty then [] else Token.enclosed (Literal.listed args)) : YieldsArgs args ts := by
  cases args with
  | nil =>
    rw [List.map_eq_nil_iff.1 hts]
    exact .bare
  | cons l more =>
    obtain ⟨left, right, us, hl, hr, rfl, hus⟩ := exists_of_enclosed hts
    exact .some hl (Literal.yieldsList_of_listed (List.cons_ne_nil l more) h hus) hr

theorem PipeCall.yieldsList_of_written {calls : List PipeCall} (h : ∀ c ∈ calls, c.IsWritable)
    {ts : List Token} (hts : ts.map Token.word = calls.flatMap written) :
    ∃ calls', YieldsList calls' ts ∧ calls'.map unplaced = calls.map unplaced := by
  induction calls generalizing ts with
  | nil =>
    rw [List.map_eq_nil_iff.1 hts]
    exact ⟨[], .nil, rfl⟩
  | cons c more ih =>
    obtain ⟨hc, hmore⟩ := List.forall_mem_cons.1 h
    rw [List.flatMap_cons, written] at hts
    obtain ⟨p, us, rfl, hus⟩ := exists_of_words hts
    obtain ⟨q, vs, rfl, hvs⟩ := exists_of_words hus
    obtain ⟨args, rest, rfl, hargs, hrest⟩ := List.map_eq_append_iff.1 hvs
    obtain ⟨calls', hcalls, he⟩ := ih hmore hrest
    refine ⟨⟨c.name, c.args, q⟩ :: calls', ?_, ?_⟩
    · exact @YieldsList.cons ⟨.pipe, "|", p⟩ ⟨.identifier, c.name, q⟩ _ _ _ _ rfl rfl
        (yieldsArgs_of_written hc.args hargs) hcalls
    · rw [List.map_cons, List.map_cons, he]
      rfl

theorem Term.yields_of_written {x : Term} (h : x.IsWritable) {ts : List Token}
    (hts : ts.map Token.word = x.written) : x.Yields ts := by
  cases x with
  | literal l =>
    obtain ⟨p, us, rfl, hus⟩ := exists_of_words hts
    rw [List.map_eq_nil_iff.1 hus]
    exact .literal (Literal.yields_of_written h p)
  | «variable» path =>
    obtain ⟨p, us, rfl, hus⟩ := exists_of_words hts
    obtain ⟨q, vs, rfl, hvs⟩ := exists_of_words hus
    exact .path rfl (@Path.Yields.mk ⟨.identifier, path.root, q⟩ _ _ rfl
      (Segment.yieldsList_of_written h.2 hvs))

theorem Operand.yields_of_written {o : Operand} (h : o.IsWritable) {ts : List Token}
    (hts : ts.map Token.word = o.written) :
    ∃ o' : Operand, o'.Yields ts ∧ o'.unplaced = o.unplaced := by
  obtain ⟨us, vs, rfl, hus, hvs⟩ := List.map_eq_append_iff.1 hts
  obtain ⟨pipes, hpipes, he⟩ := PipeCall.yieldsList_of_written h.pipes hvs
  have hterm := Term.yields_of_written h.term hus
  obtain ⟨t, us, rfl⟩ := Reader.exists_cons_of_yields_term hterm
  refine ⟨⟨o.term, pipes, t.pos⟩, .mk hterm hpipes, ?_⟩
  rw [unplaced, unplaced, he]

/-! ### Expressions -/

namespace Expr

theorem Yields.climb {inner outer : Level} {e : Expr} {ts : List Token} (h : e.Yields inner ts)
    (hl : inner.rank ≤ outer.rank) : e.Yields outer ts := by
  have hside : e.Yields .unary ts → e.Yields .comparison ts := .side
  have hconjunct : e.Yields .comparison ts → e.Yields .conjunction ts := .conjunct
  have hdisjunct : e.Yields .conjunction ts → e.Yields .disjunction ts := .disjunct
  -- the outer level is at most three of these steps away, or below the inner one
  cases inner <;> cases outer <;> simp only [Level.rank] at hl <;> first | omega | tauto

/-- Wherever the words stand, they are read as an expression of this shape. -/
def ReadAs (level : Level) (ws : List Word) (shape : Expr) : Prop :=
  ∀ ts : List Token, ts.map Token.word = ws → ∃ e : Expr, e.Yields level ts ∧ e.unplaced = shape

theorem ReadAs.fit {inner : Level} {ws : List Word} {shape : Expr} (h : ReadAs inner ws shape)
    (outer : Level) : ReadAs outer (inner.fit outer ws) shape := by
  intro ts hts
  unfold Level.fit at hts
  split at hts
  · next hl =>
    obtain ⟨e, hy, he⟩ := h ts hts
    exact ⟨e, hy.climb hl, he⟩
  · obtain ⟨left, right, us, hl, hr, rfl, hus⟩ := exists_of_enclosed hts
    obtain ⟨e, hy, he⟩ := h us hus
    have hloose : e.Yields .disjunction us := hy.climb (by cases inner <;> decide)
    exact ⟨e, (Yields.group hl hloose hr).climb (Nat.zero_le _), he⟩

/-- A connective of the grammar is read where its sign stands between its sides. -/
theorem ReadAs.between {level l r : Level} {lw rw : List Word} {sign : Word} {el er shape : Expr}
    (hl : ReadAs l lw el) (hr : ReadAs r rw er)
    (join : ∀ {left right : Expr} {ls rs : List Token} (pos : Position),
      left.Yields l ls → right.Yields r rs → left.unplaced = el → right.unplaced = er →
      ∃ e : Expr, e.Yields level (ls ++ ⟨sign.kind, sign.literal, pos⟩ :: rs) ∧
        e.unplaced = shape) : ReadAs level (lw ++ sign :: rw) shape := by
  intro ts hts
  obtain ⟨ls, rest, rfl, hls, hrest⟩ := List.map_eq_append_iff.1 hts
  obtain ⟨pos, rs, rfl, hrs⟩ := exists_of_words hrest
  obtain ⟨left, hleft, hel⟩ := hl ls hls
  obtain ⟨right, hright, her⟩ := hr rs hrs
  exact join pos hleft hright hel her

theorem readAs_written {e : Expr} (h : e.IsWritable) (level : Level) :
    ReadAs level (e.written level) e.unplaced := by
  induction e generalizing level with
  | operand o =>
    intro ts hts
    obtain ⟨o', hy, ho⟩ := Operand.yields_of_written (h o List.mem_cons_self) hts
    refine ⟨.operand o', (Yields.operand hy).climb (Nat.zero_le _), ?_⟩
    rw [unplaced, unplaced, ho]
  | not e ih =>
    intro ts hts
    obtain ⟨p, us, rfl, hus⟩ := exists_of_words hts
    obtain ⟨e', hy, he⟩ := ih h .unary us hus
    refine ⟨.not e', (Yields.not rfl hy).climb (Nat.zero_le _), ?_⟩
    rw [unplaced, unplaced, he]
  | compare c left right pos ihl ihr =>
    obtain ⟨hl, hr⟩ := List.forall_mem_append.1 h
    refine ReadAs.fit (ReadAs.between (ihl hl .unary) (ihr hr .unary) ?_) level
    intro left' right' ls rs pos hleft hright hel her
    refine ⟨_, .compare hleft rfl hright, ?_⟩
    rw [unplaced, unplaced, hel, her]
  | and left right ihl ihr =>
    obtain ⟨hl, hr⟩ := List.forall_mem_append.1 h
    refine ReadAs.fit (ReadAs.between (ihl hl .conjunction) (ihr hr .comparison) ?_) level
    intro left' right' ls rs pos hleft hright hel her
    refine ⟨_, .and hleft rfl hright, ?_⟩
    rw [unplaced, unplaced, hel, her]
  | or left right ihl ihr =>
    obtain ⟨hl, hr⟩ := List.forall_mem_append.1 h
    refine ReadAs.fit (ReadAs.between (ihl hl .disjunction) (ihr hr .conjunction) ?_) level
    intro left' right' ls rs pos hleft hright hel her
    refine ⟨_, .or hleft rfl hright, ?_⟩
    rw [unplaced, unplaced, hel, her]

end Expr

/-! ### Lines -/

theorem Token.Spaced.opensDirective {d : Directive} {ws : List Word} {cs : List Char}
    (h : Spaced (⟨.directive d, d.text⟩ :: ws) cs) : OpensDirective cs := by
  cases h with
  | @word w ws gap after hg _ _ =>
    obtain ⟨c, rest, hd, hc, -⟩ := directive_word d
    have hspell : Word.spelling ⟨.directive d, d.text⟩ = '#' :: c :: rest := by
      rw [← hd]
      exact Word.toList_text d
    rw [hspell]
    refine ⟨gap, c, rest ++ after, rfl, fun g hgap => ?_, hc⟩
    rw [hg g hgap]
    rfl

theorem Line.ofChars_of_spaced {d : Directive} {ws : List Word} {cs : List Char}
    (h : Token.Spaced (⟨.directive d, d.text⟩ :: ws) cs) (hf : ∀ w ∈ ws, w.Fits) (n : Nat) :
    ∃ pos ts, ofChars n cs = .directive (⟨.directive d, d.text, pos⟩ :: ts) ⟨n, cs.length⟩ ∧
      ts.map Token.word = ws := by
  have hall : ∀ w ∈ (⟨.directive d, d.text⟩ :: ws : List Word), w.Fits :=
    List.forall_mem_cons.2 ⟨Word.fits_directive d, hf⟩
  have hreturn : Text.dropReturn cs = cs :=
    Text.dropReturn_of_getLast fun hc => h.ending hall _ hc rfl
  obtain ⟨words, hl, hwords⟩ := h.lexes hall n 0
  obtain ⟨pos, ts, rfl, hts⟩ := exists_of_words hwords
  refine ⟨pos, ts, ?_, hts⟩
  rw [ofChars, if_pos (Token.isDirectiveLine_iff.2 h.opensDirective), hreturn]
  exact congrArg (directive · _) hl.scan_eq

namespace Expr

def header (e : Expr) : List Word := ⟨.directive .condition, "#if"⟩ :: e.written .disjunction

def line (e : Expr) : String := String.ofList (Token.spaced e.header)

/-- An expression that is written on the line of a condition, with any spaces that keep its words
apart, is read back from there. -/
theorem ofText_of_spaced {e : Expr} (h : e.IsWritable) :
    Token.Spaced e.header e.line.toList ∧
    ∀ line : String, Token.Spaced e.header line.toList →
      ∃ e' pos, Block.ofText (line ++ "\n#fi") = .ok [.condition e' [] none pos] ∧
        e'.unplaced = e.unplaced := by
  constructor
  · rw [line, String.toList_ofList]
    exact Token.spaced_spaced e.header
  intro line hline
  have hf := fits_written h .disjunction
  obtain ⟨pos, ts, hfirst, hts⟩ := Line.ofChars_of_spaced hline hf 0
  have hclose : Token.Spaced [⟨.directive .endCondition, "#fi"⟩] ['#', 'f', 'i'] :=
    Token.spaced_spaced _
  obtain ⟨stop, none, hlast, hnone⟩ := Line.ofChars_of_spaced hclose (by simp) 1
  rw [List.map_eq_nil_iff.1 hnone] at hlast
  obtain ⟨e', hy, he⟩ := readAs_written h .disjunction ts hts
  -- the words of the expression are all on one line, whatever strings it has
  have hcut : Text.cutLines (line ++ "\n#fi").toList = [line.toList, ['#', 'f', 'i']] := by
    have hone := hline.oneLine (List.forall_mem_cons.2 ⟨Word.fits_directive .condition, hf⟩)
    have hsplit : (line ++ "\n#fi").toList = line.toList ++ '\n' :: ['#', 'f', 'i'] := by
      rw [String.toList_append]
      rfl
    rw [hsplit, Text.cutLines_append, Text.cutLines_of_notMem hone,
      Text.cutLines_of_notMem (by decide)]
    rfl
  have hspell := Line.spelled_tokens (Line.wordy_ofCut 0 (Text.cutLines (line ++ "\n#fi").toList))
  refine ⟨e', pos, (Block.ofLines_eq_ok hspell rfl).2 ?_, he⟩
  have hopens : Directive.condition.Yields pos ts
      (⟨.directive .condition, Directive.condition.text, pos⟩ :: ts ++
        [⟨.endOfLine, "", ⟨0, line.toList.length⟩⟩]) := .mk rfl rfl rfl
  have hends : Directive.endCondition.Yields stop []
      (⟨.directive .endCondition, Directive.endCondition.text, stop⟩ :: [] ++
        [⟨.endOfLine, "", ⟨1, 3⟩⟩]) := .mk rfl rfl rfl
  have hblocks := Phrase.Yields.snoc .nil (.condition hy hopens .nil hends)
  rw [hcut, Line.ofCut, Line.ofCut, Line.ofCut, hfirst, hlast]
  simpa [Line.tokens] using hblocks

theorem ofText_of_spaced_negation :
    IsWritable (.not (.compare .eq (.operand ⟨.variable ⟨"b", [.key "it's"]⟩, [], ⟨0, 0⟩⟩)
      (.operand ⟨.literal (.number (.int (-3))), [], ⟨0, 0⟩⟩) ⟨0, 0⟩)) ∧
    ∃ e' pos, Block.ofText "#if ! ( : b [ 'it\\'s' ] == -3 )\n#fi" =
        .ok [.condition e' [] none pos] ∧
      e'.unplaced = .not (.compare .eq (.operand ⟨.variable ⟨"b", [.key "it's"]⟩, [], ⟨0, 0⟩⟩)
        (.operand ⟨.literal (.number (.int (-3))), [], ⟨0, 0⟩⟩) ⟨0, 0⟩) := by
  have hwritable : IsWritable (.not (.compare .eq
      (.operand ⟨.variable ⟨"b", [.key "it's"]⟩, [], ⟨0, 0⟩⟩)
      (.operand ⟨.literal (.number (.int (-3))), [], ⟨0, 0⟩⟩) ⟨0, 0⟩)) := by
    refine List.forall_mem_cons.2 ⟨⟨⟨⟨by decide, by decide⟩, ?_⟩, by simp⟩, ?_⟩
    · exact List.forall_mem_singleton.2 trivial
    · exact List.forall_mem_singleton.2 ⟨rfl, by simp⟩
  obtain ⟨hline, hback⟩ := ofText_of_spaced hwritable
  obtain ⟨e', pos, hread, he⟩ := hback _ hline
  have htext : line (.not (.compare .eq (.operand ⟨.variable ⟨"b", [.key "it's"]⟩, [], ⟨0, 0⟩⟩)
      (.operand ⟨.literal (.number (.int (-3))), [], ⟨0, 0⟩⟩) ⟨0, 0⟩)) =
        "#if ! ( : b [ 'it\\'s' ] == -3 )" := by cbv
  rw [htext] at hread
  exact ⟨hwritable, e', pos, hread, he⟩

end Expr

end LineTemplate
