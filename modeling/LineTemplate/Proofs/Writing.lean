import LineTemplate.Proofs.Lexemes

/-!
# Writing expressions

The words that an expression is written with, with brackets only where the grammar needs them, and
how words are put on a line: `Spaced` allows spaces anywhere between words and asks for one only
where two words would grow together. Words on a line are the tokens that the line is cut into.
-/

namespace LineTemplate

/-- What a token says, wherever it stands. -/
structure Token.Word where
  kind : Token.Kind
  literal : String
  deriving DecidableEq, Repr

namespace Token

def word (t : Token) : Word := ⟨t.kind, t.literal⟩

/-! ### Words on a line -/

def escape (c : Char) : List Char :=
  if c = '\n' then ['\\', 'n'] else if c = '\\' ∨ c = '\'' then ['\\', c] else [c]

namespace Word

def spelling (w : Word) : List Char :=
  if w.kind = .string then '\'' :: (w.literal.toList.flatMap escape ++ ['\''])
  else w.literal.toList

/-- The word is spelled as its kind asks, on one line, and ends in no carriage return. -/
structure Fits (w : Word) : Prop where
  spells : Spells w.kind w.spelling w.literal.toList
  oneLine : '\n' ∉ w.spelling
  ending : ∀ c ∈ w.spelling.getLast?, c ≠ '\r'

/-- The word does not grow together with what follows it. -/
def Apart (w : Word) (cs : List Char) : Prop :=
  (∃ c ∈ brackets, w.spelling = [c]) ∨ ∀ c ∈ cs.head?, c ∈ boundaries

end Word

/-- The words on a line, with spaces around them. -/
inductive Spaced : List Word → List Char → Prop
  | done {gap : List Char} : (∀ c ∈ gap, c = ' ') → Spaced [] gap
  | word {w : Word} {ws : List Word} {gap cs : List Char} :
      (∀ c ∈ gap, c = ' ') → w.Apart cs → Spaced ws cs →
      Spaced (w :: ws) (gap ++ (w.spelling ++ cs))

def spaced : List Word → List Char
  | [] => []
  | [w] => w.spelling
  | w :: ws => w.spelling ++ ' ' :: spaced ws

theorem Spaced.gap {ws : List Word} {cs : List Char} (h : Spaced ws cs) :
    Spaced ws (' ' :: cs) := by
  cases h with
  | done hg => exact .done (List.forall_mem_cons.2 ⟨rfl, hg⟩)
  | @word w ws gap cs hg ha hs =>
    exact @Spaced.word w ws (' ' :: gap) cs (List.forall_mem_cons.2 ⟨rfl, hg⟩) ha hs

theorem spaced_spaced (ws : List Word) : Spaced ws (spaced ws) := by
  have hnone : ∀ c ∈ ([] : List Char), c = ' ' := by simp
  induction ws with
  | nil => exact .done hnone
  | cons w ws ih =>
    cases ws with
    | nil =>
      have hlast := @Spaced.word w [] [] [] hnone (.inr (by simp)) (.done hnone)
      rw [List.nil_append, List.append_nil] at hlast
      exact hlast
    | cons v ws =>
      have hnext : w.Apart (' ' :: spaced (v :: ws)) := by
        refine .inr ?_
        rintro c ⟨⟩
        decide
      exact @Spaced.word w (v :: ws) [] (' ' :: spaced (v :: ws)) hnone hnext ih.gap

/-! ### Words are tokens -/

theorem Word.Apart.extent_eq {w : Word} {c : Char} {rest literal cs : List Char} {kind : Kind}
    (h : w.Apart cs) (hw : w.spelling = c :: rest) (hs : SpellsFrom c rest kind literal) :
    extent c (rest ++ cs) = (kind, rest.length) := by
  rcases h with ⟨d, hd, hspell⟩ | hcs
  · rw [hw] at hspell
    cases hspell
    have halone : extent c ([] ++ []) = (kind, ([] : List Char).length) := hs.extent_eq (by simp)
    rw [List.nil_append, extent_bracket c hd cs]
    exact halone
  · exact hs.extent_eq hcs

theorem Spaced.lexes {ws : List Word} {cs : List Char} (h : Spaced ws cs)
    (hf : ∀ w ∈ ws, w.Fits) (line column : Nat) :
    ∃ ts, Lexes line column cs ts ∧ ts.map Token.word = ws := by
  induction h generalizing column with
  | done hg =>
    refine ⟨[], .done fun c hc => ?_, rfl⟩
    rw [hg c hc]
    rfl
  | @word w ws gap cs hg ha _ ih =>
    obtain ⟨hw, hf⟩ := List.forall_mem_cons.1 hf
    obtain ⟨ts, hts, hwords⟩ := ih hf (column + gap.length + w.spelling.length)
    obtain ⟨c, rest, hspell, hfrom⟩ := hw.spells.first
    have htakes := takes_of_spells (ha.extent_eq hspell hfrom) hfrom
    rw [← hspell] at htakes
    refine ⟨_, .token (fun c hc => by rw [hg c hc]; rfl) htakes hts, ?_⟩
    rw [List.map_cons, hwords, Token.word, String.ofList_toList]

theorem Spaced.oneLine {ws : List Word} {cs : List Char} (h : Spaced ws cs)
    (hf : ∀ w ∈ ws, w.Fits) : '\n' ∉ cs := by
  induction h with
  | done hg =>
    intro hn
    cases hg _ hn
  | @word w ws gap cs hg ha _ ih =>
    obtain ⟨hw, hf⟩ := List.forall_mem_cons.1 hf
    rw [List.mem_append, List.mem_append]
    rintro (hn | hn | hn)
    · cases hg _ hn
    · exact hw.oneLine hn
    · exact ih hf hn

theorem Spaced.ending {ws : List Word} {cs : List Char} (h : Spaced ws cs)
    (hf : ∀ w ∈ ws, w.Fits) : ∀ c ∈ cs.getLast?, c ≠ '\r' := by
  induction h with
  | done hg =>
    rintro c hc rfl
    cases hg _ (List.mem_of_getLast? hc)
  | @word w ws gap cs hg ha _ ih =>
    obtain ⟨hw, hf⟩ := List.forall_mem_cons.1 hf
    rw [List.getLast?_append, List.getLast?_append]
    intro c hc
    -- the last character belongs to the rest, or else to the word, or else to the gap
    cases hcs : cs.getLast? with
    | some d =>
      rw [hcs] at hc
      cases hc
      exact ih hf c hcs
    | none =>
      rw [hcs, Option.none_or] at hc
      cases hl : w.spelling.getLast? with
      | some d =>
        rw [hl] at hc
        cases hc
        exact hw.ending c hl
      | none =>
        rw [hl, Option.none_or] at hc
        rw [hg c (List.mem_of_getLast? hc)]
        decide

/-! ### Words that fit on a line -/

namespace Word

theorem quoted_escape (cs : List Char) : Quoted '\'' (cs.flatMap escape) cs := by
  induction cs with
  | nil => exact .nil
  | cons c rest ih =>
    rw [List.flatMap_cons, escape]
    split
    · next hc =>
      rw [hc]
      exact .escape ih
    · split
      · next hc =>
        have hself : escaped c = [c] := by rcases hc with rfl | rfl <;> rfl
        have hescape := Quoted.escape (c := c) ih
        rw [hself] at hescape
        exact hescape
      · next hc =>
        rw [not_or] at hc
        exact .plain hc.2 hc.1 ih

theorem fits_string (s : String) : Fits ⟨.string, s⟩ := by
  have hspell : Word.spelling ⟨.string, s⟩ = '\'' :: (s.toList.flatMap escape ++ ['\'']) := rfl
  refine ⟨?_, ?_, ?_⟩
  · rw [hspell]
    exact .string (.inl rfl) (quoted_escape s.toList)
  · rw [hspell]
    simp only [List.mem_cons, List.mem_append, List.mem_flatMap, List.not_mem_nil, or_false]
    rintro (hn | ⟨c, -, hn⟩ | hn)
    · cases hn
    · revert hn
      rw [escape]
      split
      · decide
      · next hc =>
        split
        · simp [Ne.symm hc]
        · simp [Ne.symm hc]
    · cases hn
  · rw [hspell, ← List.cons_append, List.getLast?_concat]
    rintro c ⟨⟩
    decide

theorem fits_of_forall {kind : Kind} {s : String} (hk : kind ≠ .string)
    (hs : Spells kind s.toList s.toList) (hc : ∀ c ∈ s.toList, c ≠ '\n' ∧ c ≠ '\r') :
    Fits ⟨kind, s⟩ := by
  have hspell : Word.spelling ⟨kind, s⟩ = s.toList := if_neg hk
  refine ⟨?_, ?_, ?_⟩
  · rw [hspell]
    exact hs
  · rw [hspell]
    exact fun hn => (hc _ hn).1 rfl
  · rw [hspell]
    exact fun c h => (hc c (List.mem_of_getLast? h)).2

theorem ne_breaks {p : Char → Bool} (hn : p '\n' = false) (hr : p '\r' = false) {c : Char}
    (h : p c = true) : c ≠ '\n' ∧ c ≠ '\r' := by
  constructor
  · rintro rfl
    exact absurd h (Bool.eq_false_iff.1 hn)
  · rintro rfl
    exact absurd h (Bool.eq_false_iff.1 hr)

theorem fits_symbol {kind : Kind} {s : String} (h : (kind, s.toList) ∈ symbols) :
    Fits ⟨kind, s⟩ := by
  have hkind : ∀ entry ∈ symbols, entry.1 ≠ .string := by decide
  have hchars : symbols.all (fun entry => entry.2.all fun c => c ≠ '\n' ∧ c ≠ '\r') = true := by
    decide
  refine fits_of_forall (hkind _ h) (.symbol h) fun c hc => ?_
  exact of_decide_eq_true (List.all_eq_true.1 (List.all_eq_true.1 hchars _ h) c hc)

theorem toList_text (d : Directive) : d.text.toList = '#' :: d.word.toList := by
  rw [Directive.text, String.toList_append]
  rfl

theorem fits_directive (d : Directive) : Fits ⟨.directive d, d.text⟩ := by
  have hchars : d.text.toList.all (fun c => c ≠ '\n' ∧ c ≠ '\r') = true := by
    cases d <;> decide
  refine fits_of_forall (by simp) ?_ fun c hc => ?_
  · rw [toList_text]
    exact .directive d
  · exact of_decide_eq_true (List.all_eq_true.1 hchars c hc)

theorem fits_name {s : String} (h : isName s.toList = true) (hs : s ≠ "throw") :
    Fits ⟨.identifier, s⟩ := by
  obtain ⟨c, rest, hcs⟩ : ∃ c rest, s.toList = c :: rest := by
    cases hcs : s.toList with
    | nil =>
      rw [hcs] at h
      cases h
    | cons c rest => exact ⟨c, rest, rfl⟩
  rw [hcs, isName, Bool.and_eq_true, List.all_eq_true] at h
  have hne : c :: rest ≠ throwWord := by
    rw [← hcs]
    exact fun ht => hs (String.toList_inj.1 ht)
  have hpart : ∀ d ∈ c :: rest, d ≠ '\n' ∧ d ≠ '\r' := by
    refine List.forall_mem_cons.2 ⟨?_, fun d hd => ?_⟩
    · exact ne_breaks (by decide) (by decide) h.1
    · exact ne_breaks (by decide) (by decide) (h.2 d hd)
  refine fits_of_forall (by simp) ?_ ?_
  · rw [hcs]
    exact .name h.1 h.2 hne
  · rw [hcs]
    exact hpart

theorem fits_int (i : Int) : Fits ⟨.number, String.ofList (Numeral.intChars i)⟩ := by
  have hds : IsNumeral (Numeral.digits i.natAbs) :=
    ⟨Numeral.digits_ne_nil _, fun d => Numeral.isDigit_of_mem_digits⟩
  have hdigit : ∀ d ∈ Numeral.digits i.natAbs, d ≠ '\n' ∧ d ≠ '\r' :=
    fun d hd => ne_breaks (by decide) (by decide) (hds.2 d hd)
  have hspells : Spells .number (Numeral.intChars i) (Numeral.intChars i) := by
    have hpos := Spells.number hds (.inl rfl)
    have hneg := Spells.negative hds (.inl rfl)
    rw [List.append_nil] at hpos hneg
    rw [Numeral.intChars]
    split
    · exact hneg
    · exact hpos
  refine fits_of_forall (by simp) ?_ ?_
  · rw [String.toList_ofList]
    exact hspells
  · rw [String.toList_ofList, Numeral.intChars]
    split
    · exact List.forall_mem_cons.2 ⟨by decide, hdigit⟩
    · exact hdigit

end Word

end Token

/-! ### The words of an expression -/

open Token (Word)

def Token.enclosed (ws : List Word) : List Word :=
  ⟨.leftParen, "("⟩ :: (ws ++ [⟨.rightParen, ")"⟩])

theorem Token.fits_enclosed {ws : List Word} (h : ∀ w ∈ ws, w.Fits) :
    ∀ w ∈ Token.enclosed ws, w.Fits := by
  have hl : Word.Fits ⟨.leftParen, "("⟩ := Word.fits_symbol (by decide)
  have hr : Word.Fits ⟨.rightParen, ")"⟩ := Word.fits_symbol (by decide)
  refine List.forall_mem_cons.2 ⟨hl, List.forall_mem_append.2 ⟨h, ?_⟩⟩
  exact List.forall_mem_singleton.2 hr

/-- A name that is read as a name. -/
def Token.IsFreeName (s : String) : Prop := Token.isName s.toList = true ∧ s ≠ "throw"

namespace Literal

def written : Literal → Word
  | .string s => ⟨.string, s⟩
  | .number n => ⟨.number, String.ofList (Json.numberChars n)⟩
  | .bool b => ⟨.identifier, String.ofList (Json.boolChars b)⟩
  | .null => ⟨.identifier, "null"⟩
  | .blank => ⟨.identifier, "blank"⟩
  | .malformed text _ => ⟨.number, text⟩

/-- Strings, integers of 64 bits, and the named literals. -/
def IsWritable : Literal → Prop
  | .string _ | .bool _ | .null | .blank => True
  | .number (.int i) => Numeral.fitsSigned 64 i = true
  | .number (.double _) | .malformed _ _ => False

def listed : List Literal → List Word
  | [] => []
  | [l] => [l.written]
  | l :: more => l.written :: ⟨.comma, ","⟩ :: listed more

theorem fits_written {l : Literal} (h : l.IsWritable) : l.written.Fits := by
  cases l with
  | string s => exact Word.fits_string s
  | number n =>
    cases n with
    | int i => exact Word.fits_int i
    | double x => exact h.elim
  | bool b =>
    cases b
    · exact Word.fits_name (by decide) (by decide)
    · exact Word.fits_name (by decide) (by decide)
  | null | blank => exact Word.fits_name (by decide) (by decide)
  | malformed text pos => exact h.elim

theorem fits_listed {ls : List Literal} (h : ∀ l ∈ ls, l.IsWritable) :
    ∀ w ∈ listed ls, w.Fits := by
  fun_induction listed ls with
  | case1 => simp
  | case2 l => simpa using fits_written (h l List.mem_cons_self)
  | case3 l more _ ih =>
    obtain ⟨hl, hmore⟩ := List.forall_mem_cons.1 h
    have hcomma : Word.Fits ⟨.comma, ","⟩ := Word.fits_symbol (by decide)
    exact List.forall_mem_cons.2 ⟨fits_written hl, List.forall_mem_cons.2 ⟨hcomma, ih hmore⟩⟩

end Literal

namespace Segment

def inner : Segment → Word
  | .key name => ⟨.string, name⟩
  | .index i => ⟨.number, indexName i⟩

def written (s : Segment) : List Word := [⟨.leftBracket, "["⟩, s.inner, ⟨.rightBracket, "]"⟩]

def IsWritable : Segment → Prop
  | .key _ => True
  | .index i => i < indexLimit

theorem fits_written (s : Segment) : ∀ w ∈ s.written, w.Fits := by
  have hl : Word.Fits ⟨.leftBracket, "["⟩ := Word.fits_symbol (by decide)
  have hr : Word.Fits ⟨.rightBracket, "]"⟩ := Word.fits_symbol (by decide)
  have hs : s.inner.Fits := by
    cases s with
    | key name => exact Word.fits_string name
    | index i => exact Word.fits_int i
  simpa [written] using ⟨hl, hs, hr⟩

end Segment

namespace PipeCall

/-- The pipe and its name, and the arguments between brackets if there are any. -/
def written (c : PipeCall) : List Word :=
  ⟨.pipe, "|"⟩ :: ⟨.identifier, c.name⟩ ::
    if c.args.isEmpty then [] else Token.enclosed (Literal.listed c.args)

structure IsWritable (c : PipeCall) : Prop where
  name : Token.IsFreeName c.name
  args : ∀ l ∈ c.args, l.IsWritable

end PipeCall

namespace Term

def written : Term → List Word
  | .literal l => [l.written]
  | .variable p => ⟨.colon, ":"⟩ :: ⟨.identifier, p.root⟩ :: p.rest.flatMap Segment.written

def IsWritable : Term → Prop
  | .literal l => l.IsWritable
  | .variable p => Token.IsFreeName p.root ∧ ∀ s ∈ p.rest, s.IsWritable

end Term

namespace Operand

def written (o : Operand) : List Word := o.term.written ++ o.pipes.flatMap PipeCall.written

structure IsWritable (o : Operand) : Prop where
  term : o.term.IsWritable
  pipes : ∀ c ∈ o.pipes, c.IsWritable

end Operand

namespace Expr

namespace Level

def rank : Level → Nat
  | .unary => 0
  | .comparison => 1
  | .conjunction => 2
  | .disjunction => 3

/-- Brackets around an expression that binds more loosely than its place allows. -/
def fit (inner outer : Level) (ws : List Word) : List Word :=
  if inner.rank ≤ outer.rank then ws else Token.enclosed ws

end Level

/-- The words of an expression where the grammar asks for one of the level. -/
def written : Level → Expr → List Word
  | _, .operand o => o.written
  | _, .not e => ⟨.not, "!"⟩ :: written .unary e
  | level, .compare c left right _ =>
    Level.fit .comparison level
      (written .unary left ++ ⟨.comparison c, c.symbol⟩ :: written .unary right)
  | level, .and left right =>
    Level.fit .conjunction level
      (written .conjunction left ++ ⟨.and, "&&"⟩ :: written .comparison right)
  | level, .or left right =>
    Level.fit .disjunction level
      (written .disjunction left ++ ⟨.or, "||"⟩ :: written .conjunction right)

def IsWritable (e : Expr) : Prop := ∀ o ∈ e.operands, o.IsWritable

end Expr

theorem PipeCall.fits_written {c : PipeCall} (h : c.IsWritable) : ∀ w ∈ c.written, w.Fits := by
  have hbar : Word.Fits ⟨.pipe, "|"⟩ := Word.fits_symbol (by decide)
  have hname : Word.Fits ⟨.identifier, c.name⟩ := Word.fits_name h.name.1 h.name.2
  refine List.forall_mem_cons.2 ⟨hbar, List.forall_mem_cons.2 ⟨hname, ?_⟩⟩
  split
  · simp
  · exact Token.fits_enclosed (Literal.fits_listed h.args)

theorem Term.fits_written {x : Term} (h : x.IsWritable) : ∀ w ∈ x.written, w.Fits := by
  cases x with
  | literal l => exact List.forall_mem_singleton.2 (Literal.fits_written h)
  | «variable» p =>
    have hcolon : Word.Fits ⟨.colon, ":"⟩ := Word.fits_symbol (by decide)
    have hroot : Word.Fits ⟨.identifier, p.root⟩ := Word.fits_name h.1.1 h.1.2
    refine List.forall_mem_cons.2 ⟨hcolon, List.forall_mem_cons.2 ⟨hroot, fun w hw => ?_⟩⟩
    obtain ⟨s, -, hs⟩ := List.mem_flatMap.1 hw
    exact s.fits_written w hs

theorem Operand.fits_written {o : Operand} (h : o.IsWritable) : ∀ w ∈ o.written, w.Fits := by
  refine List.forall_mem_append.2 ⟨Term.fits_written h.term, fun w hw => ?_⟩
  obtain ⟨c, hc, hw⟩ := List.mem_flatMap.1 hw
  exact PipeCall.fits_written (h.pipes c hc) w hw

theorem Expr.Level.fits_between (inner outer : Expr.Level) {left right : List Word} {sign : Word}
    (hl : ∀ w ∈ left, w.Fits) (hs : sign.Fits) (hr : ∀ w ∈ right, w.Fits) :
    ∀ w ∈ inner.fit outer (left ++ sign :: right), w.Fits := by
  have hall := List.forall_mem_append.2 ⟨hl, List.forall_mem_cons.2 ⟨hs, hr⟩⟩
  unfold fit
  split
  · exact hall
  · exact Token.fits_enclosed hall

theorem Expr.fits_written {e : Expr} (h : e.IsWritable) (level : Expr.Level) :
    ∀ w ∈ e.written level, w.Fits := by
  induction e generalizing level with
  | operand o => exact Operand.fits_written (h o List.mem_cons_self)
  | not e ih =>
    have hnot : Word.Fits ⟨.not, "!"⟩ := Word.fits_symbol (by decide)
    exact List.forall_mem_cons.2 ⟨hnot, ih h .unary⟩
  | compare c left right pos ihl ihr =>
    obtain ⟨hl, hr⟩ := List.forall_mem_append.1 h
    have hsign : Word.Fits ⟨.comparison c, c.symbol⟩ := Word.fits_symbol (by cases c <;> decide)
    exact Level.fits_between _ level (ihl hl .unary) hsign (ihr hr .unary)
  | and left right ihl ihr =>
    obtain ⟨hl, hr⟩ := List.forall_mem_append.1 h
    have hsign : Word.Fits ⟨.and, "&&"⟩ := Word.fits_symbol (by decide)
    exact Level.fits_between _ level (ihl hl .conjunction) hsign (ihr hr .comparison)
  | or left right ihl ihr =>
    obtain ⟨hl, hr⟩ := List.forall_mem_append.1 h
    have hsign : Word.Fits ⟨.or, "||"⟩ := Word.fits_symbol (by decide)
    exact Level.fits_between _ level (ihl hl .disjunction) hsign (ihr hr .conjunction)

end LineTemplate
