import Mathlib
import LineTemplate.Proofs.PathReaders

/-!
# Indexes and the keys that are their numerals

An index and the key that is its numeral lead to the same thing from every value: an object takes
the index as that key, and an array takes the key as that index. So the two may stand for each other
anywhere in a path, and an index may be written behind a point, in brackets, or quoted in brackets
without a difference, in directives as in placeholders.
-/

namespace LineTemplate

/-! ### Steps from a value -/

/-- The second segment is the first one, or the key that is the numeral of the first one. -/
inductive Segment.Renamed : Segment → Segment → Prop
  | same (s : Segment) : Renamed s s
  | numeral {i : Nat} : i < indexLimit → Renamed (.index i) (.key (indexName i))

theorem Segment.Renamed.child_eq {s t : Segment} (h : s.Renamed t) (v : Value) :
    child v s = child v t := by
  cases h with
  | same => rfl
  | numeral hi =>
    cases v with
    | object fields => rfl
    | array items => simp only [child, index?_indexName hi, Option.bind_some]
    | _ => rfl

theorem Accessor.resolve_renamed {p q : List Segment} (h : List.Forall₂ Segment.Renamed p q)
    (v : Value) : resolve Segment.child v p = resolve Segment.child v q := by
  induction h generalizing v with
  | nil => rfl
  | cons hs _ ih =>
    rw [resolve, resolve, hs.child_eq]
    exact Option.bind_congr fun next _ => ih next

/-- One of the segments is another one that leads to the same. -/
theorem Accessor.resolve_around {s t : Segment} (h : s.Renamed t) (front back : List Segment)
    (v : Value) : resolve Segment.child v (front ++ t :: back) =
      resolve Segment.child v (front ++ s :: back) := by
  have hsame : ∀ p : List Segment, List.Forall₂ Segment.Renamed p p := fun p =>
    List.forall₂_same.2 fun s _ => .same s
  exact (resolve_renamed (List.rel_append (hsame front) (.cons h (hsame back))) v).symm

/-! ### Indexes in writing -/

namespace Segment
open Token (IsQuote)

/-- The ways to write an index as a step. -/
inductive WritesIndex (i : Nat) : List Char → Prop
  | point : WritesIndex i ('.' :: Numeral.digits i)
  | bracket : WritesIndex i ('[' :: (Numeral.digits i ++ [']']))
  | quoted {q : Char} : IsQuote q →
      WritesIndex i ('[' :: ((q :: (Numeral.digits i ++ [q])) ++ [']']))

theorem ne_of_mem_digits {i : Nat} {c d : Char} (hc : c ∈ Numeral.digits i)
    (hd : d.isDigit = false) : c ≠ d := by
  rintro rfl
  rw [Numeral.isDigit_of_mem_digits hc] at hd
  cases hd

end Segment

/-! ### Steps in placeholders -/

namespace Text

theorem dropEndWhile_of_last {p : Char → Bool} {c : Char} {front w : List Char} (h : p c = false)
    (hw : ∀ d ∈ w, p d = true) : dropEndWhile p ((front ++ [c]) ++ w) = front ++ [c] := by
  have hreverse : ∀ d ∈ w.reverse, p d = true := fun d hd => hw d (List.mem_reverse.1 hd)
  rw [dropEndWhile, List.reverse_append, List.dropWhile_append_of_pos hreverse,
    List.reverse_append, List.reverse_singleton, List.singleton_append,
    List.dropWhile_cons_of_neg (by rw [h]; decide), List.reverse_cons, List.reverse_reverse]

end Text

namespace Path
open Segment (WritesIndex Renamed)

section Steps

variable {cs ds w w' : List Char} {p q : List Segment}

theorem Steps.head (h : Steps cs p) : ∀ c ∈ cs.head?, (!isBreak c) = false := by
  cases h with
  | nil => simp
  | point | bracket =>
    rintro c ⟨⟩
    decide

theorem Steps.append (h : Steps cs p) (h' : Steps ds q) : Steps (cs ++ ds) (p ++ q) := by
  induction h with
  | nil => exact h'
  | @point name rest s more hname hrest hs _ ih =>
    have hhead : ∀ c ∈ (rest ++ ds).head?, (!isBreak c) = false := by
      cases rest with
      | nil => exact h'.head
      | cons d rest => exact hrest
    rw [List.cons_append, List.append_assoc]
    exact .point hname hhead hs ih
  | bracket hinside hs _ ih =>
    rw [List.cons_append, List.append_assoc, List.cons_append]
    exact .bracket hinside hs ih

/-- Steps do not end in white space. -/
theorem Steps.last (h : Steps cs p) :
    cs = [] ∨ ∃ front c, cs = front ++ [c] ∧ Text.isSpace c = false := by
  have hbehind : ∀ front rest : List Char,
      (rest = [] ∨ ∃ more c, rest = more ++ [c] ∧ Text.isSpace c = false) →
      (∃ more c, front = more ++ [c] ∧ Text.isSpace c = false) →
      ∃ more c, front ++ rest = more ++ [c] ∧ Text.isSpace c = false := by
    rintro front rest (rfl | ⟨more, c, rfl, hc⟩) hfront
    · rw [List.append_nil]
      exact hfront
    · exact ⟨front ++ more, c, (List.append_assoc ..).symm, hc⟩
  induction h with
  | nil => exact .inl rfl
  | @point name rest s more _ _ hs _ ih =>
    refine .inr (hbehind ('.' :: name) rest ih ?_)
    rcases name.eq_nil_or_concat with rfl | ⟨front, c, rfl⟩
    · exact ⟨[], '.', rfl, by decide⟩
    · rw [List.concat_eq_append] at hs ⊢
      refine ⟨'.' :: front, c, rfl, ?_⟩
      rcases isNamePart_of_dotted? hs c (by simp) with hc | rfl
      · exact Token.isSpace_of_isNamePart hc
      · decide
  | @bracket inside after s more _ _ _ ih =>
    have hsplit : '[' :: (inside ++ ']' :: after) = ('[' :: (inside ++ [']'])) ++ after := by simp
    rw [hsplit]
    exact .inr (hbehind _ _ ih ⟨'[' :: inside, ']', rfl, by decide⟩)

theorem Steps.segments?_eq (h : Steps cs p) : segments? cs = some p := by
  induction h with
  | nil => rw [segments?]
  | point hname hrest hs _ ih =>
    rw [segments?_point hname hrest, hs, ih]
    rfl
  | bracket hinside hs _ ih =>
    rw [segments?_bracket hinside, hs, ih]
    rfl

theorem Steps.dropEndWhile_eq (h : Steps cs p) (hw : ∀ c ∈ w, Text.isSpace c = true) :
    Text.dropEndWhile Text.isSpace (cs ++ w) = cs := by
  rcases h.last with rfl | ⟨front, c, rfl, hc⟩
  · have hall : ∀ c ∈ w.reverse, Text.isSpace c = true := fun c hc => hw c (List.mem_reverse.1 hc)
    rw [List.nil_append, Text.dropEndWhile, List.dropWhile_eq_nil_iff.2 hall, List.reverse_nil]
  · exact Text.dropEndWhile_of_last hc hw

/-- A placeholder reads a name and steps, white space around them aside. -/
theorem ofChars?_of_steps {root : String} (hr : Token.isName root.toList = true)
    (hw : ∀ c ∈ w, Text.isSpace c = true) (h : Steps cs p)
    (hw' : ∀ c ∈ w', Text.isSpace c = true) :
    ofChars? (w ++ (root.toList ++ (cs ++ w'))) = some ⟨root, p⟩ := by
  have htrim : ∀ t, Text.trimChars (w ++ t) = Text.trimChars t := fun t => by
    rw [Text.trimChars, Text.trimChars, List.dropWhile_append_of_pos hw]
  have hlead : ofChars? (w ++ (root.toList ++ (cs ++ w'))) =
      ofChars? (root.toList ++ (cs ++ w')) := by
    simp only [ofChars?, htrim]
  have hkeep := h.dropEndWhile_eq hw'
  have hhead := h.head
  rw [← hkeep] at hhead
  rw [hlead, ofChars?_append hr hhead, hkeep, h.segments?_eq, String.ofList_toList]
  rfl

theorem bracketed?_quoted {q : Char} (hq : Token.IsQuote q) (name : List Char) :
    bracketed? (q :: (name ++ [q])) = some (.key (String.ofList name)) := by
  have hspace := isSpace_of_isQuote hq
  have hkeep := @Text.dropEndWhile_of_last Text.isSpace q (q :: name) [] hspace (by simp)
  rw [List.append_nil] at hkeep
  have htrim : Text.trimChars (q :: (name ++ [q])) = q :: (name ++ [q]) := by
    rw [Text.trimChars, List.dropWhile_cons_of_neg (by rw [hspace]; decide)]
    exact hkeep
  have hname : unquote? (q :: (name ++ [q])) = some name := by
    rw [unquote?, htrim]
    simp only [List.getLast?_concat, List.dropLast_concat, and_true]
    exact if_pos hq
  rw [bracketed?, hname]

theorem WritesIndex.steps {i : Nat} (h : WritesIndex i ds) (hi : i < Segment.indexLimit) :
    ∃ s, Renamed (.index i) s ∧ ∀ {es q}, Steps es q → Steps (ds ++ es) (s :: q) := by
  have hbracket : ']' ∉ Numeral.digits i := fun hc =>
    Segment.ne_of_mem_digits hc (by decide) rfl
  cases h with
  | point =>
    refine ⟨_, .same _, fun hq => .point (fun c hc => ?_) hq.head ?_ hq⟩
    · have hdigit := Numeral.isDigit_of_mem_digits hc
      rw [isBreak_of_isNamePart (Token.isNamePart_of_isDigit hdigit)]
      rfl
    · rw [dotted?, Segment.index?_digits hi]
  | bracket =>
    refine ⟨_, .same _, fun hq => ?_⟩
    rw [List.cons_append, List.append_assoc, List.singleton_append]
    exact .bracket hbracket (bracketed?_digits hi) hq
  | @quoted c hc =>
    refine ⟨_, .numeral hi, fun hq => ?_⟩
    have hinside : ']' ∉ c :: (Numeral.digits i ++ [c]) := by
      have hne : ']' ≠ c := by rcases hc with rfl | rfl <;> decide
      simp only [List.mem_cons, List.mem_append, List.not_mem_nil, or_false, not_or]
      exact ⟨hne, hbracket, hne⟩
    rw [List.cons_append, List.append_assoc, List.singleton_append]
    exact .bracket hinside (bracketed?_quoted hc _) hq

end Steps

end Path

/-! ### Steps in directives -/

namespace Token

def AllGaps (cs : List Char) : Prop := ∀ c ∈ cs, isGap c = true

/-- The step is written on a line, perhaps with gaps between its tokens. -/
inductive SpellsStep : Segment → List Char → Prop
  | name {gap : List Char} {name : String} :
      AllGaps gap → IsFreeName name → SpellsStep (.key name) ('.' :: (gap ++ name.toList))
  | point {gap ds : List Char} {d : Char} {i : Nat} :
      AllGaps gap → (∀ c ∈ d :: ds, c.isDigit = true) → Segment.index? (d :: ds) = some i →
      SpellsStep (.index i) ('.' :: (gap ++ d :: ds))
  | bracket {gap gap' ds : List Char} {d : Char} {i : Nat} :
      AllGaps gap → AllGaps gap' → (∀ c ∈ d :: ds, c.isDigit = true) →
      Segment.index? (d :: ds) = some i →
      SpellsStep (.index i) ('[' :: (gap ++ (d :: ds ++ (gap' ++ [']']))))
  | quoted {gap gap' body content : List Char} {q : Char} :
      AllGaps gap → AllGaps gap' → IsQuote q → Quoted q body content →
      SpellsStep (.key (String.ofList content))
        ('[' :: (gap ++ (q :: (body ++ [q]) ++ (gap' ++ [']']))))

inductive SpellsSteps : List Segment → List Char → Prop
  | nil : SpellsSteps [] []
  | cons {s : Segment} {more : List Segment} {gap cs rest : List Char} :
      AllGaps gap → SpellsStep s cs → SpellsSteps more rest →
      SpellsSteps (s :: more) (gap ++ (cs ++ rest))

/-- What comes next neither goes on with a word nor is a point. -/
def EndsPath (rest : List Char) : Prop := ∀ c ∈ rest.head?, isNamePart c = false ∧ c ≠ '.'

/-- In front of `rest` the characters fall into the tokens of a row of steps. -/
def CutsSteps (line : Nat) (rest : List Char) (p : List Segment) (cs : List Char) : Prop :=
  ∀ column, ∃ ts column', cutFrom line column (cs ++ rest) = ts ++ cutFrom line column' rest ∧
    Segment.YieldsList p ts

section Steps

variable {line : Nat} {gap gap' rest cs ds : List Char} {p q : List Segment} {s : Segment}

theorem allGaps_nil : AllGaps [] := fun _ hc => by cases hc

theorem SpellsSteps.append (h : SpellsSteps p cs) (h' : SpellsSteps q ds) :
    SpellsSteps (p ++ q) (cs ++ ds) := by
  induction h with
  | nil => exact h'
  | cons hg hs _ ih =>
    rw [List.append_assoc, List.append_assoc]
    exact .cons hg hs ih

theorem quoted_of_plain {q : Char} {name : List Char} (h : ∀ c ∈ name, c ≠ q ∧ c ≠ '\\') :
    Quoted q name name := by
  induction name with
  | nil => exact .nil
  | cons c name ih =>
    obtain ⟨hc, hname⟩ := List.forall_mem_cons.1 h
    exact .plain hc.1 hc.2 (ih hname)

theorem SpellsStep.of_writesIndex {i : Nat} (h : Segment.WritesIndex i cs)
    (hi : i < Segment.indexLimit) : ∃ s, Segment.Renamed (.index i) s ∧ SpellsStep s cs := by
  have hindex := Segment.index?_digits hi
  have hdigits : ∀ c ∈ Numeral.digits i, c.isDigit = true := fun c =>
    Numeral.isDigit_of_mem_digits
  cases h with
  | point =>
    obtain ⟨d, ds, he⟩ := List.exists_cons_of_ne_nil (Numeral.digits_ne_nil i)
    rw [he] at hindex hdigits ⊢
    exact ⟨_, .same _, .point allGaps_nil hdigits hindex⟩
  | bracket =>
    obtain ⟨d, ds, he⟩ := List.exists_cons_of_ne_nil (Numeral.digits_ne_nil i)
    rw [he] at hindex hdigits ⊢
    exact ⟨_, .same _, .bracket allGaps_nil allGaps_nil hdigits hindex⟩
  | @quoted q hq =>
    refine ⟨_, .numeral hi, .quoted allGaps_nil allGaps_nil hq (quoted_of_plain fun c hc => ?_)⟩
    refine ⟨Segment.ne_of_mem_digits hc ?_, Segment.ne_of_mem_digits hc (by decide)⟩
    rcases hq with rfl | rfl <;> decide

/-! ### What stands behind a step -/

theorem isNamePart_of_isGap {c : Char} (h : isGap c = true) : isNamePart c = false := by
  rcases isGap_iff.1 h with rfl | rfl | rfl | rfl <;> decide

theorem SpellsStep.exists_cons (h : SpellsStep s cs) :
    ∃ c more, cs = c :: more ∧ (c = '.' ∨ c = '[') := by
  cases h with
  | name | point => exact ⟨_, _, rfl, .inl rfl⟩
  | bracket | quoted => exact ⟨_, _, rfl, .inr rfl⟩

theorem EndsPath.stops (hr : EndsPath rest) (h : SpellsSteps p cs) :
    ∀ c ∈ (cs ++ rest).head?, isNamePart c = false := by
  cases h with
  | nil => exact fun c hc => (hr c hc).1
  | @cons s more gap cs ds hg hs _ =>
    cases gap with
    | cons g gap =>
      rintro c ⟨⟩
      exact isNamePart_of_isGap (hg g List.mem_cons_self)
    | nil =>
      obtain ⟨c, more, rfl, hc⟩ := hs.exists_cons
      rintro d ⟨⟩
      rcases hc with rfl | rfl <;> decide

/-- A point with a digit behind it begins a step, which is an index. -/
theorem SpellsSteps.index_of_digit {more : List Char} {e : Char} (h : SpellsSteps p cs)
    (hr : EndsPath rest) (he : e.isDigit = true) (hcs : cs ++ rest = '.' :: e :: more) :
    ∃ j p' es cs', p = .index j :: p' ∧ cs = '.' :: (e :: es ++ cs') ∧
      (∀ d ∈ e :: es, d.isDigit = true) ∧ Segment.index? (e :: es) = some j ∧
      SpellsSteps p' cs' := by
  have hpart := isNamePart_of_isDigit he
  have hnogap : ∀ {gap : List Char}, AllGaps gap → ∀ tail, gap ++ tail = e :: more →
      tail = e :: more := by
    intro gap hg tail htail
    cases gap with
    | nil => exact htail
    | cons g gap =>
      obtain rfl := (List.cons.inj htail).1
      rw [isNamePart_of_isGap (hg g List.mem_cons_self)] at hpart
      cases hpart
  cases h with
  | nil =>
    rw [List.nil_append] at hcs
    exact absurd rfl (hr '.' (by rw [hcs]; rfl)).2
  | @cons s p' gap cs cs' hg hs hm =>
    cases gap with
    | cons g gap =>
      have hgap : isGap g = true := hg g List.mem_cons_self
      obtain rfl := (List.cons.inj hcs).1
      cases hgap
    | nil =>
      rw [List.nil_append, List.append_assoc] at hcs
      cases hs with
      | bracket | quoted => cases hcs
      | @name gap name hgap hn =>
        have htail := hnogap hgap _ ((List.append_assoc ..).symm.trans (List.cons.inj hcs).2)
        have hname := hn.1
        cases hl : name.toList with
        | nil =>
          rw [hl] at hname
          cases hname
        | cons c name =>
          rw [hl] at htail hname
          obtain rfl := (List.cons.inj htail).1
          rw [isName, isNameStart_of_isDigit he] at hname
          cases hname
      | @point gap es d j hgap hd hj =>
        have htail := hnogap hgap _ ((List.append_assoc ..).symm.trans (List.cons.inj hcs).2)
        obtain rfl := (List.cons.inj htail).1
        cases gap with
        | nil => exact ⟨j, p', es, cs', rfl, rfl, hd, hj, hm⟩
        | cons g gap =>
          have hg : g = d := (List.cons.inj (List.cons.inj hcs).2).1
          rw [isNamePart_of_isGap (hg ▸ hgap g List.mem_cons_self)] at hpart
          cases hpart

/-! ### Steps in tokens -/

theorem CutsSteps.skip (hg : AllGaps gap) (h : CutsSteps line rest p cs) :
    CutsSteps line rest p (gap ++ cs) := by
  intro column
  obtain ⟨ts, column', hcut, hy⟩ := h (column + gap.length)
  refine ⟨ts, column', ?_, hy⟩
  rw [List.append_assoc, cutFrom_gap hg, hcut]

/-- A name is one token. -/
theorem exists_cutFrom_name {name : String} (hn : IsFreeName name)
    (hstop : ∀ c ∈ cs.head?, isNamePart c = false) (line column : Nat) :
    ∃ column', cutFrom line column (name.toList ++ cs) =
      ⟨.identifier, name, ⟨line, column⟩⟩ :: cutFrom line column' cs := by
  have hname := hn.1
  cases he : name.toList with
  | nil =>
    rw [he] at hname
    cases hname
  | cons c w =>
    rw [he, isName, Bool.and_eq_true, List.all_eq_true] at hname
    have hstring : String.ofList (c :: w) = name := by
      rw [← he, String.ofList_toList]
    have hkind : nameKind (c :: w) = .identifier := by
      refine if_neg fun hw => hn.2 ?_
      rw [← hstring, hw]
    refine ⟨column + 1 + w.length, ?_⟩
    rw [List.cons_append, cutFrom_name hname.1 hname.2 hstop, hkind, hstring]

theorem CutsSteps.name {name : String} (hg : AllGaps gap) (hn : IsFreeName name)
    (hstop : ∀ c ∈ (cs ++ rest).head?, isNamePart c = false) (h : CutsSteps line rest p cs) :
    CutsSteps line rest (.key name :: p) ('.' :: (gap ++ name.toList) ++ cs) := by
  intro column
  obtain ⟨column', hname⟩ := exists_cutFrom_name hn hstop line (column + 1 + gap.length)
  obtain ⟨ts, column'', hcut, hy⟩ := h column'
  let d : Token := ⟨.dot, ".", ⟨line, column⟩⟩
  let k : Token := ⟨.identifier, name, ⟨line, column + 1 + gap.length⟩⟩
  have hkey : Segment.Yields [.key k.literal] [d, k] := .key rfl rfl
  refine ⟨d :: k :: ts, column'', ?_, .cons hkey hy⟩
  rw [List.cons_append, List.cons_append, List.append_assoc, List.append_assoc,
    cutFrom_single .dot (by decide) (fun _ => rfl) (by simp), cutFrom_gap hg, hname, hcut]
  rfl

theorem CutsSteps.bracketed {inside : List Char} {kind : Kind} {literal : String}
    (hg : AllGaps gap) (hg' : AllGaps gap')
    (hc : ∀ column more, ∃ pos column', cutFrom line column (inside ++ (gap' ++ ']' :: more)) =
      ⟨kind, literal, pos⟩ :: cutFrom line column' (gap' ++ ']' :: more))
    (hs : ∀ l t r : Token, l.kind = .leftBracket → t.kind = kind → t.literal = literal →
      r.kind = .rightBracket → Segment.Yields [s] [l, t, r])
    (h : CutsSteps line rest p cs) :
    CutsSteps line rest (s :: p) ('[' :: (gap ++ (inside ++ (gap' ++ [']']))) ++ cs) := by
  intro column
  obtain ⟨pos, column', hinside⟩ := hc (column + 1 + gap.length) (cs ++ rest)
  obtain ⟨ts, column'', hcut, hy⟩ := h (column' + gap'.length + 1)
  refine ⟨_ :: _ :: _ :: ts, column'', ?_, .cons (hs ⟨.leftBracket, "[", ⟨line, column⟩⟩
    ⟨kind, literal, pos⟩ ⟨.rightBracket, "]", ⟨line, column' + gap'.length⟩⟩ rfl rfl rfl rfl) hy⟩
  have hsplit : '[' :: (gap ++ (inside ++ (gap' ++ [']']))) ++ cs ++ rest =
      '[' :: (gap ++ (inside ++ (gap' ++ ']' :: (cs ++ rest)))) := by
    simp only [List.cons_append, List.append_assoc, List.nil_append]
  rw [hsplit, cutFrom_single .leftBracket (by decide) (fun _ => rfl) (by simp), cutFrom_gap hg,
    hinside, cutFrom_gap hg', cutFrom_single .rightBracket (by decide) (fun _ => rfl) (by simp),
    hcut]
  rfl

theorem CutsSteps.quoted {q : Char} {body content : List Char} (hg : AllGaps gap)
    (hg' : AllGaps gap') (hq : IsQuote q) (hb : Quoted q body content)
    (h : CutsSteps line rest p cs) : CutsSteps line rest (.key (String.ofList content) :: p)
      ('[' :: (gap ++ (q :: (body ++ [q]) ++ (gap' ++ [']']))) ++ cs) := by
  refine @CutsSteps.bracketed _ _ _ _ _ _ _ _ .string (String.ofList content) hg hg'
    (fun column more => ?_) ?_ h
  · rw [List.cons_append, List.append_assoc, List.singleton_append]
    exact cutFrom_string line column hq hb _
  · rintro l ⟨kind, literal, pos⟩ r hl rfl rfl hr
    exact @Segment.Yields.bracketKey l ⟨.string, _, pos⟩ r hl rfl hr

theorem CutsSteps.bracket {d : Char} {i : Nat} (hg : AllGaps gap) (hg' : AllGaps gap')
    (hd : ∀ c ∈ d :: ds, c.isDigit = true) (hi : Segment.index? (d :: ds) = some i)
    (h : CutsSteps line rest p cs) :
    CutsSteps line rest (.index i :: p)
      ('[' :: (gap ++ (d :: ds ++ (gap' ++ [']']))) ++ cs) := by
  obtain ⟨hc, hds⟩ := List.forall_mem_cons.1 hd
  refine @CutsSteps.bracketed _ _ _ _ _ _ _ _ .number (String.ofList (d :: ds)) hg hg'
    (fun column more => ?_) ?_ h
  · have hhead : ∀ c ∈ (gap' ++ ']' :: more).head?, c.isDigit = false ∧ c ≠ '.' := by
      cases gap' with
      | nil =>
        rintro c ⟨⟩
        decide
      | cons g gap' =>
        rintro c ⟨⟩
        rcases isGap_iff.1 (hg' g List.mem_cons_self) with rfl | rfl | rfl | rfl <;> decide
    have hcut := cutFrom_number line column hc hds (.inl rfl : IsFraction [])
      (fun c hc => (hhead c hc).1) fun _ => fractionLength_of_ne fun c hc => (hhead c hc).2
    rw [List.nil_append, List.append_nil] at hcut
    exact hcut
  · rintro l ⟨kind, literal, pos⟩ r hl rfl rfl hr
    refine .bracketIndex hl rfl ?_ hr
    rw [String.toList_ofList]
    exact hi

/-- The digits behind a point, with the fraction that may follow, are one token. -/
theorem CutsSteps.number {d : Char} {fraction : List Char} {us : List Segment} (hg : AllGaps gap)
    (hd : ∀ c ∈ d :: ds, c.isDigit = true) (hf : IsFraction fraction)
    (hstop : ∀ c ∈ (cs ++ rest).head?, isNamePart c = false)
    (hpoint : fraction = [] → Token.fractionLength (cs ++ rest) = 0)
    (hs : ∀ t n : Token, t.kind = .dot → n.kind = .number →
      n.literal = String.ofList (d :: (ds ++ fraction)) → Segment.Yields us [t, n])
    (h : CutsSteps line rest p cs) :
    CutsSteps line rest (us ++ p) ('.' :: (gap ++ d :: ds) ++ (fraction ++ cs)) := by
  intro column
  obtain ⟨hc, hds⟩ := List.forall_mem_cons.1 hd
  obtain ⟨pos, column', hnumber⟩ := cutFrom_number line (column + 1 + gap.length) hc hds hf
    (fun c hc => Path.isDigit_of_not_isNamePart (hstop c hc)) hpoint
  obtain ⟨ts, column'', hcut, hy⟩ := h column'
  let t : Token := ⟨.dot, ".", ⟨line, column⟩⟩
  let n : Token := ⟨.number, String.ofList (d :: (ds ++ fraction)), pos⟩
  refine ⟨t :: n :: ts, column'', ?_, .cons (hs t n rfl rfl rfl) hy⟩
  have hsplit : '.' :: (gap ++ d :: ds) ++ (fraction ++ cs) ++ rest =
      '.' :: (gap ++ d :: (ds ++ (fraction ++ (cs ++ rest)))) := by
    simp only [List.cons_append, List.append_assoc]
  rw [hsplit, cutFrom_single .dot (by decide) (fun _ => rfl) (by simp), cutFrom_gap hg, hnumber,
    hcut]
  rfl

theorem CutsSteps.point {d : Char} {i : Nat} (hg : AllGaps gap)
    (hd : ∀ c ∈ d :: ds, c.isDigit = true) (hi : Segment.index? (d :: ds) = some i)
    (hstop : ∀ c ∈ (cs ++ rest).head?, isNamePart c = false)
    (hpoint : Token.fractionLength (cs ++ rest) = 0) (h : CutsSteps line rest p cs) :
    CutsSteps line rest (.index i :: p) ('.' :: (gap ++ d :: ds) ++ cs) := by
  refine @CutsSteps.number _ _ _ _ _ _ _ [] [.index i] hg hd (.inl rfl) hstop (fun _ => hpoint)
    (fun t n ht hn hl => .index ht hn ?_ hi) h
  rw [hl, List.append_nil, String.toList_ofList]
  exact Reader.splitPoint_of_digits hd

/-- Two indexes behind points are one decimal. -/
theorem CutsSteps.decimal {d e : Char} {es : List Char} {i j : Nat} (hg : AllGaps gap)
    (hd : ∀ c ∈ d :: ds, c.isDigit = true) (hi : Segment.index? (d :: ds) = some i)
    (he : ∀ c ∈ e :: es, c.isDigit = true) (hj : Segment.index? (e :: es) = some j)
    (hstop : ∀ c ∈ (cs ++ rest).head?, isNamePart c = false) (h : CutsSteps line rest p cs) :
    CutsSteps line rest (.index i :: .index j :: p)
      ('.' :: (gap ++ d :: ds) ++ ('.' :: (e :: es ++ cs))) := by
  have hf : IsFraction ('.' :: e :: es) := .inr ⟨e :: es, ⟨by simp, he⟩, rfl⟩
  refine @CutsSteps.number _ _ _ _ _ _ _ ('.' :: e :: es) [.index i, .index j] hg hd hf hstop
    (fun hnil => by cases hnil) (fun t n ht hn hl => .decimal ht hn ?_ hi hj) h
  rw [hl, String.toList_ofList]
  exact Reader.splitPoint_append hd (e :: es)

/-- A line is cut into the tokens of the steps that are written on it. -/
theorem cutsSteps_of_spells (hr : EndsPath rest) (h : SpellsSteps p cs) :
    CutsSteps line rest p cs := by
  -- Two indexes may be one token, so the induction is on the number of steps.
  induction hn : p.length using Nat.strong_induction_on generalizing p cs with
  | h n ih =>
    subst hn
    cases h with
    | nil => exact fun column => ⟨[], column, rfl, .nil⟩
    | @cons s more gap cs left hgap hs hm =>
      refine .skip hgap ?_
      have hstop := hr.stops hm
      have hmore := ih more.length (Nat.lt_succ_self _) hm rfl
      cases hs with
      | name hg hn => exact .name hg hn hstop hmore
      | quoted hg hg' hq hb => exact .quoted hg hg' hq hb hmore
      | bracket hg hg' hd hi => exact .bracket hg hg' hd hi hmore
      | point hg hd hi =>
        by_cases hf : Token.fractionLength (left ++ rest) = 0
        · exact .point hg hd hi hstop hf hmore
        · obtain ⟨e, behind, he, hdigit⟩ := exists_of_fractionLength hf
          obtain ⟨j, last, es, left, rfl, rfl, hes, hj, hl⟩ :=
            hm.index_of_digit hr hdigit he
          have hlast := ih last.length (by simp only [List.length_cons]; omega) hl rfl
          exact .decimal hg hd hi hes hj (hr.stops hl) hlast

end Steps

end Token

/-! ### The same step everywhere -/

namespace Path
open Segment (WritesIndex Renamed)
open Token (AllGaps EndsPath SpellsSteps cutFrom)

/-- The path has this root, and leads from every value where the segments lead. -/
def LeadsAlong (p : Path) (root : String) (segs : List Segment) : Prop :=
  p.root = root ∧
    ∀ v, Accessor.resolve Segment.child v p.rest = Accessor.resolve Segment.child v segs

theorem exists_cut {root : String} {p : List Segment} {gap cs rest : List Char} (line column : Nat)
    (hg : AllGaps gap) (hr : Token.IsFreeName root) (h : SpellsSteps p cs)
    (hrest : EndsPath rest) :
    ∃ ts column', cutFrom line column (':' :: (gap ++ (root.toList ++ (cs ++ rest)))) =
      ts ++ cutFrom line column' rest ∧ (Term.variable ⟨root, p⟩).Yields ts := by
  obtain ⟨column', hroot⟩ :=
    Token.exists_cutFrom_name hr (hrest.stops h) line (column + 1 + gap.length)
  obtain ⟨ts, column'', hcut, hy⟩ := @Token.cutsSteps_of_spells line _ _ _ hrest h column'
  let t : Token := ⟨.identifier, root, ⟨line, column + 1 + gap.length⟩⟩
  have hpath : Path.Yields ⟨t.literal, p⟩ (t :: ts) := .mk rfl hy
  refine ⟨⟨.colon, ":", ⟨line, column⟩⟩ :: t :: ts, column'', ?_, .path rfl hpath⟩
  rw [Token.cutFrom_single .colon (by decide) (fun _ => rfl) (by simp), Token.cutFrom_gap hg,
    hroot, hcut]
  rfl

/-- Indexes may be taken for the keys that are their numerals, any number of them in a path, without
a change to what the path leads to. So it makes no difference how an index is written as a step,
whatever steps are in front of it and behind it, be it in a placeholder or in a directive. -/
theorem resolve_eq_of_renamed :
    (∀ (v : Value) (p q : List Segment), List.Forall₂ Renamed p q →
      Accessor.resolve Segment.child v p = Accessor.resolve Segment.child v q) ∧
    ∀ (root : String) (front back : List Segment) (i : Nat) (cs ds es : List Char),
      i < Segment.indexLimit → WritesIndex i ds →
      (Token.isName root.toList = true → Steps cs front → Steps es back →
        ∀ w w' : List Char, (∀ c ∈ w ++ w', Text.isSpace c = true) →
        ∃ p : Path, ofChars? (w ++ (root.toList ++ (cs ++ (ds ++ es) ++ w'))) = some p ∧
          p.LeadsAlong root (front ++ .index i :: back)) ∧
      (Token.IsFreeName root → SpellsSteps front cs → SpellsSteps back es →
        ∀ (line column : Nat) (gap rest : List Char), AllGaps gap → EndsPath rest →
        ∃ (p : Path) (ts : List Token) (column' : Nat),
          cutFrom line column (':' :: (gap ++ (root.toList ++ (cs ++ (ds ++ es) ++ rest)))) =
            ts ++ cutFrom line column' rest ∧ (Term.variable p).Yields ts ∧
          p.LeadsAlong root (front ++ .index i :: back)) := by
  refine ⟨fun v p q h => Accessor.resolve_renamed h v, ?_⟩
  intro root front back i cs ds es hi hindex
  constructor
  · intro hr hfront hback w w' hw
    obtain ⟨hw, hw'⟩ := List.forall_mem_append.1 hw
    obtain ⟨s, hs, hsteps⟩ := WritesIndex.steps hindex hi
    have hall : Steps (cs ++ (ds ++ es)) (front ++ s :: back) := hfront.append (hsteps hback)
    exact ⟨⟨root, front ++ s :: back⟩, ofChars?_of_steps hr hw hall hw', rfl,
      Accessor.resolve_around hs front back⟩
  · intro hr hfront hback line column gap rest hg hrest
    obtain ⟨s, hs, hspells⟩ := Token.SpellsStep.of_writesIndex hindex hi
    have hall : SpellsSteps (front ++ s :: back) (cs ++ (ds ++ es)) :=
      hfront.append (.cons Token.allGaps_nil hspells hback)
    obtain ⟨ts, column', hcut, hy⟩ := exists_cut line column hg hr hall hrest
    exact ⟨⟨root, front ++ s :: back⟩, ts, column', hcut, hy, rfl,
      Accessor.resolve_around hs front back⟩

/-- The index between a key and an index that are written behind points. -/
theorem resolve_eq_of_renamed_quoted :
    (∃ p : Path, ofChars? " a.b['0'].1 ".toList = some p ∧
      p.LeadsAlong "a" [.key "b", .key "0", .key "1"]) ∧
    ∃ (p : Path) (ts : List Token) (column' : Nat),
      cutFrom 2 4 ": a.b['0'] .1 == 5".toList = ts ++ cutFrom 2 column' " == 5".toList ∧
      (Term.variable p).Yields ts ∧ p.LeadsAlong "a" [.key "b", .key "0", .key "1"] := by
  obtain ⟨hrenamed, hwritten⟩ := resolve_eq_of_renamed
  have hnames : Segment.indexName 0 = "0" ∧ Segment.indexName 1 = "1" := by decide +kernel
  have hkeys : List.Forall₂ Renamed [.key "b", .index 0, .index 1]
      [.key "b", .key (Segment.indexName 0), .key (Segment.indexName 1)] :=
    .cons (.same _) (.cons (.numeral (by decide)) (.cons (.numeral (by decide)) .nil))
  rw [hnames.1, hnames.2] at hkeys
  have hindex : WritesIndex 0 "['0']".toList := by
    have hzero : Numeral.digits 0 = ['0'] := by decide +kernel
    have h := @WritesIndex.quoted 0 '\'' (.inl rfl)
    rw [hzero] at h
    exact h
  have hlimit : 0 < Segment.indexLimit := by decide
  have hone : Segment.index? ['1'] = some 1 := by decide +kernel
  constructor
  · have hfront : Steps ".b".toList [.key "b"] := steps_of_segments? (by decide +kernel)
    have hback : Steps ".1".toList [.index 1] := steps_of_segments? (by decide +kernel)
    obtain ⟨p, hread, hroot, hsame⟩ := (hwritten "a" [.key "b"] [.index 1] 0 _ _ _ hlimit
      hindex).1 (by decide) hfront hback [' '] [' ']
      (List.forall_mem_cons.2 ⟨by decide, List.forall_mem_singleton.2 (by decide)⟩)
    exact ⟨p, hread, hroot, fun v => (hsame v).trans (hrenamed v _ _ hkeys)⟩
  · have hfront : SpellsSteps [.key "b"] ".b".toList :=
      .cons Token.allGaps_nil
        (@Token.SpellsStep.name [] "b" Token.allGaps_nil ⟨by decide, by decide⟩) .nil
    have hback : SpellsSteps [.index 1] " .1".toList :=
      @SpellsSteps.cons _ _ [' '] _ _ (List.forall_mem_singleton.2 (by decide))
        (@Token.SpellsStep.point [] [] '1' 1 Token.allGaps_nil
          (List.forall_mem_singleton.2 (by decide)) hone) .nil
    obtain ⟨p, ts, column', hcut, hy, hroot, hsame⟩ := (hwritten "a" [.key "b"] [.index 1] 0 _ _ _
      hlimit hindex).2 ⟨by decide, by decide⟩ hfront hback 2 4 [' '] " == 5".toList
      (List.forall_mem_singleton.2 (by decide)) (by rintro c ⟨⟩; decide)
    exact ⟨p, ts, column', hcut, hy, hroot, fun v => (hsame v).trans (hrenamed v _ _ hkeys)⟩

end Path

end LineTemplate
