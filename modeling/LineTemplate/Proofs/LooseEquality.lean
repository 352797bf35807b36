import LineTemplate.Proofs.Orderings

/-!
# Loose equality

Four rules decide whether two values are equal, and which of them applies depends on both sides. As
long as every number is an integer, a value still has a standing of its own: it is blank, or it is
an integer, or it is its text; and two values are equal just when they stand for the same. For the
text of an integer is a plain decimal, and no truth value, array, object or other string is written
like one. With doubles there is no such standing: one double equals several large integers.
-/

namespace LineTemplate

namespace PlainDecimal

/-- The characters that plain decimals are made of. -/
theorem Writes.forall_mem {cs : List Char} {d : PlainDecimal} (h : Writes cs d) :
    ∀ c ∈ cs, Text.isSpace c = true ∨ c.isDigit = true ∨ c ∈ ['+', '-', '.'] := by
  obtain @⟨front, sign, whole, point, back, negative, fraction, hfront, hsign, hwhole, hpoint,
    hback⟩ := h
  have hmark : ∀ c ∈ sign, c ∈ ['+', '-', '.'] := by
    cases hsign <;> simp
  have hdot : ∀ c ∈ point, c.isDigit = true ∨ c ∈ ['+', '-', '.'] := by
    cases hpoint with
    | none => simp
    | some hds => exact List.forall_mem_cons.2 ⟨by decide, fun c hc => .inl (hds.2 c hc)⟩
  intro c hc
  simp only [List.mem_append] at hc
  rcases hc with hc | (hc | hc | hc) | hc
  · exact .inl (hfront c hc)
  · exact .inr (.inr (hmark c hc))
  · exact .inr (.inl (hwhole.2 c hc))
  · exact .inr (hdot c hc)
  · exact .inl (hback c hc)

end PlainDecimal

namespace Value

variable {a b v : Value} {i : Int}

/-! ### Texts -/

theorem exists_writes_text (h : v.IsInteger i) : ∃ d, PlainDecimal.Writes v.text.toList d := by
  cases h with
  | number =>
    have htext : (number (.int i)).text.toList = Numeral.intChars i := String.toList_ofList
    rw [htext]
    exact ⟨_, PlainDecimal.ofChars?_eq_some_iff.1 (Reader.ofChars?_intChars i)⟩
  | string hd => exact ⟨_, hd⟩

theorem not_writes_text (h : ¬ v.IsNumeric) (d : PlainDecimal) :
    ¬ PlainDecimal.Writes v.text.toList d := by
  intro hd
  have hdigit : v.text.toList.any Char.isDigit = true := List.any_eq_true.2 hd.exists_digit
  cases v with
  | null => exact absurd hdigit (by decide)
  | bool x => cases x <;> exact absurd hdigit (by decide)
  | number n => exact h (.number n)
  | string s => exact h (.string hd)
  | array items =>
    have hopen : '[' ∈ (array items).text.toList := by
      cases items <;> simp [text, Json.write, Json.chars]
    exact absurd (hd.forall_mem _ hopen) (by simp [Text.isSpace])
  | object fields =>
    have hopen : '\x7b' ∈ (object fields).text.toList := by
      cases fields <;> simp [text, Json.write, Json.chars]
    exact absurd (hd.forall_mem _ hopen) (by simp [Text.isSpace])

theorem text_ne (ha : a.IsInteger i) (hb : ¬ b.IsNumeric) : a.text ≠ b.text := by
  intro he
  obtain ⟨d, hd⟩ := exists_writes_text ha
  rw [he] at hd
  exact not_writes_text hb d hd

/-! ### The rules of equality -/

theorem looseEq_of_isBlank (h : a.isBlank = true ∨ b.isBlank = true) :
    a.looseEq b = (a.isBlank && b.isBlank) := by
  unfold looseEq
  rw [if_pos (Bool.or_eq_true_iff.2 h)]

theorem looseEq_of_integers {i j : Int} (ha : a.IsInteger i) (hb : b.IsInteger j) :
    a.looseEq b = (i == j) := by
  have hequal := (order_swap (order_of_integers ha hb)).2
  rw [hequal, Bool.eq_iff_iff, beq_iff_eq, beq_iff_eq, compare_eq_iff_eq]

/-- What is not blank and not two numbers is compared by its text, for the two truth values differ
in theirs. -/
theorem looseEq_of_text (ha : a.isBlank = false) (hb : b.isBlank = false)
    (h : ¬ (a.IsNumeric ∧ b.IsNumeric)) : a.looseEq b = (a.text == b.text) := by
  have hreading : a.reading? = none ∨ b.reading? = none := by
    rw [reading?_eq_none, reading?_eq_none]
    exact not_and_or.1 h
  have hrule : a.looseEq b = (a.text == b.text) ∨ ∃ x y, a = bool x ∧ b = bool y := by
    unfold looseEq
    rw [if_neg (by simp [ha, hb])]
    split
    · next _ _ x y => exact .inr ⟨x, y, rfl, rfl⟩
    · split
      · next hx hy => simp [hx, hy] at hreading
      · exact .inl rfl
  rcases hrule with hrule | ⟨x, y, rfl, rfl⟩
  · exact hrule
  · cases x <;> cases y <;> decide

theorem looseEq_self (v : Value) : v.looseEq v = true := by
  cases hblank : v.isBlank with
  | true => rw [looseEq_of_isBlank (.inl hblank), hblank, Bool.and_self]
  | false =>
    by_cases hn : v.IsNumeric
    · obtain ⟨x, hx⟩ := exists_reading hn
      rw [looseEq_of_readings hx hx, Reading.order_self]
      rfl
    · rw [looseEq_of_text hblank hblank (fun h => hn h.1), beq_self_eq_true]

theorem looseEq_comm (a b : Value) : a.looseEq b = b.looseEq a := by
  by_cases hblank : a.isBlank = true ∨ b.isBlank = true
  · rw [looseEq_of_isBlank hblank, looseEq_of_isBlank hblank.symm, Bool.and_comm]
  · rw [not_or, Bool.not_eq_true, Bool.not_eq_true] at hblank
    by_cases hn : a.IsNumeric ∧ b.IsNumeric
    · obtain ⟨o, ho⟩ := exists_order_iff.2 hn
      obtain ⟨hswap, hequal⟩ := order_swap ho
      rw [hequal, (order_swap hswap).2]
      cases o <;> rfl
    · have hm : ¬ (b.IsNumeric ∧ a.IsNumeric) := fun h => hn h.symm
      rw [looseEq_of_text hblank.1 hblank.2 hn, looseEq_of_text hblank.2 hblank.1 hm, Bool.beq_comm]

/-! ### Standings -/

inductive Standing where
  | blank
  | integer (i : Int)
  | text (s : String)
  deriving DecidableEq, Repr

inductive Stands : Value → Standing → Prop
  | blank {v : Value} : v.isBlank = true → Stands v .blank
  | integer {v : Value} {i : Int} : v.IsInteger i → Stands v (.integer i)
  | text {v : Value} : v.isBlank = false → ¬ v.IsNumeric → Stands v (.text v.text)

/-- The value counts as no double: if it counts as a number, then as an integer. -/
def IsExact (v : Value) : Prop := v.IsNumeric → ∃ i, v.IsInteger i

theorem IsExact.exists_stands (h : v.IsExact) : ∃ s, Stands v s := by
  by_cases hn : v.IsNumeric
  · obtain ⟨i, hi⟩ := h hn
    exact ⟨_, .integer hi⟩
  · cases hblank : v.isBlank with
    | true => exact ⟨_, .blank hblank⟩
    | false => exact ⟨_, .text hblank hn⟩

theorem Stands.isBlank {s : Standing} (h : Stands v s) : v.isBlank = decide (s = .blank) := by
  cases h with
  | blank hv => simp [hv]
  | integer hi => simp [hi.isNumeric.isBlank]
  | text hv hn => simp [hv]

/-- Values are equal just when they stand for the same. -/
theorem Stands.looseEq_iff {s t : Standing} (ha : Stands a s) (hb : Stands b t) :
    a.looseEq b = true ↔ s = t := by
  by_cases hblank : s = .blank ∨ t = .blank
  · have hsides : a.isBlank = true ∨ b.isBlank = true := by
      rw [ha.isBlank, hb.isBlank, decide_eq_true_eq, decide_eq_true_eq]
      exact hblank
    rw [looseEq_of_isBlank hsides, ha.isBlank, hb.isBlank, Bool.and_eq_true, decide_eq_true_eq,
      decide_eq_true_eq]
    constructor
    · rintro ⟨rfl, rfl⟩
      rfl
    · rintro rfl
      exact ⟨or_self_iff.1 hblank, or_self_iff.1 hblank⟩
  · cases ha with
    | blank => simp at hblank
    | integer hi =>
      cases hb with
      | blank => simp at hblank
      | integer hj => rw [looseEq_of_integers hi hj, beq_iff_eq, Standing.integer.injEq]
      | text hv hn =>
        rw [looseEq_of_text hi.isNumeric.isBlank hv (fun h => hn h.2), beq_iff_eq]
        exact iff_of_false (text_ne hi hn) nofun
    | text hv hn =>
      cases hb with
      | blank => simp at hblank
      | integer hj =>
        rw [looseEq_of_text hv hj.isNumeric.isBlank (fun h => hn h.1), beq_iff_eq]
        exact iff_of_false (text_ne hj hn).symm nofun
      | text hw hm =>
        rw [looseEq_of_text hv hw (fun h => hn h.1), beq_iff_eq, Standing.text.injEq]

theorem looseEq_trans {a b c : Value} (ha : a.IsExact) (hb : b.IsExact) (hc : c.IsExact)
    (hab : a.looseEq b = true) (hbc : b.looseEq c = true) : a.looseEq c = true := by
  obtain ⟨s, hs⟩ := ha.exists_stands
  obtain ⟨t, ht⟩ := hb.exists_stands
  obtain ⟨u, hu⟩ := hc.exists_stands
  rw [hs.looseEq_iff ht] at hab
  rw [ht.looseEq_iff hu] at hbc
  rw [hs.looseEq_iff hu, hab, hbc]

-- a double between them joins two integers
example : (number (.int 9007199254740992)).looseEq (string "9007199254740992.0") = true ∧
    (string "9007199254740992.0").looseEq (number (.int 9007199254740993)) = true ∧
    (number (.int 9007199254740992)).looseEq (number (.int 9007199254740993)) = false := by
  decide +kernel

/-- Equality is reflexive and symmetric, and transitive where every number is an integer. There the
equal values are those that stand for the same, and no number equals what is none. Everywhere the
blank values are equal to each other only. -/
theorem looseEq_equivalence (a b c : Value) :
    a.looseEq a = true ∧ (a.looseEq b = true → b.looseEq a = true) ∧
      (a.IsExact → b.IsExact → c.IsExact → a.looseEq b = true → b.looseEq c = true →
        a.looseEq c = true) ∧
      (a.IsExact → b.IsExact →
        ∃ s t, Stands a s ∧ Stands b t ∧ (a.looseEq b = true ↔ s = t)) ∧
      (a.IsExact → b.IsExact → a.IsNumeric → ¬ b.IsNumeric → a.looseEq b = false) ∧
      (a.isBlank = true → (a.looseEq b = true ↔ b.isBlank = true)) := by
  refine ⟨looseEq_self a, fun h => ?_, looseEq_trans, fun ha hb => ?_, fun ha _ hn hm => ?_,
    fun hblank => ?_⟩
  · rw [looseEq_comm, h]
  · obtain ⟨s, hs⟩ := ha.exists_stands
    obtain ⟨t, ht⟩ := hb.exists_stands
    exact ⟨s, t, hs, ht, hs.looseEq_iff ht⟩
  · obtain ⟨i, hi⟩ := ha hn
    cases hb : b.isBlank with
    | true => rw [looseEq_of_isBlank (.inr hb), hn.isBlank, Bool.false_and]
    | false =>
      rw [looseEq_of_text hn.isBlank hb (fun h => hm h.2), beq_eq_false_iff_ne]
      exact text_ne hi hm
  · rw [looseEq_of_isBlank (.inl hblank), hblank, Bool.true_and]

/-- Three spellings of one, a truth value, and two blanks. -/
theorem looseEq_equivalence_padded :
    (string " +01 ").looseEq (string "1") = true ∧
      (number (.int 1)).looseEq (string " +01 ") = true ∧
      (number (.int 1)).looseEq (bool true) = false ∧
      (string "  ").looseEq null = true ∧ (array []).looseEq (bool false) = false := by
  have hpadded : (string " +01 ").IsInteger 1 := reading?_eq_integer.1 (by decide +kernel)
  have hplain : (string "1").IsInteger 1 := reading?_eq_integer.1 (by decide +kernel)
  have hone : (number (.int 1)).IsInteger 1 := .number 1
  have hword : ¬ (bool true).IsNumeric := nofun
  obtain ⟨-, hsymm, htrans, -⟩ :=
    looseEq_equivalence (string " +01 ") (number (.int 1)) (string "1")
  obtain ⟨-, -, -, -, hapart, -⟩ := looseEq_equivalence (number (.int 1)) (bool true) null
  obtain ⟨-, -, -, -, -, hblank⟩ := looseEq_equivalence (string "  ") null null
  obtain ⟨-, -, -, -, -, hempty⟩ := looseEq_equivalence (array []) (bool false) null
  have hfirst : (string " +01 ").looseEq (number (.int 1)) = true := by decide +kernel
  have hsecond : (number (.int 1)).looseEq (string "1") = true := by decide +kernel
  refine ⟨?_, hsymm hfirst, ?_, ?_, ?_⟩
  · exact htrans (fun _ => ⟨1, hpadded⟩) (fun _ => ⟨1, hone⟩) (fun _ => ⟨1, hplain⟩) hfirst hsecond
  · exact hapart (fun _ => ⟨1, hone⟩) (fun h => absurd h hword) hone.isNumeric hword
  · exact (hblank (by decide +kernel)).2 rfl
  · rw [← Bool.not_eq_true, hempty rfl]
    decide

end Value

end LineTemplate
