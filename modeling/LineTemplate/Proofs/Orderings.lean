import LineTemplate.Proofs.Decimals

/-!
# Orders and equality

Two values stand in an order just when both count as numbers, for doubles here are numbers or
infinities and any two of them compare. The order agrees with loose equality, which goes another
way to its answer, and turns round with its sides. So of less, equal and greater exactly one holds,
and integers are in their own order, whether data or strings write them.
-/

namespace LineTemplate

namespace Reading

theorem order_self (a : Reading) : a.order a = .eq := by
  cases a with
  | integer i => exact compare_eq_iff_eq.2 rfl
  | decimal x => exact Double.Extended.order_self x

theorem order_swap (a b : Reading) : (a.order b).swap = b.order a := by
  cases a with
  | integer i =>
    cases b with
    | integer j => exact Int.compare_swap i j
    | decimal y => exact Double.Extended.order_swap (.ofInt i) y
  | decimal x => cases b <;> exact Double.Extended.order_swap x _

end Reading

namespace Value

variable {l r : Value} {a b : Reading}

theorem order_of_readings (ha : l.reading? = some a) (hb : r.reading? = some b) :
    l.order r = .ok (a.order b) := by
  simp only [order, numeric, ha, hb, bind, Except.bind, pure, Except.pure]

theorem order_of_left (h : l.reading? = none) : l.order r = .error (.notNumeric l.text) := by
  simp only [order, numeric, h, bind, Except.bind]

theorem order_of_right (ha : l.reading? = some a) (h : r.reading? = none) :
    l.order r = .error (.notNumeric r.text) := by
  simp only [order, numeric, ha, h, bind, Except.bind]

theorem isNumeric_of_reading (h : l.reading? = some a) : l.IsNumeric := by
  by_contra hn
  rw [reading?_eq_none.2 hn] at h
  cases h

/-- Two values that count as numbers are equal when their numbers are. -/
theorem looseEq_of_readings (ha : l.reading? = some a) (hb : r.reading? = some b) :
    l.looseEq r = (a.order b == .eq) := by
  have hl := (isNumeric_of_reading ha).isBlank
  have hr := (isNumeric_of_reading hb).isBlank
  cases l with
  | bool x => cases ha
  | _ => simp only [looseEq, hl, hr, ha, hb, Bool.or_self, Bool.false_eq_true, if_false]

theorem exists_order_iff : (∃ o, l.order r = .ok o) ↔ l.IsNumeric ∧ r.IsNumeric := by
  constructor
  · rintro ⟨o, h⟩
    cases ha : l.reading? with
    | none => rw [order_of_left ha] at h; cases h
    | some a =>
      cases hb : r.reading? with
      | none => rw [order_of_right ha hb] at h; cases h
      | some b => exact ⟨isNumeric_of_reading ha, isNumeric_of_reading hb⟩
  · rintro ⟨hl, hr⟩
    obtain ⟨a, ha⟩ := exists_reading hl
    obtain ⟨b, hb⟩ := exists_reading hr
    exact ⟨a.order b, order_of_readings ha hb⟩

theorem order_of_integers {m n : Int} (hl : l.IsInteger m) (hr : r.IsInteger n) :
    l.order r = .ok (compare m n) :=
  order_of_readings (reading?_eq_integer.2 hl) (reading?_eq_integer.2 hr)

/-- Where there is an order, exchanging the sides turns it round, and equality is its middle. -/
theorem order_swap {o : Ordering} (h : l.order r = .ok o) :
    r.order l = .ok o.swap ∧ l.looseEq r = (o == .eq) := by
  obtain ⟨hl, hr⟩ := exists_order_iff.1 ⟨o, h⟩
  obtain ⟨a, ha⟩ := exists_reading hl
  obtain ⟨b, hb⟩ := exists_reading hr
  rw [order_of_readings ha hb] at h
  cases h
  exact ⟨by rw [order_of_readings hb ha, Reading.order_swap], looseEq_of_readings ha hb⟩

end Value

/-! ### Comparators -/

namespace Comparator

variable {read : PatternReader} {l r : Value} {o : Ordering}

theorem apply_of_order (h : l.order r = .ok o) (pos : Position) (known : Pattern.Known) :
    lt.apply read l r pos known = .ok (o == .lt, known) ∧
      eq.apply read l r pos known = .ok (o == .eq, known) ∧
      gt.apply read l r pos known = .ok (o == .gt, known) ∧
      gtEq.apply read l r pos known = .ok (o == .gt || o == .eq, known) ∧
      ltEq.apply read l r pos known = .ok (o == .lt || o == .eq, known) := by
  have hge : (o != .lt) = (o == .gt || o == .eq) := by cases o <;> rfl
  have hle : (o != .gt) = (o == .lt || o == .eq) := by cases o <;> rfl
  have heq := (Value.order_swap h).2
  simp only [apply, ordered, h, heq, hge, hle, Except.map, and_self]

theorem apply_of_order_eq_error {fault : OperandFault} (h : l.order r = .error fault)
    (pos : Position) (known : Pattern.Known) :
    ∀ c ∈ [lt, gt, ltEq, gtEq],
      c.apply read l r pos known = .error (.operandType fault pos) := by
  simp [apply, ordered, h, Except.map]

/-- Values are ordered just when both count as numbers, and otherwise the first one that does not is
to blame. Where they are ordered, so are they the other way round; of less, equal and greater one
holds, and the two wider comparators hold with them. Integers are ordered as integers. -/
theorem coherent (read : PatternReader) (l r : Value) (pos : Position) (known : Pattern.Known) :
    ((∃ o, l.order r = .ok o) ↔ l.IsNumeric ∧ r.IsNumeric) ∧
      (¬ l.IsNumeric → l.order r = .error (.notNumeric l.text)) ∧
      (l.IsNumeric → ¬ r.IsNumeric → l.order r = .error (.notNumeric r.text)) ∧
      (∀ fault, l.order r = .error fault → ∀ c ∈ [lt, gt, ltEq, gtEq],
        c.apply read l r pos known = .error (.operandType fault pos)) ∧
      (∀ o, l.order r = .ok o → r.order l = .ok o.swap ∧ (o = .eq ↔ l.looseEq r = true) ∧
        ∃ less equal greater : Bool,
          lt.apply read l r pos known = .ok (less, known) ∧
          eq.apply read l r pos known = .ok (equal, known) ∧
          gt.apply read l r pos known = .ok (greater, known) ∧
          [less, equal, greater].count true = 1 ∧
          gtEq.apply read l r pos known = .ok (greater || equal, known) ∧
          ltEq.apply read l r pos known = .ok (less || equal, known)) ∧
      ∀ m n, l.IsInteger m → r.IsInteger n → l.order r = .ok (compare m n) := by
  refine ⟨Value.exists_order_iff, fun hl => ?_, fun hl hr => ?_, fun fault h => ?_,
    fun o h => ?_, fun m n => Value.order_of_integers⟩
  · exact Value.order_of_left (Value.reading?_eq_none.2 hl)
  · obtain ⟨a, ha⟩ := Value.exists_reading hl
    exact Value.order_of_right ha (Value.reading?_eq_none.2 hr)
  · exact apply_of_order_eq_error h pos known
  · obtain ⟨hswap, heq⟩ := Value.order_swap h
    obtain ⟨hlt, heq', hgt, hge, hle⟩ := apply_of_order h pos known
    refine ⟨hswap, by rw [heq, beq_iff_eq], _, _, _, hlt, heq', hgt, ?_, hge, hle⟩
    cases o <;> rfl

/-- A padded string, an integer beyond 64 bits with a sign, and a string with an exponent. -/
theorem coherent_padded :
    let one : Value := .string " +01 "
    let large : Value := .number (.int 18446744073709551615)
    let word : Value := .string "1e5"
    one.order word = .error (.notNumeric "1e5") ∧ word.order one = .error (.notNumeric "1e5") ∧
      ltEq.apply Pattern.reader one word ⟨0, 4⟩ [] =
        .error (.operandType (.notNumeric "1e5") ⟨0, 4⟩) ∧
      one.order large = .ok .lt ∧ large.order one = .ok .gt ∧
      one.looseEq large = false := by
  intro one large word
  have hone : one.IsInteger 1 := Value.reading?_eq_integer.1 (by decide +kernel)
  have hlarge : large.IsInteger 18446744073709551615 := .number _
  have hword : ¬ word.IsNumeric := Value.reading?_eq_none.1 (by decide +kernel)
  obtain ⟨-, -, hright, hfails, -, -⟩ := coherent Pattern.reader one word ⟨0, 4⟩ []
  obtain ⟨-, hleft, -⟩ := coherent Pattern.reader word one ⟨0, 4⟩ []
  obtain ⟨-, -, -, -, hordered, hintegers⟩ := coherent Pattern.reader one large ⟨0, 4⟩ []
  have herror := hright hone.isNumeric hword
  have horder := hintegers 1 18446744073709551615 hone hlarge
  obtain ⟨hswap, hequal, -⟩ := hordered _ horder
  refine ⟨herror, hleft hword, hfails _ herror ltEq (by decide), horder, hswap, ?_⟩
  rw [← Bool.not_eq_true, ← hequal]
  decide

end Comparator

end LineTemplate
