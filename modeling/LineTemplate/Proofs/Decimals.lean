import LineTemplate.Proofs.PathReaders

/-!
# What counts as a number

A value counts as a number when it is one, or when it is a string that holds a plain decimal: digits
behind an optional sign, and optionally a point and digits behind it, between white space. It counts
as an integer when it is one, or when its string has no point and writes a number of 128 bits with a
sign. Nothing that counts as a number is blank.
-/

namespace LineTemplate

namespace Text

theorem trimChars_between {front core back : List Char} (hne : core ≠ [])
    (hfront : ∀ c ∈ front, isSpace c = true) (hcore : ∀ c ∈ core, isSpace c = false)
    (hback : ∀ c ∈ back, isSpace c = true) : trimChars (front ++ (core ++ back)) = core := by
  have hhead : ∀ c ∈ (core ++ back).head?, isSpace c = false := by
    intro c hc
    rw [List.head?_append_of_ne_nil core hne] at hc
    exact hcore c (List.mem_of_mem_head? hc)
  have hall : ∀ c ∈ back.reverse, isSpace c = true := fun c hc => hback c (List.mem_reverse.1 hc)
  have hdrop : back.reverse.dropWhile isSpace = [] := List.dropWhile_eq_nil_iff.2 hall
  rw [trimChars, Token.dropWhile_append_of_all hfront hhead, dropEndWhile_append hcore,
    dropEndWhile, hdrop, List.reverse_nil, List.append_nil]

end Text

/-! ### Plain decimals -/

namespace PlainDecimal

inductive WritesSign : List Char → Bool → Prop
  | none : WritesSign [] false
  | plus : WritesSign ['+'] false
  | minus : WritesSign ['-'] true

inductive WritesFraction : List Char → Option (List Char) → Prop
  | none : WritesFraction [] none
  | some {ds : List Char} : Token.IsNumeral ds → WritesFraction ('.' :: ds) (some ds)

/-- The characters are a plain decimal between white space. -/
inductive Writes : List Char → PlainDecimal → Prop
  | mk {front sign whole point back : List Char} {negative : Bool} {fraction : Option (List Char)} :
      (∀ c ∈ front, Text.isSpace c = true) → WritesSign sign negative → Token.IsNumeral whole →
      WritesFraction point fraction → (∀ c ∈ back, Text.isSpace c = true) →
      Writes (front ++ ((sign ++ (whole ++ point)) ++ back)) ⟨negative, whole, fraction⟩

theorem isDigits_iff {ds : List Char} : Numeral.isDigits ds = true ↔ Token.IsNumeral ds := by
  simp [Numeral.isDigits, Token.IsNumeral]

theorem exists_sign (cs : List Char) :
    ∃ sign, WritesSign sign (splitSign cs).1 ∧ cs = sign ++ (splitSign cs).2 := by
  unfold splitSign
  split
  · exact ⟨_, .minus, rfl⟩
  · exact ⟨_, .plus, rfl⟩
  · exact ⟨_, .none, rfl⟩

theorem append_splitPoint (cs : List Char) :
    (splitPoint cs).1 ++ ((splitPoint cs).2.map ('.' :: ·)).getD [] = cs := by
  induction cs with
  | nil => rfl
  | cons c rest ih =>
    rw [splitPoint]
    split
    · next hc => simp [hc]
    · exact congrArg (c :: ·) ih

theorem writesFraction_of_all {fraction : Option (List Char)}
    (h : fraction.all Numeral.isDigits = true) :
    WritesFraction ((fraction.map ('.' :: ·)).getD []) fraction := by
  cases fraction with
  | none => exact .none
  | some ds => exact .some (isDigits_iff.1 h)

theorem splitSign_append {sign whole : List Char} {negative : Bool} (h : WritesSign sign negative)
    (hw : Token.IsNumeral whole) (point : List Char) :
    splitSign (sign ++ (whole ++ point)) = (negative, whole ++ point) := by
  obtain ⟨hne, hdigits⟩ := hw
  cases h with
  | plus => rfl
  | minus => rfl
  | none =>
    cases whole with
    | nil => exact absurd rfl hne
    | cons c rest =>
      have hc := hdigits c List.mem_cons_self
      rw [List.nil_append, List.cons_append]
      unfold splitSign
      split
      · next he => cases he; exact absurd hc (by decide)
      · next he => cases he; exact absurd hc (by decide)
      · rfl

theorem splitPoint_append {whole point : List Char} {fraction : Option (List Char)}
    (hw : Token.IsNumeral whole) (h : WritesFraction point fraction) :
    splitPoint (whole ++ point) = (whole, fraction) := by
  cases h with
  | none => rw [List.append_nil, Reader.splitPoint_of_digits hw.2]
  | some _ => exact Reader.splitPoint_append hw.2 _

theorem isSpace_of_written {sign whole point : List Char} {negative : Bool}
    {fraction : Option (List Char)} (hs : WritesSign sign negative) (hw : Token.IsNumeral whole)
    (hp : WritesFraction point fraction) :
    ∀ c ∈ sign ++ (whole ++ point), Text.isSpace c = false := by
  have hsign : ∀ c ∈ sign, Text.isSpace c = false := by
    cases hs with
    | none => simp
    | plus => exact List.forall_mem_singleton.2 (by decide)
    | minus => exact List.forall_mem_singleton.2 (by decide)
  have hpoint : ∀ c ∈ point, Text.isSpace c = false := by
    cases hp with
    | none => simp
    | some hds =>
      refine List.forall_mem_cons.2 ⟨by decide, fun c hc => ?_⟩
      exact Reader.isSpace_of_isDigit (hds.2 c hc)
  intro c hc
  rcases List.mem_append.1 hc with hc | hc
  · exact hsign c hc
  · rcases List.mem_append.1 hc with hc | hc
    · exact Reader.isSpace_of_isDigit (hw.2 c hc)
    · exact hpoint c hc

/-- What is read as a plain decimal are just the plain decimals. -/
theorem ofChars?_eq_some_iff {cs : List Char} {d : PlainDecimal} :
    ofChars? cs = some d ↔ Writes cs d := by
  constructor
  · intro h
    obtain ⟨front, back, hcs, hfront, hback⟩ := Text.exists_trimChars cs
    obtain ⟨sign, hsign, htrim⟩ := exists_sign (Text.trimChars cs)
    have hbody := append_splitPoint (splitSign (Text.trimChars cs)).2
    simp only [ofChars?] at h
    split at h
    · next hall =>
      cases h
      rw [Bool.and_eq_true] at hall
      have hw := Writes.mk hfront hsign (isDigits_iff.1 hall.1) (writesFraction_of_all hall.2) hback
      rw [hbody, ← htrim, ← hcs] at hw
      exact hw
    · cases h
  · intro h
    obtain @⟨front, sign, whole, point, back, negative, fraction, hfront, hsign, hwhole, hpoint,
      hback⟩ := h
    have hspace := isSpace_of_written hsign hwhole hpoint
    have hne : sign ++ (whole ++ point) ≠ [] := by
      simp [hwhole.1]
    have hfraction : fraction.all Numeral.isDigits = true := by
      cases hpoint with
      | none => rfl
      | some hds => exact isDigits_iff.2 hds
    simp only [ofChars?, Text.trimChars_between hne hfront hspace hback,
      splitSign_append hsign hwhole point, splitPoint_append hwhole hpoint,
      isDigits_iff.2 hwhole, hfraction, Bool.and_self, if_true]

theorem Writes.exists_digit {cs : List Char} {d : PlainDecimal} (h : Writes cs d) :
    ∃ c ∈ cs, c.isDigit = true := by
  obtain @⟨front, sign, whole, point, back, negative, fraction, -, -, hwhole, -, -⟩ := h
  obtain ⟨c, rest, rfl⟩ := List.exists_cons_of_ne_nil hwhole.1
  exact ⟨c, by simp, hwhole.2 c List.mem_cons_self⟩

end PlainDecimal

/-! ### Values that count as numbers -/

namespace Value

inductive IsNumeric : Value → Prop
  | number (n : Number) : IsNumeric (.number n)
  | string {s : String} {d : PlainDecimal} : PlainDecimal.Writes s.toList d → IsNumeric (.string s)

/-- The value stands for the integer, which is kept exact. -/
inductive IsInteger : Value → Int → Prop
  | number (i : Int) : IsInteger (.number (.int i)) i
  | string {s : String} {d : PlainDecimal} : PlainDecimal.Writes s.toList d → d.fraction = none →
      -2 ^ 127 ≤ d.toInt → d.toInt < 2 ^ 127 → IsInteger (.string s) d.toInt

end Value

namespace Reading

theorem isExact_iff {i : Int} : isExact i = true ↔ -2 ^ 127 ≤ i ∧ i < 2 ^ 127 := by
  rw [isExact, Numeral.fitsSigned, Bool.and_eq_true, decide_eq_true_eq, decide_eq_true_eq]
  rfl

theorem ofDecimal_eq_integer {d : PlainDecimal} {i : Int} : ofDecimal d = .integer i ↔
    d.fraction = none ∧ (-2 ^ 127 ≤ d.toInt ∧ d.toInt < 2 ^ 127) ∧ d.toInt = i := by
  rw [ofDecimal, ← isExact_iff]
  split
  · next h =>
    rw [Bool.and_eq_true, Option.isNone_iff_eq_none] at h
    simp [h.1, h.2]
  · next h =>
    rw [Bool.and_eq_true, Option.isNone_iff_eq_none] at h
    simp only [reduceCtorEq, false_iff]
    exact fun hi => h ⟨hi.1, hi.2.1⟩

theorem ofChars?_eq_none {cs : List Char} :
    ofChars? cs = none ↔ ∀ d, ¬ PlainDecimal.Writes cs d := by
  rw [ofChars?, Option.map_eq_none_iff, Option.eq_none_iff_forall_ne_some]
  exact forall_congr' fun d => not_congr PlainDecimal.ofChars?_eq_some_iff

end Reading

namespace Value

variable {v : Value} {i : Int}

/-- The values that count as no number are those that have no reading. -/
theorem reading?_eq_none : v.reading? = none ↔ ¬ v.IsNumeric := by
  cases v with
  | number n => cases n <;> simp [reading?, IsNumeric.number]
  | string s =>
    rw [reading?, Reading.ofChars?_eq_none]
    constructor
    · intro h hs
      cases hs with
      | string hd => exact h _ hd
    · exact fun h d hd => h (.string hd)
  | _ =>
    simp only [reading?, true_iff]
    rintro ⟨⟩

theorem exists_reading (h : v.IsNumeric) : ∃ a, v.reading? = some a := by
  rw [← Option.isSome_iff_exists, Option.isSome_iff_ne_none, Ne, reading?_eq_none, not_not]
  exact h

theorem reading?_eq_integer : v.reading? = some (.integer i) ↔ v.IsInteger i := by
  constructor
  · intro h
    cases v with
    | number n =>
      cases n with
      | int j =>
        cases h
        exact .number i
      | double x => cases h
    | string s =>
      rw [reading?, Reading.ofChars?] at h
      obtain ⟨d, hd, he⟩ := Option.map_eq_some_iff.1 h
      obtain ⟨hfraction, hrange, rfl⟩ := Reading.ofDecimal_eq_integer.1 he
      exact .string (PlainDecimal.ofChars?_eq_some_iff.1 hd) hfraction hrange.1 hrange.2
    | _ => cases h
  · rintro (_ | ⟨hd, hfraction, hlow, hhigh⟩)
    · rfl
    · rw [reading?, Reading.ofChars?, PlainDecimal.ofChars?_eq_some_iff.2 hd]
      exact congrArg some (Reading.ofDecimal_eq_integer.2 ⟨hfraction, ⟨hlow, hhigh⟩, rfl⟩)

theorem IsInteger.isNumeric (h : v.IsInteger i) : v.IsNumeric := by
  cases h with
  | number => exact .number _
  | string hd => exact .string hd

theorem IsNumeric.isBlank (h : v.IsNumeric) : v.isBlank = false := by
  cases h with
  | number n => rfl
  | string hd =>
    obtain ⟨c, hc, hdigit⟩ := hd.exists_digit
    rw [Value.isBlank, Text.isBlank, List.all_eq_false]
    exact ⟨c, hc, by rw [Reader.isSpace_of_isDigit hdigit]; decide⟩

end Value

end LineTemplate
