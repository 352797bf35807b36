import LineTemplate.Proofs.Rereading
import LineTemplate.Proofs.Rounding
import LineTemplate.Proofs.Selections

/-!
# Integers against literals

An integer of the data is kept as it is, and so is an integer literal of 64 bits with a sign: the
two compare as integers. A literal beyond that is read as the double nearest to it, and then both
sides compare as doubles. The rounding keeps the order, so it never turns a comparison round, but
it may take different integers for equal ones.
-/

namespace LineTemplate

/-! ### Literals -/

/-- The characters are a plain integer: digits, maybe behind a minus sign. -/
def WritesInt (cs : List Char) (n : Int) : Prop :=
  ∃ ds, Token.IsNumeral ds ∧
    (cs = ds ∧ n = Numeral.value ds ∨ cs = '-' :: ds ∧ n = -(Numeral.value ds : Int))

namespace WritesInt

variable {cs : List Char} {n : Int}

theorem ofChars?_eq (h : WritesInt cs n) : ∃ negative ds,
    PlainDecimal.ofChars? cs = some ⟨negative, ds, none⟩ ∧
      PlainDecimal.toInt ⟨negative, ds, none⟩ = n := by
  obtain ⟨ds, ⟨hne, hds⟩, hcs⟩ := h
  have hspace : ∀ c ∈ cs, Text.isSpace c = false := by
    intro c hc
    rcases hcs with ⟨rfl, -⟩ | ⟨rfl, -⟩
    · exact Reader.isSpace_of_isDigit (hds c hc)
    · rcases List.mem_cons.1 hc with rfl | hc
      · decide
      · exact Reader.isSpace_of_isDigit (hds c hc)
  have hdigits : Numeral.isDigits ds = true := by
    simp only [Numeral.isDigits, Bool.and_eq_true, Bool.not_eq_true', List.isEmpty_eq_false_iff,
      List.all_eq_true]
    exact ⟨hne, hds⟩
  have hpoint := Reader.splitPoint_of_digits hds
  rcases hcs with ⟨rfl, rfl⟩ | ⟨rfl, rfl⟩
  · refine ⟨false, cs, ?_, rfl⟩
    simp only [PlainDecimal.ofChars?, Text.trimChars_of_forall hspace,
      Reader.splitSign_of_digits hds, hpoint, hdigits, Option.all_none, Bool.and_self, if_true]
  · refine ⟨true, ds, ?_, rfl⟩
    simp only [PlainDecimal.ofChars?, Text.trimChars_of_forall hspace, PlainDecimal.splitSign,
      hpoint, hdigits, Option.all_none, Bool.and_self, if_true]

end WritesInt

theorem writesInt_digits (n : Nat) : WritesInt (Numeral.digits n) n := by
  refine ⟨Numeral.digits n, ⟨Numeral.digits_ne_nil n, ?_⟩, .inl ⟨rfl, ?_⟩⟩
  · exact fun d hd => Numeral.isDigit_of_mem_digits hd
  · rw [Numeral.value_digits]

/-- The integers that a literal keeps as they are. -/
def FitsLiteral (n : Int) : Prop := -9223372036854775808 ≤ n ∧ n < 9223372036854775808

theorem numeral_of_writesInt {text : String} {n : Int} (h : WritesInt text.toList n)
    (hn : FitsLiteral n) (pos : Position) : Reader.numeral text pos = .number (.int n) := by
  obtain ⟨negative, ds, hread, hint⟩ := h.ofChars?_eq
  have hfits : Numeral.fitsSigned 64 n = true := by
    simp only [Numeral.fitsSigned, Bool.and_eq_true, decide_eq_true_eq]
    exact hn
  simp only [Reader.numeral, hread, hint, hfits, Option.isNone_none, Bool.and_self, if_true]

/-! ### Comparing -/

namespace Comparator

/-- What the comparator says of two integers; the ones that look for patterns say nothing. -/
def onIntegers? (m n : Int) : Comparator → Option Bool
  | .eq => some (decide (m = n))
  | .notEq => some (decide (m ≠ n))
  | .gt => some (decide (m > n))
  | .lt => some (decide (m < n))
  | .gtEq => some (decide (m ≥ n))
  | .ltEq => some (decide (m ≤ n))
  | .find | .notFind | .full | .notFull => none

end Comparator

namespace Value

theorem looseEq_int (m n : Int) :
    looseEq (.number (.int m)) (.number (.int n)) = decide (m = n) := by
  have heq : (compare m n == .eq) = decide (m = n) := by
    rw [Bool.eq_iff_iff, beq_iff_eq, decide_eq_true_eq]
    exact compare_eq_iff_eq
  exact heq

theorem order_int (m n : Int) :
    order (.number (.int m)) (.number (.int n)) = .ok (compare m n) := rfl

end Value

theorem Comparator.apply_int {read : PatternReader} {c : Comparator} {m n : Int} {b : Bool}
    (h : c.onIntegers? m n = some b) (pos : Position) (known : Pattern.Known) :
    c.apply read (.number (.int m)) (.number (.int n)) pos known = .ok (b, known) := by
  have hgt : (compare m n == .gt) = decide (m > n) := by
    rw [Bool.eq_iff_iff, beq_iff_eq, decide_eq_true_eq]
    exact compare_gt_iff_gt
  have hlt : (compare m n == .lt) = decide (m < n) := by
    rw [Bool.eq_iff_iff, beq_iff_eq, decide_eq_true_eq]
    exact compare_lt_iff_lt
  have hge : (compare m n != .lt) = decide (m ≥ n) := by
    rw [bne, hlt, ← decide_not]
    exact decide_eq_decide.2 not_lt
  have hle : (compare m n != .gt) = decide (m ≤ n) := by
    rw [bne, hgt, ← decide_not]
    exact decide_eq_decide.2 not_lt
  cases c <;> cases h
  case eq => rw [apply, Value.looseEq_int]
  case notEq => rw [apply, Value.looseEq_int]; simp
  case gt => simp only [apply, ordered, Value.order_int, Except.map, hgt]
  case lt => simp only [apply, ordered, Value.order_int, Except.map, hlt]
  case gtEq => simp only [apply, ordered, Value.order_int, Except.map, hge]
  case ltEq => simp only [apply, ordered, Value.order_int, Except.map, hle]

/-! ### Reading -/

namespace Token

/-- The words of a variable that is compared with a number. -/
def comparison (x text sign : String) (c : Comparator) : List Word :=
  [⟨.colon, ":"⟩, ⟨.identifier, x⟩, ⟨.comparison c, sign⟩, ⟨.number, text⟩]

end Token

namespace Reader

theorem expression_comparison {x text sign : String} {c : Comparator} {ts : List Token}
    (h : ts.map Token.word = Token.comparison x text sign c) (stop : Position) :
    ∃ first place literal pos, Reader.all expression ts stop =
      .ok (.compare c (.operand ⟨.variable ⟨x, []⟩, [], first⟩)
        (.operand ⟨.literal (numeral text literal), [], place⟩) pos) := by
  obtain ⟨first, us, rfl, hus⟩ := Token.exists_of_words h
  obtain ⟨root, vs, rfl, hvs⟩ := Token.exists_of_words hus
  obtain ⟨pos, ws, rfl, hws⟩ := Token.exists_of_words hvs
  obtain ⟨place, rest, rfl, hrest⟩ := Token.exists_of_words hws
  rw [List.map_eq_nil_iff.1 hrest]
  have hpath : Path.Yields ⟨x, []⟩ [⟨.identifier, x, root⟩] :=
    @Path.Yields.mk ⟨.identifier, x, root⟩ [] [] rfl .nil
  have hleft := Operand.Yields.mk (.path (c := ⟨.colon, ":", first⟩) rfl hpath) .nil
  have hnumber := @Literal.Yields.number ⟨.number, text, place⟩ rfl
  have hright := Operand.Yields.mk (.literal hnumber) .nil
  have hcompare := Expr.Yields.compare (.operand hleft)
    (t := ⟨.comparison c, sign, pos⟩) rfl (.operand hright)
  exact ⟨first, place, place, pos,
    reads_expression.all_eq_ok.2 (.disjunct (.conjunct hcompare))⟩

theorem literals_number {text : String} {ts : List Token}
    (h : ts.map Token.word = [⟨.number, text⟩]) (stop : Position) :
    ∃ pos, Reader.all literals ts stop = .ok [numeral text pos] := by
  obtain ⟨pos, rest, rfl, hrest⟩ := Token.exists_of_words h
  rw [List.map_eq_nil_iff.1 hrest]
  exact ⟨pos, reads_literals.all_eq_ok.2 (.one (@Literal.Yields.number ⟨.number, text, pos⟩ rfl))⟩

end Reader

/-! ### Rendering -/

namespace Engine

variable {g : Engine} {s : State} {x : String} {v : Value}

theorem operand_variable (hx : g.lookup s.scope ⟨x, []⟩ = some v) (pos : Position) :
    g.operand s.scope ⟨.variable ⟨x, []⟩, [], pos⟩ = .ok v := by
  simp only [operand, term, hx, Option.getD_some, pipeThrough, bind, Except.bind]

theorem holds_compare (hx : g.lookup s.scope ⟨x, []⟩ = some v) {l : Literal} {w : Value}
    (hl : l.value = .ok w) {c : Comparator} {b : Bool} {pos : Position}
    (hc : c.apply g.patterns v w pos s.patterns = .ok (b, s.patterns)) (first place : Position) :
    g.holds (.compare c (.operand ⟨.variable ⟨x, []⟩, [], first⟩)
      (.operand ⟨.literal l, [], place⟩) pos) s = .ok (b, s) := by
  simp only [holds, evaluate, expression, operand_variable hx, operand_literal, hl, hc, bind,
    Except.bind, pure, Except.pure, Value.isTruthy]

theorem block_case (hx : g.lookup s.scope ⟨x, []⟩ = some v) {l : Literal} {w : Value}
    (hl : l.value = .ok w) (first place pos : Position) (body : List Block)
    (more : List (Branch (List Literal) Block)) (default : Option (List Block)) :
    g.block (.switch ⟨.variable ⟨x, []⟩, [], first⟩ (⟨[l], body, place⟩ :: more) default pos) s =
      if v.looseEq w then joinLines (g.blocks body s)
      else g.block (.switch ⟨.variable ⟨x, []⟩, [], first⟩ more default pos) s := by
  have hany : Literal.anyEq v [l] = .ok (v.looseEq w) := by
    simp only [Literal.anyEq, hl, bind, Except.bind]
    cases v.looseEq w <;> rfl
  rw [block, block, operand_variable hx]
  simp only [selected, hany, bind, Except.bind]
  cases v.looseEq w with
  | false => rfl
  | true =>
    simp only [if_true]
    cases joinLines (g.blocks body s) <;> rfl

/-- A variable that holds an integer compares with an integer literal of 64 bits exactly as the two
integers do, whatever comparator asks for it, and so does the case of a switch. -/
theorem compares_integers {m n : Int} {text : String}
    (hx : g.lookup s.scope ⟨x, []⟩ = some (.number (.int m))) (ht : WritesInt text.toList n)
    (hn : FitsLiteral n) :
    (∀ (line column : Nat) (cs : List Char) (stop : Position) (c : Comparator) (sign : String)
      (b : Bool), c.onIntegers? m n = some b →
      ((Token.scan column cs).map (Token.ofLexeme line)).map Token.word =
        Token.comparison x text sign c →
      ∃ e, Reader.all Reader.expression ((Token.scan column cs).map (Token.ofLexeme line)) stop =
        .ok e ∧ g.holds e s = .ok (b, s)) ∧
    ∀ (line column : Nat) (cs : List Char) (stop : Position),
      ((Token.scan column cs).map (Token.ofLexeme line)).map Token.word = [⟨.number, text⟩] →
      ∃ l, Reader.all Reader.literals ((Token.scan column cs).map (Token.ofLexeme line)) stop =
        .ok [l] ∧ ∀ (first place pos : Position) (body : List Block)
          (more : List (Branch (List Literal) Block)) (default : Option (List Block)),
          g.block (.switch ⟨.variable ⟨x, []⟩, [], first⟩ (⟨[l], body, place⟩ :: more) default
              pos) s =
            if m = n then joinLines (g.blocks body s)
            else g.block (.switch ⟨.variable ⟨x, []⟩, [], first⟩ more default pos) s := by
  constructor
  · intro line column cs stop c sign b hc hwords
    obtain ⟨first, place, literal, pos, he⟩ := Reader.expression_comparison hwords stop
    refine ⟨_, he, holds_compare hx ?_ (Comparator.apply_int hc pos s.patterns) first place⟩
    rw [numeral_of_writesInt ht hn]
    rfl
  · intro line column cs stop hwords
    obtain ⟨literal, hl⟩ := Reader.literals_number hwords stop
    refine ⟨_, hl, fun first place pos body more default => ?_⟩
    have hvalue : (Reader.numeral text literal).value = .ok (.number (.int n)) := by
      rw [numeral_of_writesInt ht hn]
      rfl
    rw [block_case hx hvalue, Value.looseEq_int]
    by_cases h : m = n
    · simp only [h, decide_true, if_true]
    · simp only [h, decide_false, Bool.false_eq_true, if_false]

end Engine

/-! ### Longer literals -/

theorem toDouble_whole (negative : Bool) (ds : List Char) :
    PlainDecimal.toDouble ⟨negative, ds, none⟩ = .ofRatio negative (Numeral.value ds) 1 := by
  have hexponent : (-(([] : List Char).length : Int)) = Int.ofNat 0 := rfl
  have hten : Numeral.value ds * Nat.pow 10 0 = Numeral.value ds := Nat.mul_one _
  rw [PlainDecimal.toDouble, Option.getD_none, List.append_nil, hexponent,
    Double.Extended.ofDecimal, hten]

theorem numeral_of_not_fits {text : String} {n : Int} (h : WritesInt text.toList n)
    (hn : ¬ FitsLiteral n) (hl : n.natAbs < 2 ^ 64) (pos : Position) :
    ∃ x, Reader.numeral text pos = .number (.double x) ∧
      Double.Extended.ofInt n = .finite x := by
  obtain ⟨negative, ds, hread, hint⟩ := h.ofChars?_eq
  have hfits : Numeral.fitsSigned 64 n = false := by
    rw [← Bool.not_eq_true]
    intro hfits
    simp only [Numeral.fitsSigned, Bool.and_eq_true, decide_eq_true_eq] at hfits
    exact hn hfits
  obtain ⟨x, hx, -⟩ := Double.ofInt_eq hl
  have hne : n ≠ 0 := by
    rintro rfl
    exact hn ⟨by decide, by decide⟩
  have hsign : negative = decide (n < 0) ∧ Numeral.value ds = n.natAbs := by
    simp only [PlainDecimal.toInt] at hint
    cases negative with
    | false =>
      simp only [Bool.false_eq_true, if_false] at hint
      refine ⟨?_, by omega⟩
      exact (decide_eq_false (by omega)).symm
    | true =>
      simp only [if_true] at hint
      refine ⟨?_, by omega⟩
      exact (decide_eq_true (by omega)).symm
  have hdouble : PlainDecimal.toDouble ⟨negative, ds, none⟩ = .finite x := by
    rw [← hx, Double.Extended.ofInt, toDouble_whole, hsign.1, hsign.2]
  refine ⟨x, ?_, hx⟩
  simp only [Reader.numeral, hread, hint, hfits, Bool.and_false, Bool.false_eq_true, if_false,
    hdouble]

/-- A literal beyond 64 bits with a sign is compared by its nearest double. So what is equal to it
need not be the integer that it writes, but nothing that is less is ever taken for greater. -/
theorem order_of_not_fits {text : String} {m n : Int} (hm : m.natAbs < 2 ^ 64)
    (h : WritesInt text.toList n) (hn : ¬ FitsLiteral n) (hl : n.natAbs < 2 ^ 64)
    (pos : Position) : ∃ w o, (Reader.numeral text pos).value = .ok w ∧
      o = (Double.Extended.ofInt m).order (.ofInt n) ∧
      Value.order (.number (.int m)) w = .ok o ∧
      Value.looseEq (.number (.int m)) w = (o == .eq) ∧ (o = compare m n ∨ o = .eq) := by
  obtain ⟨x, hx, hfinite⟩ := numeral_of_not_fits h hn hl pos
  have horder := Double.order_ofInt hm hl
  have hvalue : (Literal.number (.double x)).value = .ok (.number (.double x)) := rfl
  refine ⟨.number (.double x), _, ?_, rfl, ?_, ?_, horder⟩
  · rw [hx, hvalue]
  · simp only [Value.order, Value.numeric, Value.reading?, bind, Except.bind, pure, Except.pure,
      Reading.order, Reading.toDouble, hfinite]
  · simp only [Value.looseEq, Value.isBlank, Bool.or_self, Bool.false_eq_true, if_false,
      Value.reading?, Reading.order, Reading.toDouble, hfinite]

namespace Engine

/-- The largest integer of 64 bits without a sign against the largest one with a sign. -/
theorem compares_integers_limits :
    let s := State.start [("x", .number (.int 18446744073709551615))]
    ∃ e, Reader.all Reader.expression ((Token.scan 4 ":x <= 9223372036854775807".toList).map
        (Token.ofLexeme 0)) ⟨0, 29⟩ = .ok e ∧
      standard.holds e s = .ok (false, s) := by
  intro s
  have hx : standard.lookup s.scope ⟨"x", []⟩ = some (.number (.int 18446744073709551615)) := rfl
  have ht : WritesInt "9223372036854775807".toList 9223372036854775807 := by
    have hdigits : "9223372036854775807".toList = Numeral.digits 9223372036854775807 := by
      decide +kernel
    rw [hdigits]
    exact writesInt_digits 9223372036854775807
  have hn : FitsLiteral 9223372036854775807 := ⟨by decide, by decide⟩
  obtain ⟨hcompare, -⟩ := compares_integers hx ht hn
  exact hcompare 0 4 _ _ .ltEq "<=" false rfl (by decide +kernel)

/-- Of two integers of 64 bits without a sign, the smaller one is equal to the literal of the larger
one. -/
theorem equals_rounded_literal :
    let s := State.start [("x", .number (.int 18446744073709551614))]
    ∃ e, Reader.all Reader.expression ((Token.scan 4 ":x == 18446744073709551615".toList).map
        (Token.ofLexeme 0)) ⟨0, 30⟩ = .ok e ∧
      standard.holds e s = .ok (true, s) := by
  intro s
  have hx : standard.lookup s.scope ⟨"x", []⟩ = some (.number (.int 18446744073709551614)) := rfl
  have ht : WritesInt "18446744073709551615".toList 18446744073709551615 := by
    have hdigits : "18446744073709551615".toList = Numeral.digits 18446744073709551615 := by
      decide +kernel
    rw [hdigits]
    exact writesInt_digits 18446744073709551615
  have hn : ¬ FitsLiteral 18446744073709551615 := fun h => absurd h.2 (by decide)
  have hwords : ((Token.scan 4 ":x == 18446744073709551615".toList).map
      (Token.ofLexeme 0)).map Token.word =
        Token.comparison "x" "18446744073709551615" "==" .eq := by decide +kernel
  obtain ⟨first, place, literal, pos, he⟩ := Reader.expression_comparison hwords ⟨0, 30⟩
  obtain ⟨w, o, hw, rfl, -, heq, -⟩ :=
    order_of_not_fits (m := 18446744073709551614) (by decide) ht hn (by decide) literal
  have hsame : ((Double.Extended.ofInt 18446744073709551614).order
      (.ofInt 18446744073709551615) == .eq) = true := by decide +kernel
  rw [hsame] at heq
  refine ⟨_, he, holds_compare hx hw ?_ first place⟩
  rw [Comparator.apply, heq]

end Engine

end LineTemplate
