import Mathlib
import LineTemplate.Proofs.Decimals

/-!
# Texts that read as numbers

A text has a reading when it is a plain decimal between white space, and no other text has one. A
decimal without a point that fits 128 bits with a sign reads as the integer that its digits stand
for in base ten, and every other decimal as the double nearest to it. So an integer of the data and
the text that it is shown as have the same reading, and white space around the text, zeros in front
of its digits and a plus sign do not change that.
-/

namespace LineTemplate

namespace Numeral

theorem value_append (a b : List Char) : value (a ++ b) = valueFrom (value a) b :=
  List.foldl_append

/-- The digits are read as the digits of a number in base ten, the last one counting units. -/
theorem value_eq_ofDigits (ds : List Char) :
    value ds = Nat.ofDigits 10 (ds.reverse.map digitValue) := by
  induction ds using List.reverseRecOn with
  | nil => rfl
  | append_singleton ds d ih =>
    rw [value_append, valueFrom, List.foldl_cons, List.foldl_nil, ih, List.reverse_append,
      List.reverse_singleton, List.singleton_append, List.map_cons, Nat.ofDigits_cons]
    exact Nat.add_comm _ _

theorem value_zeros_append {zeros : List Char} (h : ∀ c ∈ zeros, c = '0') (ds : List Char) :
    value (zeros ++ ds) = value ds := by
  have hzero : value zeros = 0 := by
    rw [List.eq_replicate_of_mem h]
    induction zeros.length with
    | zero => rfl
    | succ n ih =>
      have hcut : List.replicate (n + 1) '0' = List.replicate n '0' ++ ['0'] :=
        List.replicate_succ'
      rw [hcut, value_append, ih]
      rfl
  rw [value_append, hzero, value]

end Numeral

namespace PlainDecimal

/-- The integer that the digits before the point stand for in base ten, with the sign. -/
def signedValue (d : PlainDecimal) : Int :=
  (if d.negative then -1 else 1) * (Nat.ofDigits 10 (d.whole.reverse.map Numeral.digitValue) : Nat)

theorem toInt_eq_signedValue (d : PlainDecimal) : d.toInt = d.signedValue := by
  rw [toInt, signedValue, ← Numeral.value_eq_ofDigits]
  split
  · rw [neg_one_mul]
  · rw [one_mul]

end PlainDecimal

/-- The digits of the integer behind a sign, which may be a plus sign or be left out where the
integer is not negative, with zeros in front of the digits and white space around all of it. -/
inductive PadsInt (n : Int) : List Char → Prop
  | mk {front sign zeros back : List Char} {negative : Bool} :
      (∀ c ∈ front, Text.isSpace c = true) → PlainDecimal.WritesSign sign negative →
      (negative = true ↔ n < 0) → (∀ c ∈ zeros, c = '0') →
      (∀ c ∈ back, Text.isSpace c = true) →
      PadsInt n (front ++ ((sign ++ (zeros ++ Numeral.digits n.natAbs)) ++ back))

namespace PadsInt

variable {n : Int} {cs : List Char}

theorem isNumeral {zeros : List Char} (h : ∀ c ∈ zeros, c = '0') (n : Nat) :
    Token.IsNumeral (zeros ++ Numeral.digits n) := by
  refine ⟨by simp [Numeral.digits_ne_nil], fun c hc => ?_⟩
  rcases List.mem_append.1 hc with hc | hc
  · rw [h c hc]
    decide
  · exact Numeral.isDigit_of_mem_digits hc

theorem exists_writes (h : PadsInt n cs) :
    ∃ d, PlainDecimal.Writes cs d ∧ d.fraction = none ∧ d.toInt = n := by
  obtain @⟨front, sign, zeros, back, negative, hfront, hsign, hnegative, hzeros, hback⟩ := h
  have hwhole := isNumeral hzeros n.natAbs
  have hwrites := PlainDecimal.Writes.mk hfront hsign hwhole .none hback
  rw [List.append_nil] at hwrites
  refine ⟨_, hwrites, rfl, ?_⟩
  simp only [PlainDecimal.toInt, Numeral.value_zeros_append hzeros, Numeral.value_digits]
  split
  · next h =>
    have hn := hnegative.1 h
    omega
  · next h =>
    have hn : ¬ n < 0 := fun hn => h (hnegative.2 hn)
    omega

theorem isInteger {s : String} (h : PadsInt n s.toList) (hlow : -2 ^ 127 ≤ n)
    (hhigh : n < 2 ^ 127) : (Value.string s).IsInteger n := by
  obtain ⟨d, hd, hfraction, rfl⟩ := h.exists_writes
  exact .string hd hfraction hlow hhigh

/-- The shortest form is one of the padded ones. -/
theorem intChars (n : Int) : PadsInt n (Numeral.intChars n) := by
  have hnone : ∀ c ∈ ([] : List Char), Text.isSpace c = true := by simp
  have hzeros : ∀ c ∈ ([] : List Char), c = '0' := by simp
  rw [Numeral.intChars]
  split
  · next h =>
    have hpads := mk hnone .minus (iff_of_true rfl h) hzeros hnone
    simp only [List.nil_append, List.append_nil, List.singleton_append] at hpads
    exact hpads
  · next h =>
    have hpads := mk hnone .none (iff_of_false Bool.false_ne_true h) hzeros hnone
    simp only [List.nil_append, List.append_nil] at hpads
    exact hpads

end PadsInt

namespace Value

theorem reading?_of_writes {s : String} {d : PlainDecimal} (h : PlainDecimal.Writes s.toList d) :
    reading? (.string s) = some (.ofDecimal d) := by
  rw [reading?, Reading.ofChars?, PlainDecimal.ofChars?_eq_some_iff.2 h, Option.map_some]

theorem isSome_reading?_iff (s : String) :
    (reading? (.string s)).isSome = true ↔ ∃ d, PlainDecimal.Writes s.toList d := by
  rw [Option.isSome_iff_ne_none, reading?, Ne, Reading.ofChars?_eq_none, not_forall]
  simp only [not_not]

theorem toList_text_int (n : Int) : (text (.number (.int n))).toList = Numeral.intChars n := by
  rw [text, Json.write, Json.chars, Json.numberChars, String.toList_ofList]
  all_goals simp

/-- The texts that have a reading are the plain decimals between white space. Those without a point
that fit 128 bits with a sign read as the integer they write, and all others as the double nearest
to them. An integer of 64 bits, with a sign or without, reads as itself, and so does its text
however it is padded. -/
theorem reading_of_text :
    (∀ s : String, (reading? (.string s)).isSome = true ↔
      ∃ d, PlainDecimal.Writes s.toList d) ∧
    (∀ (s : String) (d : PlainDecimal), PlainDecimal.Writes s.toList d →
      reading? (.string s) =
        if d.fraction = none ∧ -2 ^ 127 ≤ d.signedValue ∧ d.signedValue < 2 ^ 127 then
          some (.integer d.signedValue)
        else some (.decimal d.toDouble)) ∧
    ∀ n : Int, -2 ^ 63 ≤ n → n < 2 ^ 64 →
      reading? (.number (.int n)) = some (.integer n) ∧
      reading? (.string (text (.number (.int n)))) = some (.integer n) ∧
      ∀ s : String, PadsInt n s.toList → reading? (.string s) = some (.integer n) := by
  refine ⟨isSome_reading?_iff, fun s d hd => ?_, fun n hlow hhigh => ?_⟩
  · rw [reading?_of_writes hd, ← d.toInt_eq_signedValue]
    split
    · next h =>
      rw [Reading.ofDecimal_eq_integer.2 ⟨h.1, h.2, rfl⟩]
    · next h =>
      rw [Reading.ofDecimal, if_neg]
      rw [Bool.and_eq_true, Option.isNone_iff_eq_none, Reading.isExact_iff]
      exact h
  · have hpadded : ∀ s : String, PadsInt n s.toList →
        reading? (.string s) = some (.integer n) := fun s hs =>
      reading?_eq_integer.2 (hs.isInteger (by omega) (by omega))
    refine ⟨rfl, hpadded _ ?_, hpadded⟩
    rw [toList_text_int]
    exact PadsInt.intChars n

/-- The largest integer of 128 bits with a sign and the one behind it, two points, and the largest
integer of 64 bits without a sign, padded. -/
theorem reading_of_text_limits :
    reading? (.string "170141183460469231731687303715884105727") =
        some (.integer 170141183460469231731687303715884105727) ∧
      reading? (.string "170141183460469231731687303715884105728") =
        some (.decimal (PlainDecimal.toDouble
          ⟨false, "170141183460469231731687303715884105728".toList, none⟩)) ∧
      (reading? (.string "1.2.3")).isSome = false ∧
      reading? (.string "\t+0018446744073709551615 ") =
        some (.integer 18446744073709551615) := by
  obtain ⟨hsome, hvalue, hpadded⟩ := reading_of_text
  have hwrites : ∀ {s : String} {d : PlainDecimal}, PlainDecimal.ofChars? s.toList = some d →
      PlainDecimal.Writes s.toList d := PlainDecimal.ofChars?_eq_some_iff.1
  refine ⟨?_, ?_, ?_, ?_⟩
  · rw [hvalue _ ⟨false, "170141183460469231731687303715884105727".toList, none⟩
      (hwrites (by decide +kernel)), if_pos (by decide +kernel)]
    decide +kernel
  · rw [hvalue _ ⟨false, "170141183460469231731687303715884105728".toList, none⟩
      (hwrites (by decide +kernel)), if_neg (by decide +kernel)]
  · rw [Bool.eq_false_iff, Ne, hsome]
    rintro ⟨d, hd⟩
    have hread := PlainDecimal.ofChars?_eq_some_iff.2 hd
    have hnone : PlainDecimal.ofChars? "1.2.3".toList = none := by decide +kernel
    rw [hnone] at hread
    cases hread
  · obtain ⟨-, -, hsame⟩ := hpadded 18446744073709551615 (by decide) (by decide)
    refine hsame _ ?_
    have hpads := @PadsInt.mk 18446744073709551615 ['\t'] ['+'] ['0', '0'] [' '] false
      (List.forall_mem_singleton.2 (by decide)) .plus (by decide) (by simp)
      (List.forall_mem_singleton.2 (by decide))
    have htext : "\t+0018446744073709551615 ".toList =
        ['\t'] ++ ((['+'] ++ (['0', '0'] ++
          Numeral.digits (18446744073709551615 : Int).natAbs)) ++ [' ']) := by
      decide +kernel
    rw [htext]
    exact hpads

end Value

end LineTemplate
