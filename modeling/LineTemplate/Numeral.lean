/-!
# Numerals

Natural numbers written with the ten ASCII digits: the shortest numeral of a number, and the
number that a list of digits stands for.
-/

namespace LineTemplate.Numeral

def digit (n : Nat) : Char := Char.ofNat (48 + n)

def digitValue (c : Char) : Nat := c.toNat - 48

/-- The digits of `n` without leading zeros, most significant first. -/
def digits (n : Nat) : List Char :=
  if n < 10 then [digit n] else digits (n / 10) ++ [digit (n % 10)]

/-- The number that the digits stand for, counting on from `start`. -/
def valueFrom (start : Nat) (ds : List Char) : Nat :=
  ds.foldl (fun n d => 10 * n + digitValue d) start

def value (ds : List Char) : Nat := valueFrom 0 ds

/-- The digits of an integer, after a minus sign if it is negative. -/
def intChars (i : Int) : List Char :=
  if i < 0 then '-' :: digits i.natAbs else digits i.natAbs

/-- Whether an integer has a two's complement form of so many bits. -/
def fitsSigned (bits : Nat) (i : Int) : Bool :=
  let bound : Int := Nat.pow 2 (bits - 1)
  decide (-bound ≤ i) && decide (i < bound)

/-- At least one character, and digits only. -/
def isDigits (cs : List Char) : Bool := !cs.isEmpty && cs.all Char.isDigit

theorem isDigit_digit : ∀ n, n < 10 → (digit n).isDigit = true := by decide

theorem digitValue_digit : ∀ n, n < 10 → digitValue (digit n) = n := by decide

theorem digits_ne_nil (n : Nat) : digits n ≠ [] := by
  unfold digits
  split <;> simp

theorem isDigit_of_mem_digits {n : Nat} {c : Char} (h : c ∈ digits n) : c.isDigit = true := by
  fun_induction digits n with
  | case1 n hn =>
    rw [List.mem_singleton.1 h]
    exact isDigit_digit n hn
  | case2 n _ ih =>
    rcases List.mem_append.1 h with h | h
    · exact ih h
    · rw [List.mem_singleton.1 h]
      exact isDigit_digit (n % 10) (Nat.mod_lt n (by decide))

theorem isDigits_digits (n : Nat) : isDigits (digits n) = true := by
  simp only [isDigits, Bool.and_eq_true, Bool.not_eq_true', List.isEmpty_eq_false_iff,
    List.all_eq_true]
  exact ⟨digits_ne_nil n, fun c => isDigit_of_mem_digits⟩

/-- Digits stand for the number that they are the digits of. -/
theorem value_digits (n : Nat) : value (digits n) = n := by
  fun_induction digits n with
  | case1 n hn =>
    have hd := digitValue_digit n hn
    simp only [value, valueFrom, List.foldl_cons, List.foldl_nil, hd, Nat.mul_zero, Nat.zero_add]
  | case2 n _ ih =>
    have hd := digitValue_digit (n % 10) (Nat.mod_lt n (by decide))
    simp only [value, valueFrom, List.foldl_append, List.foldl_cons, List.foldl_nil] at ih ⊢
    rw [ih, hd]
    exact Nat.div_add_mod n 10

end LineTemplate.Numeral
