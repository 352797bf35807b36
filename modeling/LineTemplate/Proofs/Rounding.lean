import LineTemplate.Double
import Mathlib.Order.Compare
import Mathlib.Data.Int.Order.Basic

/-!
# Rounding keeps the order

A larger magnitude is never rounded to a smaller one. So the doubles nearest to two integers of 64
bits, which are all finite, are in the order of the integers, or they are equal.
-/

namespace LineTemplate

namespace Double

/-! ### The nearest magnitude -/

theorem spacing_pos (n : Nat) : 0 < spacing n := Nat.pow_pos (by decide)

/-- A number is rounded down or up to a multiple of the spacing. -/
theorem nearest_one (n : Nat) : nearest n 1 = n / spacing n * spacing n ∨
    nearest n 1 = (n / spacing n + 1) * spacing n := by
  simp only [nearest, Nat.one_mul, Nat.div_one]
  split
  · exact .inr rfl
  · exact .inl rfl

theorem nearest_bounds {n : Nat} (h : n ≠ 0) :
    Nat.pow 2 n.log2 ≤ nearest n 1 ∧ nearest n 1 ≤ Nat.pow 2 (n.log2 + 1) := by
  change 2 ^ n.log2 ≤ nearest n 1 ∧ nearest n 1 ≤ 2 ^ (n.log2 + 1)
  have hlow : 2 ^ n.log2 ≤ n := Nat.log2_self_le h
  have hhigh : n < 2 ^ (n.log2 + 1) := Nat.lt_log2_self
  have hpos := spacing_pos n
  -- both powers are multiples of the spacing
  obtain ⟨q, hq⟩ : ∃ q, 2 ^ n.log2 = q * spacing n :=
    ⟨2 ^ (n.log2 - (n.log2 - 52)), (Nat.pow_sub_mul_pow 2 (Nat.sub_le _ _)).symm⟩
  have htwice : 2 ^ (n.log2 + 1) = 2 * q * spacing n := by
    rw [Nat.pow_succ, hq, Nat.mul_comm, Nat.mul_assoc]
  rw [hq] at hlow ⊢
  rw [htwice] at hhigh ⊢
  have hwhole : q ≤ n / spacing n := (Nat.le_div_iff_mul_le hpos).2 hlow
  have hnext : n / spacing n < 2 * q := (Nat.div_lt_iff_lt_mul hpos).2 hhigh
  rcases nearest_one n with he | he
  · rw [he]
    exact ⟨Nat.mul_le_mul_right _ hwhole, Nat.mul_le_mul_right _ (Nat.le_of_lt hnext)⟩
  · rw [he]
    exact ⟨Nat.mul_le_mul_right _ (Nat.le_succ_of_le hwhole), Nat.mul_le_mul_right _ hnext⟩

theorem nearest_le (n : Nat) : nearest n 1 ≤ 2 * n := by
  by_cases h : n = 0
  · have hzero : nearest 0 1 = 0 := by decide
    simp only [h, hzero, Nat.zero_le]
  · have hlow : 2 ^ n.log2 ≤ n := Nat.log2_self_le h
    have hhigh : nearest n 1 ≤ 2 ^ (n.log2 + 1) := (nearest_bounds h).2
    rw [Nat.pow_succ] at hhigh
    omega

theorem nearest_mono {a b : Nat} (h : a ≤ b) : nearest a 1 ≤ nearest b 1 := by
  by_cases ha : a = 0
  · have hzero : nearest 0 1 = 0 := by decide
    simp only [ha, hzero, Nat.zero_le]
  have hb : b ≠ 0 := by omega
  have hlog : a.log2 ≤ b.log2 := by
    rw [Nat.le_log2 hb]
    exact Nat.le_trans (Nat.log2_self_le ha) h
  rcases Nat.lt_or_eq_of_le hlog with hlt | heq
  · calc nearest a 1 ≤ 2 ^ (a.log2 + 1) := (nearest_bounds ha).2
      _ ≤ 2 ^ b.log2 := Nat.pow_le_pow_right (by decide) hlt
      _ ≤ nearest b 1 := (nearest_bounds hb).1
  · have hstep : spacing a = spacing b := by rw [spacing, spacing, heq]
    have hwhole : a / spacing b ≤ b / spacing b := Nat.div_le_div_right h
    rcases Nat.lt_or_eq_of_le hwhole with hlt | hsame
    · have hup : nearest a 1 ≤ (a / spacing b + 1) * spacing b := by
        rcases nearest_one a with he | he
        · simp only [he, hstep, Nat.mul_le_mul_right, Nat.le_add_right]
        · simp only [he, hstep, Nat.le_refl]
      have hdown : b / spacing b * spacing b ≤ nearest b 1 := by
        rcases nearest_one b with he | he
        · simp only [he, Nat.le_refl]
        · simp only [he, Nat.mul_le_mul_right, Nat.le_add_right]
      exact Nat.le_trans hup (Nat.le_trans (Nat.mul_le_mul_right _ hlt) hdown)
    · -- the same multiple below, so the larger part goes up if the smaller one does
      have hpart : a % spacing b ≤ b % spacing b := by
        have hda := Nat.div_add_mod a (spacing b)
        have hdb := Nat.div_add_mod b (spacing b)
        rw [hsame] at hda
        omega
      simp only [nearest, Nat.one_mul, Nat.div_one, hstep, hsame]
      refine Nat.mul_le_mul_right _ ?_
      split
      · next hup =>
        split
        · exact Nat.le_refl _
        · next hdown =>
          simp only [Bool.or_eq_true, Bool.and_eq_true, decide_eq_true_eq, beq_iff_eq] at hup hdown
          omega
      · split <;> omega

/-! ### Integers as doubles -/

/-- The signed count of units of the double nearest to an integer. -/
def unitsOf (i : Int) : Int :=
  if i < 0 then -(nearest (i.natAbs * unit) 1 : Int) else nearest (i.natAbs * unit) 1

theorem unitsOf_mono {m n : Int} (h : m ≤ n) : unitsOf m ≤ unitsOf n := by
  have hmono : ∀ i j : Nat, i ≤ j → nearest (i * unit) 1 ≤ nearest (j * unit) 1 := fun i j hij =>
    nearest_mono (Nat.mul_le_mul_right unit hij)
  unfold unitsOf
  split
  · next hm =>
    split
    · have hnear := hmono n.natAbs m.natAbs (by omega)
      omega
    · omega
  · next hm =>
    split
    · omega
    · have hnear := hmono m.natAbs n.natAbs (by omega)
      omega

theorem units_lt_limit : 2 * (Nat.pow 2 64 * unit) < limit := by decide +kernel

theorem ofInt_eq {i : Int} (h : i.natAbs < Nat.pow 2 64) :
    ∃ x : Double, Extended.ofInt i = .finite x ∧ x.signed = unitsOf i := by
  have hlimit : nearest (i.natAbs * unit) 1 < limit := by
    have hle := nearest_le (i.natAbs * unit)
    have hunits : i.natAbs * unit ≤ Nat.pow 2 64 * unit := Nat.mul_le_mul_right _ (Nat.le_of_lt h)
    have hlimit := units_lt_limit
    omega
  refine ⟨⟨decide (i < 0), nearest (i.natAbs * unit) 1⟩, ?_, ?_⟩
  · simp only [Extended.ofInt, Extended.ofRatio, Extended.ofUnits, hlimit, if_true]
  · simp only [signed, unitsOf, decide_eq_true_eq]

/-- Among integers of 64 bits, the nearest doubles are in the order of the integers or equal. -/
theorem order_ofInt {m n : Int} (hm : m.natAbs < Nat.pow 2 64) (hn : n.natAbs < Nat.pow 2 64) :
    (Extended.ofInt m).order (.ofInt n) = compare m n ∨
      (Extended.ofInt m).order (.ofInt n) = .eq := by
  obtain ⟨x, hx, hxs⟩ := ofInt_eq hm
  obtain ⟨y, hy, hys⟩ := ofInt_eq hn
  rw [hx, hy, Extended.order, hxs, hys]
  rcases lt_trichotomy m n with h | rfl | h
  · have hle := unitsOf_mono (le_of_lt h)
    rw [compare_lt_iff_lt.2 h]
    rcases lt_or_eq_of_le hle with hlt | heq
    · exact .inl (compare_lt_iff_lt.2 hlt)
    · exact .inr (compare_eq_iff_eq.2 heq)
  · exact .inr (compare_eq_iff_eq.2 rfl)
  · have hle := unitsOf_mono (le_of_lt h)
    rw [compare_gt_iff_gt.2 h]
    rcases lt_or_eq_of_le hle with hlt | heq
    · exact .inl (compare_gt_iff_gt.2 hlt)
    · exact .inr (compare_eq_iff_eq.2 heq.symm)

end Double

end LineTemplate
