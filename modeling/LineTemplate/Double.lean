/-!
# Double precision numbers

Every finite number of the binary64 format is a whole multiple of the smallest one, `2 ^ -1074`.
A number is its sign and its magnitude counted in that unit, so comparing and rounding are exact
arithmetic on natural numbers. A magnitude `n` of the format is a multiple of `spacing n`, the
distance to its neighbour above.

A result is rounded to the nearest number of the format, a half to the one whose last bit is
zero; from `limit` on it is infinite.
-/

namespace LineTemplate

/-- A finite number: its sign, which zero has too, and its magnitude in units of `2 ^ -1074`. -/
structure Double where
  negative : Bool
  units : Nat
  deriving DecidableEq, Repr, Inhabited

namespace Double

/-- How many units make one. -/
@[irreducible] def unit : Nat := Nat.pow 2 1074

/-- The first magnitude beyond the format. -/
@[irreducible] def limit : Nat := Nat.pow 2 2098

/-- The distance from the magnitude `n` to the next one of the format. -/
def spacing (n : Nat) : Nat := Nat.pow 2 (Nat.log2 n - 52)

/-- The magnitude of the format that is nearest to `num / den` units. -/
def nearest (num den : Nat) : Nat :=
  let step := den * spacing (num / den)
  let whole := num / step
  let part := num % step
  let up := step < 2 * part || (2 * part == step && whole % 2 == 1)
  (if up then whole + 1 else whole) * spacing (num / den)

/-- The signed count of units; both zeros have zero. -/
def signed (x : Double) : Int := if x.negative then -(x.units : Int) else x.units

def isZero (x : Double) : Bool := x.units == 0

inductive Extended where
  | finite (x : Double)
  | infinite (negative : Bool)
  deriving DecidableEq, Repr

namespace Extended

/-- The number nearest to `num / den` units with the given sign. -/
def ofUnits (negative : Bool) (num den : Nat) : Extended :=
  let n := nearest num den
  if n < limit then finite ⟨negative, n⟩ else infinite negative

/-- The number nearest to `num / den` with the given sign. -/
def ofRatio (negative : Bool) (num den : Nat) : Extended := ofUnits negative (num * unit) den

/-- The number nearest to the integer. -/
def ofInt (i : Int) : Extended := ofRatio (decide (i < 0)) i.natAbs 1

/-- The number nearest to `significand * 10 ^ exponent` with the given sign. -/
def ofDecimal (negative : Bool) (significand : Nat) (exponent : Int) : Extended :=
  match exponent with
  | .ofNat e => ofRatio negative (significand * Nat.pow 10 e) 1
  | .negSucc e => ofRatio negative significand (Nat.pow 10 (e + 1))

/-- The order of the numbers between the infinities; the two zeros are equal. -/
def order : Extended → Extended → Ordering
  | finite x, finite y => compare x.signed y.signed
  | finite _, infinite negative => if negative then .gt else .lt
  | infinite negative, finite _ => if negative then .lt else .gt
  | infinite a, infinite b => if a = b then .eq else if a then .lt else .gt

theorem order_self (x : Extended) : order x x = .eq := by
  cases x <;> simp [order]

theorem order_swap (x y : Extended) : (order x y).swap = order y x := by
  cases x <;> cases y <;> simp only [order]
  · simp [Int.compare_swap]
  · split <;> rfl
  · split <;> rfl
  · rename_i a b
    cases a <;> cases b <;> rfl

end Extended

/-- The product of two numbers, rounded. -/
def mul (x y : Double) : Extended :=
  .ofUnits (x.negative != y.negative) (x.units * y.units) unit

/-- The quotient of two numbers, rounded. -/
def div (x y : Double) : Extended :=
  .ofUnits (x.negative != y.negative) (x.units * unit) y.units

end Double

end LineTemplate
