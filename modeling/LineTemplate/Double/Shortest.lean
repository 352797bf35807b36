import LineTemplate.Double
import LineTemplate.Numeral

/-!
# The shortest decimal of a number

The decimals that round to a finite number form an interval around it, with its ends when the
last bit of the number is zero. The shortest decimal has the fewest digits of all in the
interval, and of those it is the nearest to the number; two at the same distance are told apart
by `Tie`. On a grid of decimals only the two neighbours of the number need a look: if any point
of the grid lies in the interval, one of these does.
-/

namespace LineTemplate.Double

/-- Which of two decimals at the same distance is taken: the even one or the upper one. -/
inductive Tie where
  | even
  | up
  deriving DecidableEq

/-- Decimal digits, and the power of ten that the first of them counts. -/
structure Decimal where
  digits : List Char
  exponent : Int
  deriving DecidableEq, Repr

/-- Whether `10 ^ e` is at most `n` units. -/
def powerLe (n : Nat) (e : Int) : Bool :=
  match e with
  | .ofNat k => decide (Nat.pow 10 k * unit ≤ n)
  | .negSucc k => decide (unit ≤ n * Nat.pow 10 (k + 1))

/-- The power of ten that the first digit of `n` units counts. -/
def leading (n : Nat) : Int :=
  let guess : Int := ((Nat.log2 n : Int) - 1074) * 30103 / 100000
  if powerLe n (guess + 1) then guess + 1
  else if powerLe n guess then guess else guess - 1

/-- The point of the grid of multiples of `10 ^ p` that stands for `n` units, if one does.
Lengths are in quarters of a unit, so that the interval has whole ends. -/
def gridPoint? (tie : Tie) (n : Nat) (p : Int) : Option Nat :=
  let step := spacing n
  let closed := n / step % 2 == 0
  let below := if 53 ≤ Nat.log2 n && n == Nat.pow 2 (Nat.log2 n) then step else 2 * step
  let grid := 4 * unit * Nat.pow 10 p.toNat
  let scale := Nat.pow 10 (-p).toNat
  let target := 4 * n * scale
  let low := (4 * n - below) * scale
  let high := (4 * n + 2 * step) * scale
  let under := target / grid
  let left := target - under * grid
  let right := (under + 1) * grid - target
  let hasUnder := if closed then low ≤ under * grid else low < under * grid
  let hasOver := if closed then (under + 1) * grid ≤ high else (under + 1) * grid < high
  if hasUnder && hasOver then
    if left < right then some under
    else if right < left then some (under + 1)
    else match tie with
      | .even => some (if under % 2 == 0 then under else under + 1)
      | .up => some (under + 1)
  else if hasUnder then some under
  else if hasOver then some (under + 1)
  else none

/-- The first grid with a point that stands for `n` units, from coarse to fine. -/
def search (tie : Tie) (n : Nat) : Nat → Int → Nat × Int
  | 0, p => (n * Nat.pow 10 (-p).toNat / (unit * Nat.pow 10 p.toNat), p)
  | more + 1, p =>
    match gridPoint? tie n p with
    | some point => (point, p)
    | none => search tie n more (p - 1)

/-- Digits without the zeros at their end, but for one digit. -/
def dropZeros : List Char → List Char
  | [] => []
  | d :: rest => if rest.all (· == '0') then [d] else d :: dropZeros rest

/-- The shortest decimal of `n` units, which are not zero. -/
def shortest (tie : Tie) (n : Nat) : Decimal :=
  let (point, p) := search tie n 17 (leading n)
  let all := Numeral.digits point
  ⟨dropZeros all, p + ((all.length : Int) - 1)⟩

/-- The decimal without an exponent; the fraction is left out when it is zero. -/
def Decimal.positional (d : Decimal) : List Char :=
  match d.exponent with
  | .negSucc k => '0' :: '.' :: (List.replicate k '0' ++ d.digits)
  | .ofNat k =>
    if d.digits.length ≤ k + 1 then d.digits ++ List.replicate (k + 1 - d.digits.length) '0'
    else d.digits.take (k + 1) ++ '.' :: d.digits.drop (k + 1)

/-- The text of a number in full, with the fewest digits that read back. -/
def plainChars (x : Double) : List Char :=
  let body := if x.isZero then ['0'] else (shortest .up x.units).positional
  if x.negative then '-' :: body else body

def Extended.plain : Extended → String
  | .finite x => String.ofList x.plainChars
  | .infinite negative => if negative then "-inf" else "inf"

end LineTemplate.Double
