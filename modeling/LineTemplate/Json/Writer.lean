import LineTemplate.Double.Shortest
import LineTemplate.Value

/-!
# Writing JSON

Compact JSON text: no white space, fields in their order, and only the quote, the backslash and
the control characters below U+0020 escaped. A double has its shortest digits, of two equally
near the even ones; it is written in full, with a fraction, while its leading power of ten is
from -5 to 15, and with an exponent that always has a sign otherwise.
-/

namespace LineTemplate.Json

def hexDigit (n : Nat) : Char := if n < 10 then Char.ofNat (48 + n) else Char.ofNat (87 + n)

def escape (c : Char) : List Char :=
  if c = '"' then ['\\', '"']
  else if c = '\\' then ['\\', '\\']
  else if c.toNat < 32 then
    match c.toNat with
    | 8 => ['\\', 'b']
    | 9 => ['\\', 't']
    | 10 => ['\\', 'n']
    | 12 => ['\\', 'f']
    | 13 => ['\\', 'r']
    | n => ['\\', 'u', '0', '0', hexDigit (n / 16), hexDigit (n % 16)]
  else [c]

def stringChars (s : String) : List Char := '"' :: (s.toList.flatMap escape ++ ['"'])

/-- A decimal in full with a fraction, or with an exponent when its size asks for one. -/
def decimalChars (d : Double.Decimal) : List Char :=
  if -5 ≤ d.exponent ∧ d.exponent ≤ 15 then
    let whole := d.positional
    if whole.contains '.' then whole else whole ++ ['.', '0']
  else
    let mantissa := match d.digits with
      | first :: second :: rest => first :: '.' :: second :: rest
      | short => short
    let sign := if d.exponent < 0 then '-' else '+'
    mantissa ++ 'e' :: sign :: Numeral.digits d.exponent.natAbs

def doubleChars (x : Double) : List Char :=
  let body :=
    if x.isZero then ['0', '.', '0'] else decimalChars (Double.shortest .even x.units)
  if x.negative then '-' :: body else body

def numberChars : Number → List Char
  | .int i => Numeral.intChars i
  | .double x => doubleChars x

def boolChars (b : Bool) : List Char :=
  if b then ['t', 'r', 'u', 'e'] else ['f', 'a', 'l', 's', 'e']

mutual

def chars : Value → List Char
  | .null => ['n', 'u', 'l', 'l']
  | .bool b => boolChars b
  | .number n => numberChars n
  | .string s => stringChars s
  | .array [] => ['[', ']']
  | .array (item :: more) => '[' :: (chars item ++ (itemsChars more ++ [']']))
  | .object [] => ['{', '}']
  | .object ((name, v) :: more) =>
    '{' :: (stringChars name ++ ':' :: (chars v ++ (fieldsChars more ++ ['}'])))

def itemsChars : List Value → List Char
  | [] => []
  | item :: more => ',' :: (chars item ++ itemsChars more)

def fieldsChars : List (String × Value) → List Char
  | [] => []
  | (name, v) :: more => ',' :: (stringChars name ++ ':' :: (chars v ++ fieldsChars more))

end

def write (v : Value) : String := String.ofList (chars v)

end LineTemplate.Json
