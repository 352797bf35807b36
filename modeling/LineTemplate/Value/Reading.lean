import LineTemplate.Json.Writer
import LineTemplate.Text.Blank

/-!
# How values read

What a value counts as where a template asks for something: blank or not, true or false, its
number, its text, its items. A number is read from numbers and from strings that hold a plain
decimal, that is an optional sign, digits, and optionally a point and digits, between white
space. Integers are kept exact.
-/

namespace LineTemplate

/-- A plain decimal: its sign, the digits before the point, and those behind it if it has one. -/
structure PlainDecimal where
  negative : Bool
  whole : List Char
  fraction : Option (List Char)
  deriving DecidableEq, Repr

namespace PlainDecimal

def splitSign : List Char → Bool × List Char
  | '-' :: rest => (true, rest)
  | '+' :: rest => (false, rest)
  | cs => (false, cs)

/-- What stands before the first point, and what stands behind it if there is one. -/
def splitPoint : List Char → List Char × Option (List Char)
  | [] => ([], none)
  | c :: rest =>
    if c = '.' then ([], some rest)
    else let (whole, fraction) := splitPoint rest; (c :: whole, fraction)

/-- The plain decimal that the characters write, white space around it aside. -/
def ofChars? (cs : List Char) : Option PlainDecimal :=
  let (negative, body) := splitSign (Text.trimChars cs)
  let (whole, fraction) := splitPoint body
  if Numeral.isDigits whole && fraction.all Numeral.isDigits then
    some ⟨negative, whole, fraction⟩
  else none

/-- The nearest double. -/
def toDouble (d : PlainDecimal) : Double.Extended :=
  let fraction := d.fraction.getD []
  .ofDecimal d.negative (Numeral.value (d.whole ++ fraction)) (-(fraction.length : Int))

def toInt (d : PlainDecimal) : Int :=
  if d.negative then -(Numeral.value d.whole : Int) else Numeral.value d.whole

end PlainDecimal

/-- What a value counts as among the numbers. -/
inductive Reading where
  | integer (i : Int)
  | decimal (x : Double.Extended)
  deriving DecidableEq, Repr

namespace Reading

/-- Whether an integer is small enough to be kept exact when it is read from text. -/
def isExact (i : Int) : Bool := Numeral.fitsSigned 128 i

def ofDecimal (d : PlainDecimal) : Reading :=
  if d.fraction.isNone && isExact d.toInt then .integer d.toInt else .decimal d.toDouble

def ofChars? (cs : List Char) : Option Reading := (PlainDecimal.ofChars? cs).map ofDecimal

def toDouble : Reading → Double.Extended
  | .integer i => .ofInt i
  | .decimal x => x

/-- Two integers are in their own order; everything else is ordered as doubles. -/
def order : Reading → Reading → Ordering
  | .integer a, .integer b => compare a b
  | a, b => a.toDouble.order b.toDouble

end Reading

namespace Value

/-- Null, white space, and collections of nothing are blank. -/
def isBlank : Value → Bool
  | .null => true
  | .string s => Text.isBlank s
  | .array items => items.isEmpty
  | .object fields => fields.isEmpty
  | .bool _ => false
  | .number _ => false

/-- What a condition makes of the value: blanks, zeros and the word `false` do not hold. -/
def isTruthy : Value → Bool
  | .bool b => b
  | .null => false
  | .string s => !Text.isBlank s && Text.trim s != "false"
  | .number (.int i) => i != 0
  | .number (.double x) => !x.isZero
  | .array items => !items.isEmpty
  | .object fields => !fields.isEmpty

/-- The number that the value counts as. -/
def reading? : Value → Option Reading
  | .number (.int i) => some (.integer i)
  | .number (.double x) => some (.decimal (.finite x))
  | .string s => Reading.ofChars? s.toList
  | _ => none

/-- The text that the value is rendered as: strings as they are, nothing for null. -/
def text : Value → String
  | .null => ""
  | .string s => s
  | v => Json.write v

/-- What a loop walks over: the items of an array, nothing for null and the empty string, and
any other value by itself. -/
def items : Value → List Value
  | .null => []
  | .array items => items
  | .string s => if s.isEmpty then [] else [.string s]
  | v => [v]

end Value

end LineTemplate
