import LineTemplate.Double
import LineTemplate.Fields

/-!
# Values

The data that templates are rendered against. A number is an exact integer or a finite double;
the two never stand for each other. The fields of an object are in ascending order of their
names.
-/

namespace LineTemplate

/-- A number as data has it: `1` is an integer, `1.0` is not. -/
inductive Number where
  | int (i : Int)
  | double (x : Double)
  deriving DecidableEq, Repr

inductive Value where
  | null
  | bool (b : Bool)
  | number (n : Number)
  | string (s : String)
  | array (items : List Value)
  | object (fields : List (String × Value))
  deriving Repr, Inhabited

namespace Value

def count (n : Nat) : Value := .number (.int n)

def kind : Value → String
  | .null => "null"
  | .bool _ => "bool"
  | .number _ => "number"
  | .string _ => "string"
  | .array _ => "array"
  | .object _ => "object"

end Value

end LineTemplate
