import LineTemplate.Pipe
import LineTemplate.Text.Case
import LineTemplate.Text.Lines
import LineTemplate.Text.Replace
import LineTemplate.Value.Reading

/-!
# Built-in pipes

The thirteen pipes that every engine has. Those for text work on the text of any value; those for
objects take null as an object without fields.
-/

namespace LineTemplate.Pipe

def stringArg (pipe : String) (args : List Literal) (place : Nat) : Except Error String :=
  match args[place]?.bind Literal.string? with
  | some s => .ok s
  | none => .error (.pipeInput pipe (.noStringArgument place))

def fieldsOf (pipe : String) : Value → Except Error (Fields Value)
  | .object fields => .ok fields
  | .null => .ok []
  | v => .error (.pipeInput pipe (.notAnObject v.kind))

def length : Pipe := fun v _ =>
  .ok (.count (match v with
    | .null => 0
    | .array items => items.length
    | .object fields => fields.length
    | v => v.text.toList.length))

def upper : Pipe := fun v _ => .ok (.string (Text.upper v.text))

def lower : Pipe := fun v _ => .ok (.string (Text.lower v.text))

def trim : Pipe := fun v _ => .ok (.string (Text.trim v.text))

def replace : Pipe := fun v args => do
  let old ← stringArg "replace" args 0
  let new ← stringArg "replace" args 1
  return .string (Text.replace old new v.text)

def entries : Pipe := fun v _ => do
  let fields ← fieldsOf "entries" v
  return .array (fields.map fun (name, v) => .object [("key", .string name), ("value", v)])

def keys : Pipe := fun v _ => do
  let fields ← fieldsOf "keys" v
  return .array (fields.map fun (name, _) => .string name)

def values : Pipe := fun v _ => do
  let fields ← fieldsOf "values" v
  return .array (fields.map fun (_, v) => v)

/-- The texts of the items with a separator between them, a comma unless one is given. -/
def join : Pipe := fun v args => do
  let separator ← if args.isEmpty then .ok "," else stringArg "join" args 0
  return .string (match v with
    | .array items => Text.joinWith separator (items.map Value.text)
    | v => v.text)

def default : Pipe := fun v args =>
  match args with
  | [] => .error (.pipeInput "default" .noFallback)
  | fallback :: _ => .ok (if v.isBlank then fallback.toValue else v)

def reverse : Pipe := fun v _ =>
  match v with
  | .null => .ok .null
  | .string s => .ok (.string (String.ofList s.toList.reverse))
  | .array items => .ok (.array items.reverse)
  | v => .error (.pipeInput "reverse" (.noReverse v.kind))

/-- A string of one character, or null. -/
def single : Option Char → Value
  | some c => .string (String.ofList [c])
  | none => .null

def first : Pipe := fun v _ =>
  match v with
  | .null => .ok .null
  | .string s => .ok (single s.toList.head?)
  | .array items => .ok (items.head?.getD .null)
  | v => .error (.pipeInput "first" (.noFirst v.kind))

def last : Pipe := fun v _ =>
  match v with
  | .null => .ok .null
  | .string s => .ok (single s.toList.getLast?)
  | .array items => .ok (items.getLast?.getD .null)
  | v => .error (.pipeInput "last" (.noLast v.kind))

end LineTemplate.Pipe

namespace LineTemplate.PipeSet

/-- The built-in pipes only. -/
def standard : PipeSet where
  custom := []
  builtin := Fields.ofList
    [("length", Pipe.length), ("upper", Pipe.upper), ("lower", Pipe.lower), ("trim", Pipe.trim),
      ("replace", Pipe.replace), ("entries", Pipe.entries), ("keys", Pipe.keys),
      ("values", Pipe.values), ("join", Pipe.join), ("default", Pipe.default),
      ("reverse", Pipe.reverse), ("first", Pipe.first), ("last", Pipe.last)]

end LineTemplate.PipeSet
