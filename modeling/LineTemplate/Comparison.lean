import LineTemplate.Error
import LineTemplate.Pattern
import LineTemplate.Value.Reading

/-!
# Comparing values

Equality is loose: blanks are equal to each other only, two truth values compare as such, two
values that count as numbers compare by their numbers, and everything else by its text. An order
there is between numbers only. Patterns are looked for in the text of the left value; each of
them is read once, by whatever reads patterns, and then kept.
-/

namespace LineTemplate

namespace Value

def looseEq (l r : Value) : Bool :=
  if l.isBlank || r.isBlank then l.isBlank && r.isBlank
  else match l, r with
    | .bool a, .bool b => a == b
    | l, r =>
      match l.reading?, r.reading? with
      | some a, some b => a.order b == .eq
      | _, _ => l.text == r.text

def numeric (v : Value) : Except OperandFault Reading :=
  match v.reading? with
  | some reading => .ok reading
  | none => .error (.notNumeric v.text)

def order (l r : Value) : Except OperandFault Ordering := do
  let a ← l.numeric
  let b ← r.numeric
  return a.order b

end Value

namespace Pattern

abbrev Known := List (String × Matcher)

namespace Known

def get? (known : Known) (text : String) : Option Matcher :=
  match known with
  | [] => none
  | (key, p) :: rest => if key = text then some p else get? rest text

/-- The pattern with the text, and what is known behind the question for it. A pattern that had to
be read is kept; a text that is no pattern leaves what is known as it was. -/
def consult (read : PatternReader) (known : Known) (text : String) : Option Matcher × Known :=
  match known.get? text with
  | some p => (some p, known)
  | none =>
    match read text with
    | some p => (some p, (text, p) :: known)
    | none => (none, known)

end Known

/-- The text of the pattern that matches whole texts only. -/
def wholeText (pattern : String) : String := "^(?:" ++ pattern ++ ")$"

/-- Whether the pattern with the text `pattern` occurs in `subject`. -/
def search (read : PatternReader) (known : Known) (pattern subject : String) (pos : Position) :
    Except Error (Bool × Known) :=
  match known.consult read pattern with
  | (some p, known) => .ok (p subject, known)
  | (none, _) => .error (.invalidPattern pattern pos)

theorem search_eq_consult (read : PatternReader) (known : Known) (pattern subject : String)
    (pos : Position) : search read known pattern subject pos =
      match (known.consult read pattern).1 with
      | some p => .ok (p subject, (known.consult read pattern).2)
      | none => .error (.invalidPattern pattern pos) := by
  unfold search
  rcases known.consult read pattern with ⟨_ | p, more⟩ <;> rfl

end Pattern

namespace Comparator

/-- Whether two values stand in an order that satisfies `holds`. -/
def ordered (holds : Ordering → Bool) (l r : Value) (pos : Position) : Except Error Bool :=
  match l.order r with
  | .ok o => .ok (holds o)
  | .error fault => .error (.operandType fault pos)

/-- Whether the comparison at `pos` holds, and the patterns known behind it. -/
def apply (read : PatternReader) (c : Comparator) (l r : Value) (pos : Position)
    (known : Pattern.Known) : Except Error (Bool × Pattern.Known) :=
  match c with
  | .eq => .ok (l.looseEq r, known)
  | .notEq => .ok (!l.looseEq r, known)
  | .gt => (ordered (· == .gt) l r pos).map (·, known)
  | .lt => (ordered (· == .lt) l r pos).map (·, known)
  | .gtEq => (ordered (· != .lt) l r pos).map (·, known)
  | .ltEq => (ordered (· != .gt) l r pos).map (·, known)
  | .find => Pattern.search read known r.text l.text pos
  | .notFind => (Pattern.search read known r.text l.text pos).map fun (b, known) => (!b, known)
  | .full => Pattern.search read known (Pattern.wholeText r.text) l.text pos
  | .notFull =>
    (Pattern.search read known (Pattern.wholeText r.text) l.text pos).map
      fun (b, known) => (!b, known)

end Comparator

end LineTemplate
