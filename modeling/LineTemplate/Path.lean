import LineTemplate.Numeral
import LineTemplate.Text.Blank
import LineTemplate.Token.Scan
import LineTemplate.Value

/-!
# Paths

A path names a root and says step by step how to go on from its value: by the key of an object
or by the index in an array. An array takes a key that is a numeral as an index, and an object
takes an index as a key.

A path has a text, dotted keys and bracketed indexes behind the root, and there is a reader for
what stands in placeholders, where keys may be quoted in brackets and indexes may be dotted.
-/

namespace LineTemplate

inductive Segment where
  | key (name : String)
  | index (i : Nat)
  deriving DecidableEq, Repr

structure Path where
  root : String
  rest : List Segment
  deriving DecidableEq, Repr

namespace Segment

def indexLimit : Nat := Nat.pow 2 64

/-- The index of a numeral; a plus sign in front is allowed. -/
def index? (cs : List Char) : Option Nat :=
  let ds := match cs with
    | '+' :: rest => rest
    | cs => cs
  if Numeral.isDigits ds && Numeral.value ds < indexLimit then some (Numeral.value ds) else none

def indexName (i : Nat) : String := String.ofList (Numeral.digits i)

def child : Value → Segment → Option Value
  | .object fields, .key name => Fields.get? fields name
  | .object fields, .index i => Fields.get? fields (indexName i)
  | .array items, .index i => items[i]?
  | .array items, .key name => (index? name.toList).bind fun i => items[i]?
  | _, _ => none

def text : Segment → String
  | .key name => "." ++ name
  | .index i => "[" ++ indexName i ++ "]"

end Segment

/-- How to take one step from a value. -/
abbrev Accessor := Value → Segment → Option Value

namespace Accessor

def resolve (step : Accessor) (v : Value) : List Segment → Option Value
  | [] => some v
  | s :: rest => (step v s).bind fun next => resolve step next rest

end Accessor

/-- How paths are followed. By itself an accessor is asked for one step after the other, but there
may be another way to take all the steps of a path. -/
structure Resolver where
  child : Accessor
  resolve : Value → List Segment → Option Value := child.resolve

instance : Coe Accessor Resolver := ⟨fun child => { child }⟩

namespace Path

def text (p : Path) : String := p.rest.foldl (fun shown s => shown ++ s.text) p.root

/-! ### Reading -/

def isBreak (c : Char) : Bool := c == '.' || c == '['

/-- What stands between two quotes of one kind, white space around them aside. -/
def unquote? (cs : List Char) : Option (List Char) :=
  match Text.trimChars cs with
  | q :: rest =>
    if (q = '\'' ∨ q = '"') ∧ rest.getLast? = some q then some rest.dropLast else none
  | [] => none

def dotted? (cs : List Char) : Option Segment :=
  match Segment.index? cs with
  | some i => some (.index i)
  | none => if Token.isName cs then some (.key (String.ofList cs)) else none

def bracketed? (cs : List Char) : Option Segment :=
  match unquote? cs with
  | some name => some (.key (String.ofList name))
  | none => (Segment.index? (Text.trimChars cs)).map .index

/-- All segments, each behind a point or between brackets. -/
def segments? : List Char → Option (List Segment)
  | [] => some []
  | c :: cs =>
    if c = '.' then do
      let s ← dotted? (cs.takeWhile (!isBreak ·))
      let rest ← segments? (cs.dropWhile (!isBreak ·))
      some (s :: rest)
    else if c = '[' then
      match _h : cs.dropWhile (· != ']') with
      | [] => none
      | _ :: after => do
        let s ← bracketed? (cs.takeWhile (· != ']'))
        let rest ← segments? after
        some (s :: rest)
    else none
termination_by cs => cs.length
decreasing_by
  · exact Nat.lt_succ_of_le (List.dropWhile_suffix _).length_le
  · have : (cs.dropWhile (· != ']')).length ≤ cs.length := (List.dropWhile_suffix _).length_le
    simp only [_h, List.length_cons] at this ⊢
    omega

/-- The path that the characters write, white space around it aside. -/
def ofChars? (cs : List Char) : Option Path :=
  let cs := Text.trimChars cs
  let root := cs.takeWhile (!isBreak ·)
  if Token.isName root then
    (segments? (cs.dropWhile (!isBreak ·))).map fun rest => ⟨String.ofList root, rest⟩
  else none

end Path

end LineTemplate
