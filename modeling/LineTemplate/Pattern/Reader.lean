import LineTemplate.Pattern.Item

/-!
# Reading patterns

A pattern is put together from its items, from left to right. The groups that are open are kept on
a stack, so what an item does depends only on the items before it. How the items themselves are
read is left to an item reader.
-/

namespace LineTemplate.Pattern

/-- A pattern and how deep it is nested. Brackets and repetitions are one level deeper than what
they hold, and so is a row of parts that has at least two of them. -/
structure Nested where
  pattern : Pattern
  depth : Nat

def nestLimit : Nat := 250

def rowDepth : List Nat → Nat
  | [] => 0
  | [depth] => depth
  | depths => depths.foldl max 0 + 1

/-- The part of a pattern between the brackets of a group: the flags in force, the alternatives
before the last bar, and the items behind it, both newest first. An item that is no pattern
cannot be repeated. -/
structure Level where
  flags : Flags
  alternatives : List Nested
  items : List (Option Nested)

/-- The innermost group, the groups around it from the inside, and the names given so far. -/
structure State where
  level : Level
  outer : List Level
  names : List String

namespace Level

def start (f : Flags) : Level := ⟨f, [], []⟩

def row : List Pattern → Pattern
  | [] => .empty
  | last :: before => before.foldl (fun p q => .cat q p) last

def branch (l : Level) : Nested where
  pattern := row (l.items.filterMap fun item => item.map Nested.pattern)
  depth := rowDepth (l.items.map fun item => item.elim 0 Nested.depth)

def nested (l : Level) : Nested where
  pattern := l.alternatives.foldl (fun p q => .alt q.pattern p) l.branch.pattern
  depth := rowDepth (l.branch.depth :: l.alternatives.map Nested.depth)

def push (l : Level) (item : Option Nested) : Level := { l with items := item :: l.items }

end Level

def repeated (p : Pattern) (low : Nat) : Option Nat → Pattern
  | none => .cat (.times p low) (.star p)
  | some high => .cat (.times p low) (.upTo p (high - low))

namespace State

def start : State := ⟨.start .start, [], []⟩

def add (s : State) : Item → Option State
  | .atom p => some { s with level := s.level.push (some ⟨p, 0⟩) }
  | .bracketed set => some { s with level := s.level.push (some ⟨.char set, 1⟩) }
  | .flags f => some { s with level := { s.level with flags := f }.push none }
  | .opening f name =>
    match name with
    | none => some { s with level := .start f, outer := s.level :: s.outer }
    | some n =>
      if n ∈ s.names then none
      else some { level := .start f, outer := s.level :: s.outer, names := n :: s.names }
  | .closing =>
    match s.outer with
    | [] => none
    | l :: outer =>
      let inner := s.level.nested
      some { s with level := l.push (some ⟨inner.pattern, inner.depth + 1⟩), outer }
  | .bar =>
    some { s with
      level := { s.level with
        alternatives := s.level.branch :: s.level.alternatives
        items := [] } }
  | .repetition low high =>
    match s.level.items with
    | some p :: items =>
      let item := ⟨repeated p.pattern low high, p.depth + 1⟩
      some { s with level := { s.level with items := some item :: items } }
    | _ => none

def finish? (s : State) : Option Nested :=
  match s.outer with
  | [] => some s.level.nested
  | _ :: _ => none

/-- The state behind all the characters; `fuel` bounds the number of items. -/
def readWithin (item : ItemReader) : Nat → State → List Char → Option State
  | 0, _, _ => none
  | fuel + 1, s, cs =>
    match skip s.level.flags cs with
    | [] => some s
    | c :: rest => do
      let (i, rest) ← item s.level.flags (c :: rest)
      let s ← s.add i
      readWithin item fuel s rest

def read (item : ItemReader) (s : State) (cs : List Char) : Option State :=
  readWithin item (cs.length + 1) s cs

end State

/-- The pattern that the text writes, without limits. -/
def nested? (item : ItemReader) (text : String) : Option Nested :=
  (State.start.read item text.toList).bind State.finish?

/-- The pattern that the text writes, if it is neither nested too deep nor too large. -/
def ofText? (text : String) : Option Pattern :=
  match nested? item text with
  | some n => if n.depth ≤ nestLimit ∧ n.pattern.weight ≤ sizeLimit then some n.pattern else none
  | none => none

def reader : PatternReader := fun text => (ofText? text).map occursIn

end LineTemplate.Pattern
