import LineTemplate.Unicode.Property

/-!
# Patterns

A pattern says between which two places of a text it matches. What it needs to know of a place is
the character before it and the one behind it; it has no memory of what it has matched.

`image` takes all places that matches may begin at together and gives all places that they may
end at, so the work grows with the text and not with the number of ways to match. Places are
kept as a list of flags, one more than the text has characters.
-/

namespace LineTemplate

/-- A class of characters, and about how many bytes it adds to the size of a pattern. -/
structure CharSet where
  holds : Char → Bool
  weight : Nat

/-- Whether an assertion holds between two characters; at the ends of a text one is missing. -/
abbrev Look := Option Char → Option Char → Bool

inductive Pattern where
  | empty
  | char (set : CharSet)
  | look (holds : Look)
  | cat (p q : Pattern)
  | alt (p q : Pattern)
  | star (p : Pattern)
  /-- Exactly so many times. -/
  | times (p : Pattern) (n : Nat)
  /-- At most so many times. -/
  | upTo (p : Pattern) (n : Nat)

namespace Pattern

/-- About how many bytes the automaton of a pattern takes: 32 for each of its states, and 8 more
where two ways part. -/
def weight : Pattern → Nat
  | .empty => 0
  | .char set => set.weight
  | .look _ => 32
  | .cat p q => p.weight + q.weight
  | .alt p q => p.weight + q.weight + 40
  | .star p => p.weight + 40
  | .times p n => n * p.weight
  | .upTo p n => n * (p.weight + 40)

def sizeLimit : Nat := 10 * Nat.pow 2 20

/-! ### Sets of places -/

abbrev Places := List Bool

namespace Places

def isEmpty (s : Places) : Bool := !s.any id

def union (s t : Places) : Places := List.zipWith (· || ·) s t

def diff (s t : Places) : Places := List.zipWith (fun here there => here && !there) s t

def all (text : List Char) : Places := List.replicate (text.length + 1) true

end Places

/-- The characters before and behind each place, the one before the first being `before`. -/
def surroundings (before : Option Char) : List Char → List (Option Char × Option Char)
  | [] => [(before, none)]
  | c :: rest => (before, some c) :: surroundings (some c) rest

/-- The places that at most `limit` steps lead to from `frontier`, with those seen before. -/
def closure (step : Places → Places) : Nat → Places → Places → Places
  | 0, seen, _ => seen
  | limit + 1, seen, frontier =>
    let next := (step frontier).diff seen
    if next.isEmpty then seen else closure step limit (seen.union next) next

/-- The places that exactly `n` steps lead to. -/
def steps (step : Places → Places) : Nat → Places → Places
  | 0, s => s
  | n + 1, s => if s.isEmpty then s else steps step n (step s)

/-- The places where matches that begin in `s` end. -/
def image (text : List Char) : Pattern → Places → Places
  | .empty, s => s
  | .char set, s => false :: List.zipWith (fun here c => here && set.holds c) s text
  | .look holds, s =>
    List.zipWith (fun here around => here && holds around.1 around.2) s (surroundings none text)
  | .cat p q, s => image text q (image text p s)
  | .alt p q, s => (image text p s).union (image text q s)
  | .star p, s => closure (image text p) (text.length + 1) s s
  | .times p n, s => steps (image text p) n s
  | .upTo p n, s => closure (image text p) n s s

def occursIn (p : Pattern) (text : String) : Bool :=
  let cs := text.toList
  !(image cs p (.all cs)).isEmpty

end Pattern

/-- A pattern as it is used: whether it occurs in a text. -/
abbrev Matcher := String → Bool

/-- How patterns are read. A text may be no pattern. -/
abbrev PatternReader := String → Option Matcher

end LineTemplate
