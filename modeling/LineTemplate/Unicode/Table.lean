/-!
# Tables of characters

Sets of characters and maps from characters are kept as text: code points in hexadecimal, a range
as its ends with a hyphen between them, and `/n` behind a range of every code point that is `n`
behind the one before it. A table read from such text is in ascending order and is searched by
halving.
-/

namespace LineTemplate.Unicode

def pieces (separator : Char) : List Char → List (List Char)
  | [] => [[]]
  | c :: rest =>
    if c = separator then [] :: pieces separator rest
    else match pieces separator rest with
      | [] => [[c]]
      | piece :: more => (c :: piece) :: more

def words (text : String) : List (List Char) :=
  (pieces ' ' (text.toList.map fun c => if c = '\n' then ' ' else c)).filter (!·.isEmpty)

def hexValue (c : Char) : Nat := if c.isDigit then c.toNat - 48 else c.toNat - 55

def hex (cs : List Char) : Nat := cs.foldl (fun n c => 16 * n + hexValue c) 0

def range (cs : List Char) : Nat × Nat × Nat :=
  let (ends, step) := match pieces '/' cs with
    | [ends, step] => (ends, hex step)
    | _ => (cs, 1)
  match pieces '-' ends with
  | [low, high] => (hex low, hex high, step)
  | _ => (hex ends, hex ends, step)

/-- Ranges of code points in ascending order. -/
abbrev Ranges := Array (Nat × Nat)

/-- The code points from `low` to `high`, each by itself if they are not next to each other. -/
def singles (low high step : Nat) : List (Nat × Nat) :=
  if step = 1 then [(low, high)]
  else (List.range ((high - low) / step + 1)).map fun i => (low + i * step, low + i * step)

def Ranges.ofText (text : String) : Ranges :=
  ((words text).flatMap fun piece =>
    let (low, high, step) := range piece
    singles low high step).toArray

/-- Ranges of which the last comes first, and one more that begins behind the last; it becomes one
range with it if the two touch. -/
def joined : List (Nat × Nat) → Nat × Nat → List (Nat × Nat)
  | (low, high) :: before, next =>
    if next.1 ≤ high + 1 then (low, max high next.2) :: before else next :: (low, high) :: before
  | [], next => [next]

/-- The ranges of the code points that are in any of the parts. -/
def Ranges.union (parts : List Ranges) : Ranges :=
  let ascending := (parts.flatMap Array.toList).mergeSort fun a b => a.1 ≤ b.1
  (ascending.foldl joined []).reverse.toArray

/-- The place of the last entry whose key is at most `n`, at or after `low` and before
`low + size`, if the entry at `low` is one. -/
def place (key : Nat → Nat) (n low : Nat) (size : Nat) : Nat :=
  if size ≤ 1 then low
  else
    let half := size / 2
    if key (low + half) ≤ n then place key n (low + half) (size - half)
    else place key n low half
termination_by size

def Ranges.contains (ranges : Ranges) (n : Nat) : Bool :=
  let entry (i : Nat) := ranges.getD i (0, 0)
  let (low, high) := entry (place (fun i => (entry i).1) n 0 ranges.size)
  0 < ranges.size && low ≤ n && n ≤ high

abbrev Map := Array (Nat × List Nat)

def entries (piece : List Char) : List (Nat × List Nat) :=
  match pieces '>' piece with
  | [source, target] =>
    let (low, high, step) := range source
    match (pieces '.' target).map hex with
    | [first] =>
      (List.range ((high - low) / step + 1)).map fun i =>
        (low + i * step, [first + i * step])
    | targets => [(low, targets)]
  | _ => []

def Map.ofText (text : String) : Map :=
  (((words text).flatMap entries).mergeSort fun a b => a.1 ≤ b.1).toArray

def Map.get? (map : Map) (c : Char) : Option (List Char) :=
  let entry (i : Nat) := map.getD i (0, [])
  let (n, targets) := entry (place (fun i => (entry i).1) c.toNat 0 map.size)
  if 0 < map.size && n = c.toNat then some (targets.map Char.ofNat) else none

end LineTemplate.Unicode
