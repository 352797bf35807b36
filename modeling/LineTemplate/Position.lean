/-!
# Positions

A place in a template: a line and a column, both counted from zero, the column in characters.
Shown to a reader they count from one. A template that is put below `n` other lines has all its
positions moved down by `n`.
-/

namespace LineTemplate

structure Position where
  line : Nat
  column : Nat
  deriving DecidableEq, Repr, Inhabited

namespace Position

def text (p : Position) : String :=
  "line " ++ toString (p.line + 1) ++ " position " ++ toString (p.column + 1)

/-- The same column, `n` lines further down. -/
def down (n : Nat) (p : Position) : Position := { p with line := p.line + n }

end Position

end LineTemplate
