/-!
# Settings of an engine
-/

namespace LineTemplate

inductive Interpolation where
  /-- They are filled in. -/
  | standard
  /-- They stay as they are. -/
  | verbatim
  deriving DecidableEq, Repr

structure Config where
  /-- What stands between the iterations of a loop that does not say so itself. -/
  delimiter : String
  interpolation : Interpolation
  deriving DecidableEq, Repr

namespace Config

/-- The settings that hold where none are given. -/
def standard : Config := ⟨", ", .standard⟩

end Config

end LineTemplate
