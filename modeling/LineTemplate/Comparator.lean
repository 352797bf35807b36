/-!
# Comparators

The ten ways in which two values are compared, and the symbol of each.
-/

namespace LineTemplate

inductive Comparator where
  | eq | notEq | gt | lt | gtEq | ltEq | find | notFind | full | notFull
  deriving DecidableEq, Repr

namespace Comparator

def symbol : Comparator → String
  | .eq => "=="
  | .notEq => "!="
  | .gt => ">"
  | .lt => "<"
  | .gtEq => ">="
  | .ltEq => "<="
  | .find => "~"
  | .notFind => "!~"
  | .full => "@"
  | .notFull => "!@"

end Comparator

end LineTemplate
