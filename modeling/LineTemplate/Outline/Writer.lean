import LineTemplate.Json.Writer
import LineTemplate.Outline
import LineTemplate.Text.Lines

/-!
# Writing outlines

An outline as JSON text with one entry a line, two spaces deeper for each collection around it.
-/

namespace LineTemplate.Outline

def quoted (s : String) : String := Json.write (.string s)

/-- Entries between brackets, each on a line of its own behind `indent` and two spaces more. -/
def bracketed (opening closing indent : String) : List String → String
  | [] => opening ++ closing
  | entries =>
    opening ++ "\n"
      ++ Text.joinWith ",\n" (entries.map fun entry => indent ++ "  " ++ entry)
      ++ "\n" ++ indent ++ closing

def list (indent : String) (names : List String) : String :=
  bracketed "[" "]" indent (names.map quoted)

def field (name content : String) : String := quoted name ++ ": " ++ content

def counts (indent : String) (fields : Fields Nat) : String :=
  bracketed "\x7b" "\x7d" indent (fields.map fun (name, n) => field name (toString n))

def write (o : Outline) : String :=
  bracketed "\x7b" "\x7d" ""
    [field "variables" (list "  " o.needed), field "pipes" (list "  " o.pipes),
      field "defined" (list "  " o.defined), field "bindings" (list "  " o.bindings),
      field "directives" (counts "  " o.directives)]

end LineTemplate.Outline
