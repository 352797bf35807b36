import LineTemplate.Config
import LineTemplate.Pattern.Reader
import LineTemplate.Pipe.Builtin
import LineTemplate.Placeholder

/-!
# Engines

An engine is what templates are rendered with: the pipes, what is done to text lines inside
loops, how paths are followed, how patterns are read, and the settings.
-/

namespace LineTemplate

/-- What is done to a text line inside a loop. A custom formatter has a name, and is given the
line and the values of paths. -/
inductive Formatter where
  | interpolator
  | verbatim
  | custom (name : String) (format : String → (Path → Option Value) → Except Error String)

namespace Formatter

def format : Formatter → String → (Path → Option Value) → Except Error String
  | .interpolator, line, lookup => .ok (Placeholder.interpolate lookup line)
  | .verbatim, line, _ => .ok line
  | .custom _ format, line, lookup => format line lookup

def ofInterpolation : Interpolation → Formatter
  | .standard => .interpolator
  | .verbatim => .verbatim

end Formatter

structure Engine where
  pipes : PipeSet
  formatter : Formatter
  accessor : Resolver
  patterns : PatternReader
  config : Config

namespace Engine

def ofConfig (config : Config) : Engine :=
  ⟨.standard, .ofInterpolation config.interpolation, Segment.child, Pattern.reader, config⟩

def standard : Engine := ofConfig .standard

def registerPipe (g : Engine) (name : String) (pipe : Pipe) : Engine :=
  { g with pipes := g.pipes.register name pipe }

end Engine

end LineTemplate
