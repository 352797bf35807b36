import LineTemplate.Fault
import LineTemplate.Text.Quoted

/-!
# Errors

Everything that can go wrong, as causes, with the words for each of them in `Error.message`.
Errors of the template itself, of the data it meets and of files are told apart by their
constructors.
-/

namespace LineTemplate

inductive OperandFault where
  /-- A number in the template that is beyond the doubles. -/
  | malformed (literal : String)
  /-- A value that counts as no number, by its text. -/
  | notNumeric (text : String)
  deriving DecidableEq, Repr

inductive PipeFault where
  /-- No string among the arguments at the given place, which counts from zero. -/
  | noStringArgument (place : Nat)
  | noFallback
  /-- A value of the given kind in place of an object. -/
  | notAnObject (kind : String)
  | noReverse (kind : String)
  | noFirst (kind : String)
  | noLast (kind : String)
  /-- What a pipe that is not built in says. -/
  | other (message : String)
  deriving DecidableEq, Repr

inductive FileFault where
  | notFound
  | notDirectory
  | isDirectory
  | notText
  /-- Anything else, in the words of the system. -/
  | other (message : String)
  deriving DecidableEq, Repr

inductive Error where
  | file (name : String) (fault : FileFault)
  | notJson (name : String)
  | notAnObject (name : String)
  | grammar (e : SyntaxError)
  | guardViolation (message : String) (pos : Position)
  | checkViolation (message : String) (pos : Position)
  | pipeNotFound (name : String) (pos : Position)
  | pipeInput (pipe : String) (fault : PipeFault)
  | operandType (fault : OperandFault) (pos : Position)
  | duplicateBinding (name : String) (pos : Position)
  | invalidPattern (pattern : String) (pos : Position)
  deriving DecidableEq, Repr

namespace OperandFault

def message : OperandFault → String
  | .malformed literal => "Malformed numeric literal '" ++ literal ++ "'"
  | .notNumeric text => "Cannot order non-numeric value '" ++ text ++ "'"

end OperandFault

namespace PipeFault

def message : PipeFault → String
  | .noStringArgument place =>
    "expects a string argument at position " ++ toString (place + 1)
  | .noFallback => "expects a fallback argument"
  | .notAnObject kind => "expects an object, got " ++ kind
  | .noReverse kind => "cannot reverse " ++ kind
  | .noFirst kind => "cannot take the first of " ++ kind
  | .noLast kind => "cannot take the last of " ++ kind
  | .other message => message

end PipeFault

namespace FileFault

def message : FileFault → String
  | .notFound => "No such file or directory (os error 2)"
  | .notDirectory => "Not a directory (os error 20)"
  | .isDirectory => "Is a directory (os error 21)"
  | .notText => "stream did not contain valid UTF-8"
  | .other message => message

end FileFault

namespace Error

def message : Error → String
  | .file name fault => "IO error in " ++ Text.quote name ++ " " ++ fault.message
  | .notJson name => "Json error in " ++ Text.quote name
  | .notAnObject name => "Json at " ++ Text.quote name ++ " was not an object"
  | .grammar e => "Syntax error at " ++ e.pos.text ++ ": " ++ e.fault.message
  | .guardViolation message _ => "Guard violation: " ++ message
  | .checkViolation message _ => "Check violation: " ++ message
  | .pipeNotFound name pos => "Pipe \"" ++ name ++ "\" not found at " ++ pos.text
  | .pipeInput pipe fault =>
    "Pipe \"" ++ pipe ++ "\" cannot transform its input: " ++ fault.message
  | .operandType fault pos => "Operand type error at " ++ pos.text ++ ": " ++ fault.message
  | .duplicateBinding name pos =>
    "Name \"" ++ name ++ "\" at " ++ pos.text ++ " is already bound"
  | .invalidPattern pattern pos => "Invalid pattern \"" ++ pattern ++ "\" at " ++ pos.text

/-- The place in the template that the error points at, if it points at one. -/
def position? : Error → Option Position
  | .grammar e => some e.pos
  | .guardViolation _ pos => some pos
  | .checkViolation _ pos => some pos
  | .pipeNotFound _ pos => some pos
  | .operandType _ pos => some pos
  | .duplicateBinding _ pos => some pos
  | .invalidPattern _ pos => some pos
  | .file .. | .notJson _ | .notAnObject _ | .pipeInput .. => none

def isSyntax : Error → Bool
  | .grammar _ => true
  | _ => false

end Error

end LineTemplate
