import LineTemplate.CommandLine

/-!
# The program

Reads files of the system, and prints what comes of the arguments.
-/

open LineTemplate

def faultOf : IO.Error → FileFault
  | .noFileOrDirectory .. => .notFound
  | .inappropriateType .. => .isDirectory
  | e => .other (toString e)

def readFile : FileReader IO := fun name => do
  try
    let bytes ← IO.FS.readBinFile name
    return Folder.decode bytes.toList
  catch e => return .error (faultOf e)

def main (args : List String) : IO UInt32 := do
  let outcome ← CommandLine.run readFile args
  IO.print outcome.output
  IO.eprint outcome.complaint
  return UInt32.ofNat outcome.code
