import LineTemplate.Config.Reader
import LineTemplate.Error

/-!
# Files

What files are read for. How a file is read is left open: `FileReader` gives the text under a
name or the reason why there is none, in any monad. A folder that is held in memory is one way.
-/

namespace LineTemplate

abbrev FileReader (m : Type → Type) := String → m (Except FileFault String)

abbrev Folder := Fields (List UInt8)

namespace Folder

def steps (name : String) : List String :=
  (name.splitOn "/").filter fun part => part ≠ "" && part ≠ "."

def decode (bytes : List UInt8) : Except FileFault String :=
  match String.fromUTF8? ⟨bytes.toArray⟩ with
  | some text => .ok text
  | none => .error .notText

/-- The text of a file in the folder. There are no folders inside it. -/
def read (folder : Folder) (name : String) : Except FileFault String :=
  if name.isEmpty then .error .notFound
  else match steps name with
    | [] => .error .isDirectory
    | [part] =>
      match folder.get? part with
      | some bytes => if name.endsWith "/" then .error .notDirectory else decode bytes
      | none => if part = ".." then .error .isDirectory else .error .notFound
    | part :: _ => if folder.has part then .error .notDirectory else .error .notFound

end Folder

namespace Files

variable {m : Type → Type} [Monad m]

def text (read : FileReader m) (name : String) : m (Except Error String) := do
  match ← read name with
  | .ok text => return .ok text
  | .error fault => return .error (.file name fault)

def contextOfText (name text : String) : Except Error (Fields Value) :=
  match Json.parse? text with
  | some (.object fields) => .ok fields
  | some _ => .error (.notAnObject name)
  | none => .error (.notJson name)

def configOfText (name text : String) : Except Error Config :=
  match Config.ofText? text with
  | some config => .ok config
  | none => .error (.notJson name)

def context (read : FileReader m) (name : String) : m (Except Error (Fields Value)) := do
  match ← Files.text read name with
  | .ok text => return contextOfText name text
  | .error e => return .error e

def config (read : FileReader m) (name : String) : m (Except Error Config) := do
  match ← Files.text read name with
  | .ok text => return configOfText name text
  | .error e => return .error e

end Files

end LineTemplate
