import LineTemplate.Files
import LineTemplate.Outline.Writer
import LineTemplate.Template

/-!
# The command line

Two commands: one renders a template and prints what it becomes, the other prints its outline.
Arguments are read from left to right. A short option may stand together with others behind one
hyphen, and its value may follow it at once; the value of a long option may follow an equals
sign. Behind two hyphens there are no options. An option may be given once for each command.
-/

namespace LineTemplate.CommandLine

inductive Command where
  | render (template : String) (context config : Option String)
  | verify (template : String)
  deriving DecidableEq, Repr

inductive Request where
  | run (command : Command)
  | noCommand
  | notice
  | version
  | help
  | misuse
  deriving DecidableEq, Repr

/-! ### Arguments -/

inductive Arg where
  /-- An option with a long name, and the value behind its equals sign. -/
  | long (name : String) (value : Option String)
  /-- The letters behind a single hyphen. -/
  | short (letters : List Char)
  /-- Two hyphens. -/
  | separator
  | plain (text : String)
  deriving DecidableEq, Repr

def Arg.ofText (text : String) : Arg :=
  match text.toList with
  | ['-', '-'] => .separator
  | '-' :: '-' :: rest =>
    match rest.dropWhile (· != '=') with
    | [] => .long (String.ofList rest) none
    | _ :: value => .long (String.ofList (rest.takeWhile (· != '='))) (some (String.ofList value))
  | '-' :: c :: rest => .short (c :: rest)
  | _ => .plain text

/-- The value of an option, from the text attached to it or from the next argument. -/
def valueFrom (attached : Option String) (rest : List String) : Option (String × List String) :=
  match attached, rest with
  | some value, rest => if value.isEmpty then none else some (value, rest)
  | none, next :: rest =>
    match Arg.ofText next with
    | .plain text => if text.isEmpty then none else some (text, rest)
    | _ => none
  | none, [] => none

structure Given where
  verbose : Bool
  template : Option String
  context : Option String
  config : Option String
  deriving DecidableEq, Repr

namespace Given

def start : Given := ⟨false, none, none, none⟩

def setVerbose (g : Given) : Option Given :=
  if g.verbose then none else some { g with verbose := true }

def setTemplate (g : Given) (text : String) : Option Given :=
  if g.template.isSome || text.isEmpty then none else some { g with template := some text }

def setContext (g : Given) (text : String) : Option Given :=
  if g.context.isSome then none else some { g with context := some text }

def setConfig (g : Given) (text : String) : Option Given :=
  if g.config.isSome then none else some { g with config := some text }

end Given

/-- What reading an argument comes to: it goes on, or the request is settled. -/
inductive Progress (α : Type) where
  | on (x : α)
  | settled (r : Request)

/-- Goes on if there is something, and is a misuse otherwise. -/
def Progress.ofOption {α : Type} : Option α → Progress α
  | some x => .on x
  | none => .settled .misuse

/-- The letters of short options of a command. Only `render` takes data. -/
def shortOptions (takesData : Bool) (g : Given) (rest : List String) :
    List Char → Progress (Given × List String)
  | [] => .on (g, rest)
  | 'v' :: more =>
    match g.setVerbose with
    | some g => shortOptions takesData g rest more
    | none => .settled .misuse
  | 'h' :: _ => .settled .help
  | 'c' :: more =>
    if takesData then
      let attached := match more with
        | [] => none
        | '=' :: value => some (String.ofList value)
        | value => some (String.ofList value)
      .ofOption do
        let (value, rest) ← valueFrom attached rest
        let g ← g.setContext value
        some (g, rest)
    else .settled .misuse
  | _ => .settled .misuse

def longOption (takesData : Bool) (g : Given) (rest : List String) (name : String)
    (value : Option String) : Progress (Given × List String) :=
  if name = "verbose" ∧ value.isNone then .ofOption (g.setVerbose.map (·, rest))
  else if name = "help" ∧ value.isNone then .settled .help
  else if name = "context" ∧ takesData then
    .ofOption do
      let (value, rest) ← valueFrom value rest
      let g ← g.setContext value
      some (g, rest)
  else if name = "config" ∧ takesData then
    .ofOption do
      let (value, rest) ← valueFrom value rest
      let g ← g.setConfig value
      some (g, rest)
  else .settled .misuse

/-- The arguments of a command; `fuel` bounds their number. -/
def arguments (takesData : Bool) : Nat → Bool → Given → List String → Progress Given
  | _, _, g, [] => .on g
  | 0, _, _, _ :: _ => .settled .misuse
  | fuel + 1, plainOnly, g, text :: rest =>
    let next : Progress (Given × List String) :=
      if plainOnly then .ofOption ((g.setTemplate text).map (·, rest))
      else match Arg.ofText text with
        | .separator => .on (g, rest)
        | .plain text => .ofOption ((g.setTemplate text).map (·, rest))
        | .short letters => shortOptions takesData g rest letters
        | .long name value => longOption takesData g rest name value
    match next with
    | .settled r => .settled r
    | .on (g, rest) =>
      arguments takesData fuel (plainOnly || Arg.ofText text == .separator) g rest

def commandRequest (name : String) (args : List String) : Request :=
  let takesData := name = "render"
  match arguments takesData args.length false .start args with
  | .settled r => r
  | .on g =>
    match g.template with
    | none => .misuse
    | some template =>
      .run (if takesData then .render template g.context g.config else .verify template)

def commands : List String := ["render", "verify"]

/-- The request of the help command, which may be told a command. -/
def helpRequest : List String → Request
  | [] => .help
  | [name] => if name ∈ "help" :: commands then .help else .misuse
  | _ => .misuse

/-- The options before the command: whether details and the notice have been asked for. -/
structure Preamble where
  verbose : Bool
  notice : Bool

def Preamble.short (p : Preamble) : List Char → Progress Preamble
  | [] => .on p
  | 'v' :: more =>
    if p.verbose then .settled .misuse else { p with verbose := true }.short more
  | 'l' :: more => if p.notice then .settled .misuse else { p with notice := true }.short more
  | 'h' :: _ => .settled .help
  | 'V' :: _ => .settled .version
  | _ => .settled .misuse

def Preamble.long (p : Preamble) (name : String) : Progress Preamble :=
  match name with
  | "verbose" => p.short ['v']
  | "license-notice" => p.short ['l']
  | "help" => .settled .help
  | "version" => .settled .version
  | _ => .settled .misuse

/-- The notice comes before every command that makes sense. -/
def Preamble.request (p : Preamble) (r : Request) : Request :=
  match r with
  | .run _ | .noCommand => if p.notice then .notice else r
  | r => r

def requestFrom (p : Preamble) : List String → Request
  | [] => p.request .noCommand
  | text :: rest =>
    let next : Progress Preamble :=
      match Arg.ofText text with
      | .short letters => p.short letters
      | .long name none => p.long name
      | _ => .settled .misuse
    match Arg.ofText text with
    | .plain name =>
      if name ∈ commands then p.request (commandRequest name rest)
      else if name = "help" then helpRequest rest
      else .misuse
    | .separator => if rest.isEmpty then p.request .noCommand else .misuse
    | _ =>
      match next with
      | .on p => requestFrom p rest
      | .settled r => r

def request (args : List String) : Request := requestFrom ⟨false, false⟩ args

/-! ### What comes of a request -/

inductive Outcome where
  | printed (text : String)
  | failed (e : Error)
  | noCommand
  | misuse

namespace Outcome

def code : Outcome → Nat
  | .printed _ => 0
  | .failed _ => 1
  | .noCommand => 1
  | .misuse => 2

def output : Outcome → String
  | .printed text => text ++ "\n"
  | _ => ""

def complaint : Outcome → String
  | .printed _ => ""
  | .failed e => e.message ++ "\n"
  | .noCommand => "A command must be given, see --help.\n"
  | .misuse => "The arguments make no sense, see --help.\n"

def ofResult : Except Error String → Outcome
  | .ok text => .printed text
  | .error e => .failed e

end Outcome

def version : String := "hlc 0.1.0"

def notice : String :=
  "hlc  Copyright (C) 2024  Frankie Baffa\n"
    ++ "This program comes with ABSOLUTELY NO WARRANTY.\n"
    ++ "This is free software, and you are welcome to redistribute it\n"
    ++ "under certain conditions; see the GNU General Public License,\n"
    ++ "version 3 or later, for details.\n"

def help : String :=
  "Render and verify hashline templates\n\n"
    ++ "Usage: hlc [OPTIONS] [COMMAND]\n\n"
    ++ "Commands:\n"
    ++ "  render  Render a template and print its output\n"
    ++ "  verify  Check a template's structure and print its outline as json\n"
    ++ "  help    Print this message or the help of the given subcommand(s)\n\n"
    ++ "Options:\n"
    ++ "  -v, --verbose         Log compile and render steps to stderr\n"
    ++ "  -l, --license-notice  Print the license notice\n"
    ++ "  -h, --help            Print help\n"
    ++ "  -V, --version         Print version"

variable {m : Type → Type} [Monad m]

/-- What is read from a file, or the default where none is named. -/
def fromFile {α : Type} (load : String → m (Except Error α)) (default : α) :
    Option String → m (Except Error α)
  | none => return .ok default
  | some name => load name

/-- A rendering: the settings are read first, then the data, then the template. -/
def render (read : FileReader m) (template : String) (context config : Option String) :
    m (Except Error String) := do
  match ← fromFile (Files.config read) .standard config with
  | .error e => return .error e
  | .ok config =>
    match ← fromFile (Files.context read) [] context with
    | .error e => return .error e
    | .ok context =>
      match ← Files.text read template with
      | .error e => return .error e
      | .ok text => return (Engine.ofConfig config).evaluateText text context

def verify (read : FileReader m) (template : String) : m (Except Error String) := do
  match ← Files.text read template with
  | .error e => return .error e
  | .ok text => return (Outline.ofText text).map Outline.write

def run (read : FileReader m) (args : List String) : m Outcome :=
  match request args with
  | .run (.render template context config) =>
    Outcome.ofResult <$> render read template context config
  | .run (.verify template) => Outcome.ofResult <$> verify read template
  | .noCommand => return .noCommand
  | .notice => return .printed notice
  | .version => return .printed version
  | .help => return .printed help
  | .misuse => return .misuse

end LineTemplate.CommandLine
