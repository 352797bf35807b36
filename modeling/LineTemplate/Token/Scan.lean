import LineTemplate.Token

/-!
# Scanning a directive line

A directive line is a row of lexemes with spaces between them. Each lexeme is the longest piece
that one of the token patterns matches at its place. Where none matches, one character is a
lexeme of unknown kind; a quote that is never closed takes the rest of the line with it, save a
backslash at its very end that escapes nothing.

`extent c rest` looks at the character `c` in front of `rest` and says what kind of lexeme
begins there and how many characters of `rest` belong to it.
-/

namespace LineTemplate

namespace Token

def isGap (c : Char) : Bool := c == ' ' || c == '\t' || c == '\r' || c == '\x0c'

/-- A line is a directive when its first character but spaces is the sigil and a letter follows
it. -/
def isDirectiveLine (line : List Char) : Bool :=
  match line.dropWhile isGap with
  | '#' :: c :: _ => c.isAlpha
  | _ => false

/-! ### Names, numbers and strings -/

def isNameStart (c : Char) : Bool := c.isAlpha || c == '_' || c == '$'

def isNamePart (c : Char) : Bool := c.isAlphanum || c == '_' || c == '$'

def isWordPart (c : Char) : Bool := c.isAlphanum || c == '_'

def isName : List Char → Bool
  | [] => false
  | c :: rest => isNameStart c && rest.all isNamePart

/-- How many characters at the front satisfy `p`. -/
def run (p : Char → Bool) (cs : List Char) : Nat := (cs.takeWhile p).length

def fractionLength : List Char → Nat
  | '.' :: c :: rest => if c.isDigit then 2 + run Char.isDigit rest else 0
  | _ => 0

def numberLength (cs : List Char) : Nat :=
  run Char.isDigit cs + fractionLength (cs.dropWhile Char.isDigit)

/-- Whether the quote `q` is closed, and the length up to and with the closing quote, or else of
all that an escape is not left open in. -/
def quotedLength (q : Char) : List Char → Bool × Nat
  | [] => (false, 0)
  | c :: rest =>
    if c = q then (true, 1)
    else if c = '\\' then
      match rest with
      | [] => (false, 0)
      | _ :: rest => let (closed, n) := quotedLength q rest; (closed, n + 2)
    else let (closed, n) := quotedLength q rest; (closed, n + 1)

/-- The characters between the quotes with the escapes taken away; an escape that has no meaning
stays as it is. -/
def unescape : List Char → List Char
  | '\\' :: c :: rest =>
    match c with
    | 'n' => '\n' :: unescape rest
    | 't' => '\t' :: unescape rest
    | 'r' => '\r' :: unescape rest
    | '\'' => '\'' :: unescape rest
    | '"' => '"' :: unescape rest
    | '\\' => '\\' :: unescape rest
    | c => '\\' :: c :: unescape rest
  | c :: rest => c :: unescape rest
  | [] => []

/-! ### Lexemes -/

def nameKind (name : List Char) : Kind :=
  if name = ['t', 'h', 'r', 'o', 'w'] then .throw else .identifier

def directiveKind (word : List Char) : Kind :=
  match Directive.ofWord? (String.ofList word) with
  | some d => .directive d
  | none => .unknown

/-- The kind of the symbol that begins with `c`, and how many more characters it has. -/
def symbolExtent (c : Char) (rest : List Char) : Kind × Nat :=
  match c, rest with
  | ':', _ => (.colon, 0)
  | ',', _ => (.comma, 0)
  | '.', _ => (.dot, 0)
  | '[', _ => (.leftBracket, 0)
  | ']', _ => (.rightBracket, 0)
  | '(', _ => (.leftParen, 0)
  | ')', _ => (.rightParen, 0)
  | '|', '|' :: _ => (.or, 1)
  | '|', _ => (.pipe, 0)
  | '&', '&' :: _ => (.and, 1)
  | '=', '=' :: _ => (.comparison .eq, 1)
  | '=', _ => (.comparison .eq, 0)
  | '!', '=' :: _ => (.comparison .notEq, 1)
  | '!', '~' :: _ => (.comparison .notFind, 1)
  | '!', '@' :: _ => (.comparison .notFull, 1)
  | '!', _ => (.not, 0)
  | '<', '>' :: _ => (.comparison .notEq, 1)
  | '<', '=' :: _ => (.comparison .ltEq, 1)
  | '<', _ => (.comparison .lt, 0)
  | '>', '=' :: _ => (.comparison .gtEq, 1)
  | '>', _ => (.comparison .gt, 0)
  | '~', _ => (.comparison .find, 0)
  | '@', _ => (.comparison .full, 0)
  | _, _ => (.unknown, 0)

def startsWith (p : Char → Bool) : List Char → Bool
  | [] => false
  | c :: _ => p c

def extent (c : Char) (rest : List Char) : Kind × Nat :=
  if c = '#' then
    if startsWith Char.isAlpha rest then
      let n := run isWordPart rest
      (directiveKind (rest.take n), n)
    else (.unknown, 0)
  else if isNameStart c then
    let n := run isNamePart rest
    (nameKind (c :: rest.take n), n)
  else if c.isDigit then (.number, numberLength rest)
  else if c = '-' then
    if startsWith Char.isDigit rest then (.number, numberLength rest) else (.unknown, 0)
  else if c = '\'' ∨ c = '"' then
    let (closed, n) := quotedLength c rest
    (if closed then .string else .unknown, n)
  else symbolExtent c rest

/-- A piece of a line with its kind and the column of its first character. -/
structure Lexeme where
  kind : Kind
  slice : List Char
  column : Nat
  deriving DecidableEq, Repr

/-- The lexemes of the rest of a line that begins at `column`. -/
def scan (column : Nat) : List Char → List Lexeme
  | [] => []
  | c :: rest =>
    if isGap c then scan (column + 1) rest
    else
      let (kind, n) := extent c rest
      ⟨kind, c :: rest.take n, column⟩ :: scan (column + 1 + n) (rest.drop n)
termination_by cs => cs.length
decreasing_by all_goals simp; try omega

def inner (slice : List Char) : List Char := slice.tail.dropLast

def ofLexeme (line : Nat) (l : Lexeme) : Token where
  kind := l.kind
  literal := String.ofList (if l.kind = .string then unescape (inner l.slice) else l.slice)
  pos := ⟨line, l.column⟩

end Token

end LineTemplate
