import LineTemplate.Text.Lines
import LineTemplate.Token.Scan

/-!
# Lines of a template

A line is either text, kept as it is, or a directive, which is a row of words. A carriage return
at the end of a directive line does not belong to it. The tokens of a template are those of its
lines, one after the other; the words of a directive are followed by a token for the end of the
line, and the last token of all marks the end of the template.
-/

namespace LineTemplate

inductive Line where
  | text (content : String) (pos : Position)
  /-- The words of a directive and the place where its line ends. -/
  | directive (words : List Token) (stop : Position)
  deriving DecidableEq, Repr

namespace Line

/-- The line with the number `n`. -/
def ofChars (n : Nat) (cs : List Char) : Line :=
  if Token.isDirectiveLine cs then
    let body := Text.dropReturn cs
    .directive ((Token.scan 0 body).map (Token.ofLexeme n)) ⟨n, body.length⟩
  else .text (String.ofList cs) ⟨n, 0⟩

/-- The lines with the numbers from `n` on. -/
def ofCut (n : Nat) : List (List Char) → List Line
  | [] => []
  | cs :: more => ofChars n cs :: ofCut (n + 1) more

def ofText (text : String) : List Line := ofCut 0 (Text.cutLines text.toList)

def tokens : Line → List Token
  | .text content pos => [⟨.text, content, pos⟩]
  | .directive words stop => words ++ [⟨.endOfLine, "", stop⟩]

/-- The same line, `n` lines further down. -/
def down (n : Nat) : Line → Line
  | .text content pos => .text content (pos.down n)
  | .directive words stop => .directive (words.map (Token.down n)) (stop.down n)

end Line

namespace Token

/-- The place behind the last character of the last of these lines. -/
def endOf : Nat → List (List Char) → Position
  | n, [] => ⟨n, 0⟩
  | n, [cs] => ⟨n, cs.length⟩
  | n, _ :: more => endOf (n + 1) more

def tokenize (text : String) : List Token :=
  (Line.ofText text).flatMap Line.tokens
    ++ [⟨.endOfTemplate, "", endOf 0 (Text.cutLines text.toList)⟩]

end Token

end LineTemplate
