import LineTemplate.Pattern
import LineTemplate.Text.Blank
import LineTemplate.Unicode.AgeTable
import LineTemplate.Unicode.BreakTable
import LineTemplate.Unicode.CaseTable
import LineTemplate.Unicode.ScriptTable

/-!
# Classes of characters

The classes that patterns have names for, the closure of a class when case is ignored, and the
assertions about the characters around a place.
-/

namespace LineTemplate.CharSet

def none : CharSet := ⟨fun _ => false, 32⟩

def only (c : Char) : CharSet := ⟨(· = c), 32 * c.utf8Size⟩

/-- The class of the characters that satisfy `p`, which are a few ASCII ranges. -/
def ascii (p : Char → Bool) : CharSet := ⟨p, 64⟩

def between (low high : Char) : CharSet := ⟨fun c => low ≤ c && c ≤ high, 64⟩

def union (s t : CharSet) : CharSet := ⟨fun c => s.holds c || t.holds c, s.weight + t.weight⟩

def inter (s t : CharSet) : CharSet := ⟨fun c => s.holds c && t.holds c, s.weight + t.weight⟩

def diff (s t : CharSet) : CharSet := ⟨fun c => s.holds c && !t.holds c, s.weight + t.weight⟩

def symmDiff (s t : CharSet) : CharSet := ⟨fun c => s.holds c != t.holds c, s.weight + t.weight⟩

/-- The other characters. They go up to the last one, and the encodings of all characters have 30
parts, however many of them the set takes away. -/
def compl (s : CharSet) : CharSet := ⟨fun c => !s.holds c, s.weight + 30 * 32⟩

/-- The characters in the ranges, which have about two parts each that they share with no other. -/
def ofRanges (ranges : Unicode.Ranges) : CharSet :=
  ⟨fun c => ranges.contains c.toNat, 64 * ranges.size⟩

/-- With the other forms of its characters; only those of ASCII letters if `unicode` is off. -/
def foldCase (unicode : Bool) (s : CharSet) : CharSet where
  holds c :=
    s.holds c ||
      if unicode then ((Unicode.foldTable.get? c).getD []).any s.holds
      else if 'a' ≤ c ∧ c ≤ 'z' then s.holds (Char.ofNat (c.toNat - 32))
      else if 'A' ≤ c ∧ c ≤ 'Z' then s.holds (Char.ofNat (c.toNat + 32))
      else false
  weight := s.weight + 32

/-- Whether there is no character from U+0080 to U+00FF in the set. -/
def isAscii (s : CharSet) : Bool := (List.range 128).all fun i => !s.holds (Char.ofNat (128 + i))

/-! ### Named classes -/

def digit (unicode : Bool) : CharSet :=
  if unicode then ofRanges Unicode.digitRanges else ascii Char.isDigit

def space (unicode : Bool) : CharSet :=
  if unicode then ⟨Text.isSpace, 640⟩
  else ascii fun c => c = ' ' || ('\t' ≤ c && c ≤ '\r')

def isWord (unicode : Bool) (c : Char) : Bool :=
  if unicode then Unicode.isWord c else c.isAlphanum || c = '_'

def word (unicode : Bool) : CharSet :=
  if unicode then ofRanges Unicode.wordRanges else ascii (isWord false)

/-- The classes of ASCII characters that have names between colons. -/
def ascii? : String → Option CharSet
  | "alnum" => some (ascii Char.isAlphanum)
  | "alpha" => some (ascii Char.isAlpha)
  | "ascii" => some (between '\x00' '\x7f')
  | "blank" => some (ascii fun c => c = '\t' || c = ' ')
  | "cntrl" => some (ascii fun c => c ≤ '\x1f' || c = '\x7f')
  | "digit" => some (ascii Char.isDigit)
  | "graph" => some (between '!' '~')
  | "lower" => some (between 'a' 'z')
  | "print" => some (between ' ' '~')
  | "punct" => some (ascii fun c => '!' ≤ c && c ≤ '~' && !c.isAlphanum)
  | "space" => some (space false)
  | "upper" => some (between 'A' 'Z')
  | "word" => some (word false)
  | "xdigit" =>
    some (ascii fun c => c.isDigit || ('A' ≤ c && c ≤ 'F') || ('a' ≤ c && c ≤ 'f'))
  | _ => Option.none

/-! ### Properties by name -/

/-- A name without case, spaces, hyphens and underscores. -/
def bareName (name : List Char) : List Char :=
  (name.filter fun c => c.toNat < 128 && c != ' ' && c != '-' && c != '_').map Char.toLower

/-- A name as names of properties are compared: bare, and without `is` in front. One abbreviation
begins with `is` and is kept. -/
def looseName (name : List Char) : String :=
  String.ofList <|
    if bareName (name.take 2) = ['i', 's'] then
      let rest := bareName (name.drop 2)
      if rest = ['c'] then ['i', 's', 'c'] else rest
    else bareName name

def sameName (loose name : String) : Bool := looseName name.toList = loose

/-- The long names of the categories and of their groups, with the short names. -/
def categoryNames : List (String × String) :=
  [("Lu", "Uppercase_Letter"), ("Ll", "Lowercase_Letter"), ("Lt", "Titlecase_Letter"),
    ("LC", "Cased_Letter"), ("Lm", "Modifier_Letter"), ("Lo", "Other_Letter"), ("L", "Letter"),
    ("Mn", "Nonspacing_Mark"), ("Mc", "Spacing_Mark"), ("Me", "Enclosing_Mark"), ("M", "Mark"),
    ("M", "Combining_Mark"), ("Nd", "Decimal_Number"), ("Nd", "digit"), ("Nl", "Letter_Number"),
    ("No", "Other_Number"), ("N", "Number"), ("Pc", "Connector_Punctuation"),
    ("Pd", "Dash_Punctuation"), ("Ps", "Open_Punctuation"), ("Pe", "Close_Punctuation"),
    ("Pi", "Initial_Punctuation"), ("Pf", "Final_Punctuation"), ("Po", "Other_Punctuation"),
    ("P", "Punctuation"), ("P", "punct"), ("Sm", "Math_Symbol"), ("Sc", "Currency_Symbol"),
    ("Sk", "Modifier_Symbol"), ("So", "Other_Symbol"), ("S", "Symbol"),
    ("Zs", "Space_Separator"), ("Zl", "Line_Separator"), ("Zp", "Paragraph_Separator"),
    ("Z", "Separator"), ("Cc", "Control"), ("Cc", "cntrl"), ("Cf", "Format"),
    ("Co", "Private_Use"), ("Cn", "Unassigned"), ("C", "Other")]

/-- The categories of a short name; a single letter stands for all that begin with it. -/
def categoryParts (short : String) : List String :=
  if short = "LC" then ["Lu", "Ll", "Lt"]
  else if short.length = 1 then
    (Unicode.categoryTable.map (·.1)).filter fun name => name.toList.head? = short.toList.head?
  else [short]

def category? (loose : String) : Option CharSet :=
  if loose = "any" then some none.compl
  else if loose = "assigned" then some (compl (ofRanges (Unicode.category "Cn")))
  else if loose = "ascii" then some (between '\x00' '\x7f')
  else do
    let (short, _) ← categoryNames.find? fun (short, long) =>
      sameName loose short || sameName loose long
    some (ofRanges (.union ((categoryParts short).map Unicode.category)))

/-- The class that a table has for one of its names. -/
def entry? (table : List (String × String × String)) (loose : String) : Option CharSet := do
  let (_, _, text) ← table.find? fun (long, short, _) => sameName loose long || sameName loose short
  some (ofRanges (.ofText text))

/-- The short name of a script for the name that it has besides, if it has one. -/
def scriptName (loose : String) : String :=
  if loose = "qaac" then "copt" else if loose = "qaai" then "zinh" else loose

def script? (loose : String) : Option CharSet := entry? Unicode.scriptTable (scriptName loose)

/-- The characters that a script uses, with those that it shares with other scripts. -/
def scriptExtension? (loose : String) : Option CharSet :=
  entry? Unicode.scriptExtensionTable (scriptName loose) <|> script? loose

/-- The characters of a version of the standard, with those of the versions before it. -/
def age? (loose : String) : Option CharSet := do
  let newest ← Unicode.ageTable.findIdx? fun (version, name, _) =>
    sameName loose version || sameName loose name
  let parts := (Unicode.ageTable.take (newest + 1)).map fun (_, _, text) =>
    Unicode.Ranges.ofText text
  some (ofRanges (.union parts))

/-- The class that a name stands for: a binary property, a category or a script. -/
def named? (name : List Char) : Option CharSet :=
  let loose := looseName name
  (if loose = "cf" ∨ loose = "sc" ∨ loose = "lc" then Option.none
    else entry? Unicode.propertyTable loose) <|> category? loose <|> script? loose

/-- The class of the characters for which the property has the value. -/
def valued? (name value : List Char) : Option CharSet :=
  let loose := looseName value
  match looseName name with
  | "generalcategory" | "gc" => category? loose
  | "script" | "sc" => script? loose
  | "scriptextensions" | "scx" => scriptExtension? loose
  | "age" => age? loose
  | "graphemeclusterbreak" | "gcb" => entry? Unicode.graphemeBreakTable loose
  | "wordbreak" | "wb" => entry? Unicode.wordBreakTable loose
  | "sentencebreak" | "sb" => entry? Unicode.sentenceBreakTable loose
  | _ => Option.none

end LineTemplate.CharSet

namespace LineTemplate.Look

def textStart : Look := fun before _ => before.isNone

def textEnd : Look := fun _ after => after.isNone

/-- The start of a line; if `returns` is set a carriage return ends a line too, by itself or with
the line feed behind it. -/
def lineStart (returns : Bool) : Look := fun before after =>
  match before with
  | none => true
  | some c => c = '\n' || (returns && c = '\r' && after != some '\n')

def lineEnd (returns : Bool) : Look := fun before after =>
  match after with
  | none => true
  | some c =>
    if returns then c = '\r' || (c = '\n' && before != some '\r') else c = '\n'

def inWord (unicode : Bool) (neighbour : Option Char) : Bool :=
  neighbour.any (CharSet.isWord unicode)

def wordBoundary (unicode : Bool) : Look := fun before after =>
  inWord unicode before != inWord unicode after

def notWordBoundary (unicode : Bool) : Look := fun before after =>
  inWord unicode before == inWord unicode after

def wordStart (unicode : Bool) : Look := fun before after =>
  !inWord unicode before && inWord unicode after

def wordEnd (unicode : Bool) : Look := fun before after =>
  inWord unicode before && !inWord unicode after

def wordStartHalf (unicode : Bool) : Look := fun before _ => !inWord unicode before

def wordEndHalf (unicode : Bool) : Look := fun _ after => !inWord unicode after

end LineTemplate.Look
