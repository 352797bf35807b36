import LineTemplate.Numeral
import LineTemplate.Pattern.Classes

/-!
# Items of patterns

Patterns are written as regular expressions with groups, classes and flags, and without
references and look-around. The text of a pattern is a row of items: an atom, a change of flags, a
bracket, a bar, or a repetition of the item before it. How an item is written depends on the flags
that are in force before it.

Under the flag for extended text, white space and what stands between `#` and the end of a line
separate items and mean nothing else.
-/

namespace LineTemplate.Pattern

structure Flags where
  ignoreCase : Bool
  multiLine : Bool
  dotAll : Bool
  returns : Bool
  unicode : Bool
  extended : Bool
  deriving DecidableEq, Repr

def Flags.start : Flags := ⟨false, false, false, false, true, false⟩

/-! ### Spaces in extended text -/

def skipIgnored (inComment : Bool) : List Char → List Char
  | [] => []
  | c :: rest =>
    if inComment then skipIgnored (c != '\n') rest
    else if Text.isSpace c then skipIgnored false rest
    else if c = '#' then skipIgnored true rest
    else c :: rest

theorem skipIgnored_length (inComment : Bool) (cs : List Char) :
    (skipIgnored inComment cs).length ≤ cs.length := by
  induction cs generalizing inComment with
  | nil => simp [skipIgnored]
  | cons c rest ih =>
    simp only [skipIgnored]
    split
    · exact Nat.le_succ_of_le (ih _)
    · split
      · exact Nat.le_succ_of_le (ih _)
      · split
        · exact Nat.le_succ_of_le (ih _)
        · exact Nat.le_refl _

def skip (f : Flags) (cs : List Char) : List Char :=
  if f.extended then skipIgnored false cs else cs

theorem skip_length (f : Flags) (cs : List Char) : (skip f cs).length ≤ cs.length := by
  unfold skip
  split
  · exact skipIgnored_length _ _
  · exact Nat.le_refl _

/-! ### Numbers -/

def digits (f : Flags) : List Char → List Char × List Char
  | [] => ([], [])
  | c :: rest =>
    if c.isDigit then
      let (ds, after) := digits f (skip f rest)
      (c :: ds, after)
    else ([], c :: rest)
termination_by cs => cs.length
decreasing_by exact Nat.lt_succ_of_le (skip_length _ _)

/-- A number of 32 bits between white space, `none` if there are no digits. -/
def count? (f : Flags) (cs : List Char) : Option (Nat × List Char) :=
  let (ds, rest) := digits f (cs.dropWhile Text.isSpace)
  let rest := skip f (rest.dropWhile Text.isSpace)
  if ds.isEmpty || Nat.pow 2 32 ≤ Numeral.value ds then none else some (Numeral.value ds, rest)

def bounds? (f : Flags) (cs : List Char) : Option ((Nat × Option Nat) × List Char) := do
  let (low, rest) ← count? f (skip f cs)
  match rest with
  | '}' :: rest => some ((low, some low), rest)
  | ',' :: rest =>
    match skip f rest with
    | '}' :: rest => some ((low, none), rest)
    | rest => do
      let (high, rest) ← count? f rest
      match rest with
      | '}' :: rest => if low ≤ high then some ((low, some high), rest) else none
      | _ => none
  | _ => none

/-! ### Escapes -/

inductive Atom where
  /-- A character; `byte` if it is written as one of the first 256 by two digits. -/
  | char (c : Char) (byte : Bool)
  | set (s : CharSet)
  | look (l : Look)

def hexValue? (c : Char) : Option Nat :=
  if c.isDigit then some (c.toNat - 48)
  else if 'a' ≤ c ∧ c ≤ 'f' then some (c.toNat - 87)
  else if 'A' ≤ c ∧ c ≤ 'F' then some (c.toNat - 55)
  else none

def scalar? (n : Nat) : Option Char :=
  if n < 0xD800 ∨ (0xE000 ≤ n ∧ n < 0x110000) then some (Char.ofNat n) else none

/-- As many hexadecimal digits as asked for, with what means nothing between them. -/
def hexDigits (f : Flags) : Nat → Nat → List Char → Option (Nat × List Char)
  | 0, value, cs => some (value, cs)
  | _ + 1, _, [] => none
  | n + 1, value, c :: rest => do
    let d ← hexValue? c
    hexDigits f n (16 * value + d) (skip f rest)

def hexBraced (f : Flags) (any : Bool) (value : Nat) : List Char → Option (Nat × List Char)
  | [] => none
  | c :: rest =>
    if c = '}' then if any then some (value, skip f rest) else none
    else do
      let d ← hexValue? c
      hexBraced f true (min (16 * value + d) 0x110000) (skip f rest)
termination_by cs => cs.length
decreasing_by exact Nat.lt_succ_of_le (skip_length _ _)

/-- A character by its number: `size` digits, or any number of them in braces. -/
def hexEscape (f : Flags) (size : Nat) (cs : List Char) : Option (Atom × List Char) :=
  match skip f cs with
  | '{' :: rest => do
    let (n, rest) ← hexBraced f false 0 (skip f rest)
    let c ← scalar? n
    some (.char c false, rest)
  | rest => do
    let (n, rest) ← hexDigits f size 0 rest
    let c ← scalar? n
    some (.char c (size == 2), rest)

/-- Characters up to a closing brace, without those that mean nothing. -/
def braced (f : Flags) : List Char → Option (List Char × List Char)
  | [] => none
  | c :: rest =>
    if c = '}' then some ([], rest)
    else do
      let (name, rest) ← braced f (skip f rest)
      some (c :: name, rest)
termination_by cs => cs.length
decreasing_by exact Nat.lt_succ_of_le (skip_length _ _)

/-- What stands before and behind the first occurrence of `mark`. -/
def splitAt? (mark : List Char) : List Char → Option (List Char × List Char)
  | [] => none
  | c :: rest =>
    if mark.isPrefixOf (c :: rest) then some ([], (c :: rest).drop mark.length)
    else (splitAt? mark rest).map fun (before, after) => (c :: before, after)

/-- The class of a property, and whether its name says that it is negated. -/
def propertyClass? (name : List Char) : Option (CharSet × Bool) :=
  match splitAt? ['!', '='] name with
  | some (property, value) => (CharSet.valued? property value).map (·, true)
  | none =>
    match splitAt? [':'] name <|> splitAt? ['='] name with
    | some (property, value) => (CharSet.valued? property value).map (·, false)
    | none => (CharSet.named? name).map (·, false)

/-- A class as the flags want it. Without Unicode a class may hold ASCII characters only. -/
def classAs (f : Flags) (negated : Bool) (s : CharSet) : Option CharSet :=
  let s := if f.ignoreCase then s.foldCase f.unicode else s
  let s := if negated then s.compl else s
  if f.unicode || s.isAscii then some s else none

/-- A property behind its letter, which is a capital if it is negated. -/
def propertyEscape (f : Flags) (negated : Bool) (cs : List Char) : Option (Atom × List Char) :=
  match skip f cs with
  | [] => none
  | c :: rest => do
    let (name, rest) ←
      if c = '{' then braced f (skip f rest)
      else if c = '\\' then none
      else some ([c], skip f rest)
    let (s, inverse) ← propertyClass? name
    if !f.unicode then none
    else do
      let s ← classAs f (negated != inverse) s
      some (.set s, rest)

def boundary? (unicode : Bool) : List Char → Option Look
  | ['s', 't', 'a', 'r', 't'] => some (Look.wordStart unicode)
  | ['e', 'n', 'd'] => some (Look.wordEnd unicode)
  | ['s', 't', 'a', 'r', 't', '-', 'h', 'a', 'l', 'f'] => some (Look.wordStartHalf unicode)
  | ['e', 'n', 'd', '-', 'h', 'a', 'l', 'f'] => some (Look.wordEndHalf unicode)
  | _ => none

def isBoundaryPart (c : Char) : Bool := c.isAlpha || c == '-'

/-- The boundary that a name in braces stands for. -/
def namedBoundary (f : Flags) (cs : List Char) : Option (Atom × List Char) := do
  let (name, rest) ← braced f cs
  let look ← boundary? f.unicode name
  some (.look look, rest)

/-- A boundary behind its letter: a name may follow it in braces, or a repetition. -/
def boundaryEscape (f : Flags) : List Char → Option (Atom × List Char)
  | '{' :: inside =>
    if (skip f inside).head?.any isBoundaryPart then namedBoundary f (skip f inside)
    else some (.look (Look.wordBoundary f.unicode), '{' :: inside)
  | cs => some (.look (Look.wordBoundary f.unicode), cs)

def namedEscape (f : Flags) (negated : Bool) (s : CharSet) (cs : List Char) :
    Option (Atom × List Char) :=
  (classAs { f with ignoreCase := false } negated s).map fun s => (.set s, cs)

def escape (f : Flags) : List Char → Option (Atom × List Char)
  | [] => none
  | c :: rest =>
    match c with
    | 'x' => hexEscape f 2 rest
    | 'u' => hexEscape f 4 rest
    | 'U' => hexEscape f 8 rest
    | 'p' => propertyEscape f false rest
    | 'P' => propertyEscape f true rest
    | 'd' => namedEscape f false (CharSet.digit f.unicode) rest
    | 'D' => namedEscape f true (CharSet.digit f.unicode) rest
    | 's' => namedEscape f false (CharSet.space f.unicode) rest
    | 'S' => namedEscape f true (CharSet.space f.unicode) rest
    | 'w' => namedEscape f false (CharSet.word f.unicode) rest
    | 'W' => namedEscape f true (CharSet.word f.unicode) rest
    | 'a' => some (.char '\x07' false, rest)
    | 'f' => some (.char '\x0c' false, rest)
    | 't' => some (.char '\t' false, rest)
    | 'n' => some (.char '\n' false, rest)
    | 'r' => some (.char '\r' false, rest)
    | 'v' => some (.char '\x0b' false, rest)
    | 'A' => some (.look Look.textStart, rest)
    | 'z' => some (.look Look.textEnd, rest)
    | 'b' => boundaryEscape f rest
    | 'B' => some (.look (Look.notWordBoundary f.unicode), rest)
    | '<' => some (.look (Look.wordStart f.unicode), rest)
    | '>' => some (.look (Look.wordEnd f.unicode), rest)
    | c => if c.toNat < 128 ∧ ¬ c.isAlphanum then some (.char c false, rest) else none

/-! ### Classes in brackets -/

/-- How the parts of a class on both sides of an operator are put together. -/
inductive ClassOp where
  | inter
  | diff
  | symmDiff
  deriving DecidableEq, Repr

def ClassOp.apply : ClassOp → CharSet → CharSet → CharSet
  | .inter, s, t => s.inter t
  | .diff, s, t => s.diff t
  | .symmDiff, s, t => s.symmDiff t

/-- What is still open to the left of the place that is read inside a class. -/
inductive ClassFrame where
  /-- A bracket, whether a caret follows it, and the items before it. -/
  | bracket (negated : Bool) (before : CharSet)
  /-- An operator and what stands to its left. -/
  | operator (op : ClassOp) (left : CharSet)

/-- What stands to the left of the operators put together with what stands to their right, and
the frames around. -/
def closeOperators (f : Flags) (right : CharSet) :
    List ClassFrame → CharSet × List ClassFrame
  | .operator op left :: outer =>
    let fold (s : CharSet) := if f.ignoreCase then s.foldCase f.unicode else s
    (op.apply (fold left) (fold right), outer)
  | frames => (right, frames)

def leadingHyphens (f : Flags) : List Char → Bool × List Char
  | [] => (false, [])
  | c :: rest => if c = '-' then (true, (leadingHyphens f (skip f rest)).2) else (false, c :: rest)
termination_by cs => cs.length
decreasing_by exact Nat.lt_succ_of_le (skip_length _ _)

theorem leadingHyphens_length (f : Flags) (cs : List Char) :
    (leadingHyphens f cs).2.length ≤ cs.length := by
  fun_induction leadingHyphens f cs with
  | case1 => simp
  | case2 rest ih => exact Nat.le_succ_of_le (Nat.le_trans ih (skip_length _ _))
  | case3 => simp

/-- What follows an opening bracket: whether the class is negated, and the characters that are
meant by themselves because they come first. -/
def openBracket (f : Flags) (cs : List Char) : (Bool × CharSet) × List Char :=
  let cs := skip f cs
  let (negated, cs) := match cs with
    | '^' :: rest => (true, skip f rest)
    | rest => (false, rest)
  let (hyphen, cs) := leadingHyphens f cs
  if hyphen then ((negated, .only '-'), cs)
  else match cs with
    | ']' :: rest => ((negated, .only ']'), skip f rest)
    | rest => ((negated, .none), rest)

theorem openBracket_length (f : Flags) (cs : List Char) :
    (openBracket f cs).2.length ≤ cs.length := by
  unfold openBracket
  have h1 := skip_length f cs
  generalize skip f cs = cs1 at h1
  simp only
  have h2 : (match cs1 with
    | '^' :: rest => (true, skip f rest)
    | rest => (false, rest)).2.length ≤ cs1.length := by
    split
    · exact Nat.le_succ_of_le (skip_length _ _)
    · exact Nat.le_refl _
  generalize (match cs1 with
    | '^' :: rest => (true, skip f rest)
    | rest => (false, rest)) = p at h2
  have h3 := leadingHyphens_length f p.2
  generalize leadingHyphens f p.2 = q at h3
  split
  · exact Nat.le_trans h3 (Nat.le_trans h2 h1)
  · split
    · rename_i rest heq
      have h4 := skip_length f rest
      rw [heq, List.length_cons] at h3
      simp only
      omega
    · simp only
      omega

/-- A class of ASCII characters by its name between colons, behind the opening bracket, and
whether it is negated. -/
def asciiClass? (cs : List Char) : Option ((Bool × CharSet) × List Char) :=
  match cs with
  | ':' :: rest =>
    let (negated, rest) := match rest with
      | '^' :: rest => (true, rest)
      | rest => (false, rest)
    match rest.dropWhile (· != ':') with
    | ':' :: ']' :: after => do
      let s ← CharSet.ascii? (String.ofList (rest.takeWhile (· != ':')))
      some ((negated, s), after)
    | _ => none
  | _ => none

def classItem (f : Flags) : List Char → Option (Atom × List Char)
  | [] => none
  | c :: rest => if c = '\\' then escape f rest else some (.char c false, rest)

/-- The character of an atom where a class asks for one. Without Unicode only ASCII ones. -/
def classChar? (f : Flags) : Atom → Option Char
  | .char c _ => if f.unicode || c.toNat < 128 then some c else none
  | _ => none

def classOf? (f : Flags) : Atom → Option CharSet
  | .set s => some s
  | .look _ => none
  | a => (classChar? f a).map .only

/-- An item of a class, or two with a hyphen between them for all characters from the first to
the second. -/
def classRange (f : Flags) (cs : List Char) : Option (CharSet × List Char) := do
  let (first, rest) ← classItem f cs
  let rest := skip f rest
  let single := do
    let s ← classOf? f first
    some (s, rest)
  match rest with
  | [] => none
  | c :: after =>
    if c ≠ '-' then single
    else match skip f after with
      | [] => none
      | d :: _ =>
        if d = ']' ∨ d = '-' then single
        else do
          let (second, rest) ← classItem f (skip f after)
          let low ← classChar? f first
          let high ← classChar? f second
          if low ≤ high then some (.between low high, rest) else none

inductive ClassStep where
  | item (s : CharSet)
  | opening
  | closing
  | operator (op : ClassOp)

def classStep (f : Flags) (cs : List Char) : Option (ClassStep × List Char) :=
  match cs with
  | [] => none
  | '[' :: rest =>
    match asciiClass? rest with
    | some ((negated, s), rest) => (classAs f negated s).map fun s => (.item s, rest)
    | none => some (.opening, rest)
  | ']' :: rest => some (.closing, rest)
  | '&' :: '&' :: rest => some (.operator .inter, rest)
  | '-' :: '-' :: rest => some (.operator .diff, rest)
  | '~' :: '~' :: rest => some (.operator .symmDiff, rest)
  | cs => (classRange f cs).map fun (s, rest) => (.item s, rest)

/-- The rest of a class up to the bracket that closes it: the frames that are open, with the
items behind the last of them. `fuel` bounds the number of pieces. -/
def classBody (f : Flags) :
    Nat → List ClassFrame → CharSet → List Char → Option (CharSet × List Char)
  | 0, _, _, _ => none
  | fuel + 1, frames, s, cs => do
    let (step, rest) ← classStep f (skip f cs)
    match step with
    | .item t => classBody f fuel frames (s.union t) rest
    | .opening =>
      let ((negated, first), rest) := openBracket f rest
      classBody f fuel (.bracket negated s :: frames) first rest
    | .operator op =>
      let (left, frames) := closeOperators f s frames
      classBody f fuel (.operator op left :: frames) .none rest
    | .closing =>
      let (s, frames) := closeOperators f s frames
      match frames with
      | .bracket negated before :: outer => do
        let s ← classAs f negated s
        match outer with
        | [] => some (s, rest)
        | outer => classBody f fuel outer (before.union s) rest
      | _ => none

def bracketed (f : Flags) (cs : List Char) : Option (CharSet × List Char) :=
  let ((negated, first), rest) := openBracket f cs
  classBody f (cs.length + 1) [.bracket negated .none] first rest

/-! ### Groups and flags -/

/-- The letters of a change of flags up to the colon or the bracket behind them; those that have
been seen may not come again. -/
def flagLetters (seen : List Char) : List Char → Option (List Char × List Char)
  | [] => none
  | c :: rest =>
    if c = ':' ∨ c = ')' then
      if seen.head? = some '-' then none else some (seen.reverse, c :: rest)
    else if c ∉ ['i', 'm', 's', 'U', 'u', 'R', 'x', '-'] ∨ c ∈ seen then none
    else flagLetters (c :: seen) rest

def Flags.set (f : Flags) (on : Bool) : Char → Flags
  | 'i' => { f with ignoreCase := on }
  | 'm' => { f with multiLine := on }
  | 's' => { f with dotAll := on }
  | 'R' => { f with returns := on }
  | 'u' => { f with unicode := on }
  | 'x' => { f with extended := on }
  | _ => f

/-- The flags as the letters change them: those behind a hyphen are switched off. -/
def Flags.change (f : Flags) (letters : List Char) : Flags :=
  let on := letters.takeWhile (· != '-')
  let off := letters.dropWhile (· != '-')
  off.foldl (fun f c => f.set false c) (on.foldl (fun f c => f.set true c) f)

def isGroupNameStart (c : Char) : Bool := c == '_' || Unicode.isAlphabetic c

def isGroupNamePart (c : Char) : Bool :=
  isGroupNameStart c || Unicode.isNumeric c || c == '.' || c == '[' || c == ']'

def groupName (cs : List Char) : Option (String × List Char) :=
  let name := cs.takeWhile (· != '>')
  match cs.dropWhile (· != '>'), name with
  | _ :: rest, first :: more =>
    if isGroupNameStart first && more.all isGroupNamePart then some (String.ofList name, rest)
    else none
  | _, _ => none

inductive Item where
  | atom (p : Pattern)
  /-- A class in brackets. -/
  | bracketed (s : CharSet)
  | flags (f : Flags)
  /-- A group opens, with the flags inside it and the name that it may have. -/
  | opening (f : Flags) (name : Option String)
  | closing
  | bar
  | repetition (low : Nat) (high : Option Nat)

def groupItem (f : Flags) (cs : List Char) : Option (Item × List Char) :=
  match skip f cs with
  | '?' :: '=' :: _ => none
  | '?' :: '!' :: _ => none
  | '?' :: '<' :: '=' :: _ => none
  | '?' :: '<' :: '!' :: _ => none
  | '?' :: 'P' :: '<' :: rest => (groupName rest).map fun (n, rest) => (.opening f (some n), rest)
  | '?' :: '<' :: rest => (groupName rest).map fun (n, rest) => (.opening f (some n), rest)
  | '?' :: rest =>
    match flagLetters [] rest with
    | some ([], ')' :: _) => none
    | some (letters, ')' :: rest) => some (.flags (f.change letters), rest)
    | some (letters, _ :: rest) => some (.opening (f.change letters) none, rest)
    | _ => none
  | rest => some (.opening f none, rest)

def literal? (f : Flags) (c : Char) (byte : Bool) : Option Pattern :=
  if byte && !f.unicode && 128 ≤ c.toNat then none
  else if f.ignoreCase && (f.unicode || c.toNat < 128) then
    some (.char ((CharSet.only c).foldCase f.unicode))
  else some (.char (.only c))

def atomPattern? (f : Flags) : Atom → Option Pattern
  | .char c byte => literal? f c byte
  | .set s => some (.char s)
  | .look l => some (.look l)

/-- Every character, but for the ends of lines unless the flags say otherwise. -/
def dot (f : Flags) : CharSet :=
  if f.dotAll then CharSet.none.compl
  else if f.returns then ((CharSet.only '\r').union (.only '\n')).compl
  else (CharSet.only '\n').compl

/-- A question mark behind a repetition only says which of several matches is preferred. -/
def skipPreference (cs : List Char) : List Char :=
  match cs with
  | '?' :: rest => rest
  | cs => cs

/-- The next item; the characters do not begin with something that means nothing. -/
def item (f : Flags) : List Char → Option (Item × List Char)
  | [] => none
  | c :: rest =>
    match c with
    | '(' => groupItem f rest
    | ')' => some (.closing, rest)
    | '|' => some (.bar, rest)
    | '[' => (bracketed f rest).map fun (s, rest) => (.bracketed s, rest)
    | '?' => some (.repetition 0 (some 1), skipPreference rest)
    | '*' => some (.repetition 0 none, skipPreference rest)
    | '+' => some (.repetition 1 none, skipPreference rest)
    | '{' => (bounds? f rest).map fun ((low, high), rest) =>
        (.repetition low high, skipPreference (skip f rest))
    | '\\' => do
      let (a, rest) ← escape f rest
      let p ← atomPattern? f a
      some (.atom p, rest)
    | '.' => if f.unicode then some (.atom (.char (dot f)), rest) else none
    | '^' =>
      let l := if f.multiLine then Look.lineStart f.returns else Look.textStart
      some (.atom (.look l), rest)
    | '$' =>
      let l := if f.multiLine then Look.lineEnd f.returns else Look.textEnd
      some (.atom (.look l), rest)
    | c => (literal? f c false).map fun p => (.atom p, rest)

/-- How an item is read off the front of a text, under the flags in force. -/
abbrev ItemReader := Flags → List Char → Option (Item × List Char)

end LineTemplate.Pattern
