import LineTemplate.Numeral
import LineTemplate.Value

/-!
# Reading JSON

Strict JSON: one value between white space, at most `maxDepth` collections inside each other,
no lone surrogates, and no number beyond the doubles. Integers that fit 64 bits, with or without
a sign, are kept exact; `-0` and all other numbers are doubles.

A double is read from its first significant digits, as many as fit 64 bits, which are turned
into a double and then scaled by powers of ten, each step rounded. So the last bit may differ
from the double that is nearest to the numeral.
-/

namespace LineTemplate.Json

/-- A reader takes characters off the front and gives what they say, or refuses them. -/
abbrev Reader (α : Type) := List Char → Option (α × List Char)

def isGap (c : Char) : Bool := c == ' ' || c == '\n' || c == '\t' || c == '\r'

def skipGap (cs : List Char) : List Char := cs.dropWhile isGap

/-- The characters behind `word`, if it stands in front. -/
def expect (word : List Char) (cs : List Char) : Option (List Char) :=
  match word, cs with
  | [], rest => some rest
  | w :: word, c :: rest => if w = c then expect word rest else none
  | _ :: _, [] => none

/-! ### Numbers -/

def wordLimit : Nat := Nat.pow 2 64

def exponentLimit : Nat := Nat.pow 2 31 - 1

/-- The double nearest to `10 ^ k`, for `k` up to 308. -/
def powerOfTen (k : Nat) : Double := ⟨false, Double.nearest (Nat.pow 10 k * Double.unit) 1⟩

/-- A double divided `k` times by the largest power of ten. -/
def shrink : Nat → Double → Double
  | 0, x => x
  | k + 1, x =>
    if x.isZero then x
    else match x.div (powerOfTen 308) with
      | .finite y => shrink k y
      | .infinite _ => x

/-- A double scaled by `10 ^ e` in steps that each round; none if the result is no double. -/
def scale (x : Double) (e : Int) : Option Double :=
  if 308 < e then if x.isZero then some x else none
  else
    let steps := ((-e).toNat - 1) / 308
    let rest := e + 308 * steps
    let y := shrink steps x
    match if 0 ≤ rest then y.mul (powerOfTen rest.toNat) else y.div (powerOfTen (-rest).toNat)
      with
    | .finite z => some z
    | .infinite _ => none

def double? (negative : Bool) (significand : Nat) (e : Int) : Option Number :=
  match Double.Extended.ofRatio false significand 1 with
  | .finite x => (scale x e).map fun y => .double { y with negative }
  | .infinite _ => none

/-- The number of a numeral without point and exponent. -/
def integer (negative : Bool) (significand : Nat) : Option Number :=
  if !negative then some (.int significand)
  else if 0 < significand && significand ≤ Nat.pow 2 63 then some (.int (-(significand : Int)))
  else double? true significand 0

/-- Digits that still fit a significand: the significand with them, their count, the rest. -/
def significantDigits (significand count : Nat) : List Char → Nat × Nat × List Char
  | [] => (significand, count, [])
  | c :: rest =>
    let next := 10 * significand + Numeral.digitValue c
    if c.isDigit && next < wordLimit then significantDigits next (count + 1) rest
    else (significand, count, c :: rest)

/-- The digits of an exponent up to the first that would make it too large; the rest. -/
def exponentDigits (e : Nat) : List Char → Nat × List Char
  | [] => (e, [])
  | c :: rest =>
    let next := 10 * e + Numeral.digitValue c
    if c.isDigit && next ≤ exponentLimit then exponentDigits next rest else (e, c :: rest)

def startsWithDigit : List Char → Bool
  | [] => false
  | c :: _ => c.isDigit

def withExponent (negative : Bool) (significand : Nat) (e : Int) (cs : List Char) :
    Option (Number × List Char) :=
  let (down, cs) := match cs with
    | '-' :: rest => (true, rest)
    | '+' :: rest => (false, rest)
    | rest => (false, rest)
  if !startsWithDigit cs then none
  else
    let (size, rest) := exponentDigits 0 cs
    if startsWithDigit rest then
      if significand ≠ 0 ∧ ¬ down then none
      else some (.double ⟨negative, 0⟩, rest.dropWhile Char.isDigit)
    else do
      let n ← double? negative significand (if down then e - size else e + size)
      some (n, rest)

def atExponent (negative : Bool) (significand : Nat) (e : Int) (cs : List Char) :
    Option (Number × List Char) :=
  match cs with
  | 'e' :: rest => withExponent negative significand e rest
  | 'E' :: rest => withExponent negative significand e rest
  | rest => (double? negative significand e).map fun n => (n, rest)

/-- The fraction behind the point, and with it the number. Digits that do not fit the
significand are left out. -/
def withFraction (negative : Bool) (significand : Nat) (e : Int) (cs : List Char) :
    Option (Number × List Char) :=
  if !startsWithDigit cs then none
  else
    let (significand, count, rest) := significantDigits significand 0 cs
    atExponent negative significand (e - count) (rest.dropWhile Char.isDigit)

/-- A number behind its sign. Digits that do not fit the significand only count as powers of
ten. -/
def unsigned (negative : Bool) (cs : List Char) : Option (Number × List Char) :=
  if !startsWithDigit cs then none
  else
    let (significand, count, rest) :=
      match cs with
      | '0' :: rest => (0, 1, rest)
      | cs => significantDigits 0 0 cs
    if startsWithDigit rest && significand == 0 && count == 1 then none
    else
      let extra := (rest.takeWhile Char.isDigit).length
      match rest.dropWhile Char.isDigit with
      | '.' :: rest => withFraction negative significand extra rest
      | 'e' :: rest => withExponent negative significand extra rest
      | 'E' :: rest => withExponent negative significand extra rest
      | rest =>
        if extra = 0 then (integer negative significand).map fun n => (n, rest)
        else (double? negative significand extra).map fun n => (n, rest)

def number : Reader Number
  | '-' :: rest => unsigned true rest
  | cs => unsigned false cs

/-! ### Strings -/

def hexValue? (c : Char) : Option Nat :=
  if c.isDigit then some (c.toNat - 48)
  else if 'a' ≤ c ∧ c ≤ 'f' then some (c.toNat - 87)
  else if 'A' ≤ c ∧ c ≤ 'F' then some (c.toNat - 55)
  else none

def hex4 : Reader Nat
  | a :: b :: c :: d :: rest => do
    let a ← hexValue? a
    let b ← hexValue? b
    let c ← hexValue? c
    let d ← hexValue? d
    some (((a * 16 + b) * 16 + c) * 16 + d, rest)
  | _ => none

/-- The character of an escape `\u`, which is two of them beyond U+FFFF. -/
def unicodeEscape (cs : List Char) : Option (Char × List Char) := do
  let (n, rest) ← hex4 cs
  if 0xDC00 ≤ n ∧ n ≤ 0xDFFF then none
  else if 0xD800 ≤ n ∧ n ≤ 0xDBFF then
    match rest with
    | '\\' :: 'u' :: rest =>
      let (m, rest) ← hex4 rest
      if 0xDC00 ≤ m ∧ m ≤ 0xDFFF then
        some (Char.ofNat (0x10000 + (n - 0xD800) * 0x400 + (m - 0xDC00)), rest)
      else none
    | _ => none
  else some (Char.ofNat n, rest)

def shortEscape? : Char → Option Char
  | '"' => some '"'
  | '\\' => some '\\'
  | '/' => some '/'
  | 'b' => some '\x08'
  | 'f' => some '\x0c'
  | 'n' => some '\n'
  | 'r' => some '\r'
  | 't' => some '\t'
  | _ => none

/-- The characters of a string behind its opening quote; `fuel` bounds their number. -/
def stringBody : Nat → Reader (List Char)
  | 0, _ => none
  | _ + 1, [] => none
  | fuel + 1, c :: rest =>
    if c = '"' then some ([], rest)
    else if c = '\\' then
      match rest with
      | 'u' :: rest => do
        let (c, rest) ← unicodeEscape rest
        let (cs, rest) ← stringBody fuel rest
        some (c :: cs, rest)
      | e :: rest => do
        let c ← shortEscape? e
        let (cs, rest) ← stringBody fuel rest
        some (c :: cs, rest)
      | [] => none
    else if c.toNat < 32 then none
    else do
      let (cs, rest) ← stringBody fuel rest
      some (c :: cs, rest)

def string (cs : List Char) : Option (String × List Char) :=
  (stringBody (cs.length + 1) cs).map fun (body, rest) => (String.ofList body, rest)

/-! ### Collections -/

variable {α : Type}

/-- One or more elements between commas up to `close`; `fuel` bounds their number. -/
def elements (close : Char) (element : Reader α) : Nat → Reader (List α)
  | 0, _ => none
  | fuel + 1, cs => do
    let (x, rest) ← element cs
    match skipGap rest with
    | c :: rest =>
      if c = close then some ([x], rest)
      else if c = ',' then do
        let (xs, rest) ← elements close element fuel rest
        some (x :: xs, rest)
      else none
    | [] => none

/-- Any number of elements between commas up to `close`. -/
def sequence (close : Char) (element : Reader α) (cs : List Char) : Option (List α × List Char) :=
  match skipGap cs with
  | c :: rest =>
    if c = close then some ([], rest) else elements close element (cs.length + 1) (c :: rest)
  | [] => none

/-- A name, a colon and what `content` reads for that name. -/
def member (content : String → Reader α) (cs : List Char) :
    Option ((String × α) × List Char) := do
  let rest ← expect ['"'] (skipGap cs)
  let (name, rest) ← string rest
  let rest ← expect [':'] (skipGap rest)
  let (x, rest) ← content name rest
  some ((name, x), rest)

/-! ### Values -/

def maxDepth : Nat := 127

def scalar : Reader Value
  | 'n' :: rest => (expect ['u', 'l', 'l'] rest).map fun rest => (.null, rest)
  | 't' :: rest => (expect ['r', 'u', 'e'] rest).map fun rest => (.bool true, rest)
  | 'f' :: rest => (expect ['a', 'l', 's', 'e'] rest).map fun rest => (.bool false, rest)
  | '"' :: rest => (string rest).map fun (s, rest) => (.string s, rest)
  | cs => (number cs).map fun (n, rest) => (.number n, rest)

/-- A value with at most `depth` collections inside each other. -/
def value : Nat → Reader Value
  | 0, cs => scalar (skipGap cs)
  | depth + 1, cs =>
    match skipGap cs with
    | '[' :: rest =>
      (sequence ']' (value depth) rest).map fun (items, rest) => (.array items, rest)
    | '{' :: rest =>
      (sequence '}' (member fun _ => value depth) rest).map fun (members, rest) =>
        (.object (Fields.ofList members), rest)
    | cs => scalar cs

/-- What the reader reads when nothing but white space follows. -/
def complete (reader : Reader α) (cs : List Char) : Option α := do
  let (x, rest) ← reader cs
  if (skipGap rest).isEmpty then some x else none

def parse? (text : String) : Option Value := complete (value maxDepth) text.toList

end LineTemplate.Json
