import LineTemplate.Config
import LineTemplate.Json.Reader

/-!
# Reading settings

Settings are an object in which each setting may stand once, or an array of at most both in their
order; what is not given has its default. An interpolation is a name, or an object with that name
for its only field and null in it. Other fields are passed over: they have to be well formed, but
may hold numbers beyond the doubles, halves of surrogate pairs, and collections of any depth.
-/

namespace LineTemplate.Json

/-! ### Passing over values -/

/-- An escape that is only looked at for its form. -/
def skipEscape : List Char → Option (List Char)
  | 'u' :: rest => (hex4 rest).map (·.2)
  | c :: rest => (shortEscape? c).map fun _ => rest
  | [] => none

/-- The characters behind a string whose opening quote has been read; `fuel` bounds their
number. -/
def skipString : Nat → List Char → Option (List Char)
  | 0, _ => none
  | _ + 1, [] => none
  | fuel + 1, c :: rest =>
    if c = '"' then some rest
    else if c = '\\' then (skipEscape rest).bind (skipString fuel)
    else if c.toNat < 32 then none
    else skipString fuel rest

def skipDigits (cs : List Char) : Option (List Char) :=
  if startsWithDigit cs then some (cs.dropWhile Char.isDigit) else none

def skipExponent (cs : List Char) : Option (List Char) :=
  match cs with
  | '+' :: rest => skipDigits rest
  | '-' :: rest => skipDigits rest
  | rest => skipDigits rest

def skipExponent? (cs : List Char) : Option (List Char) :=
  match cs with
  | 'e' :: rest => skipExponent rest
  | 'E' :: rest => skipExponent rest
  | rest => some rest

def skipNumber (cs : List Char) : Option (List Char) := do
  let cs := match cs with
    | '-' :: rest => rest
    | rest => rest
  let rest ← match cs with
    | '0' :: rest => if startsWithDigit rest then none else some rest
    | rest => skipDigits rest
  match rest with
  | '.' :: rest => (skipDigits rest).bind skipExponent?
  | rest => skipExponent? rest

def skipScalar (cs : List Char) : Option (List Char) :=
  match cs with
  | 'n' :: rest => expect ['u', 'l', 'l'] rest
  | 't' :: rest => expect ['r', 'u', 'e'] rest
  | 'f' :: rest => expect ['a', 'l', 's', 'e'] rest
  | '"' :: rest => skipString (rest.length + 1) rest
  | cs => skipNumber cs

/-- A reader from a function that only goes on. -/
def passing (f : List Char → Option (List Char)) : Reader Unit := fun cs =>
  (f cs).map fun rest => ((), rest)

def skipMember (f : List Char → Option (List Char)) (cs : List Char) : Option (List Char) := do
  let rest ← expect ['"'] (skipGap cs)
  let rest ← skipString (rest.length + 1) rest
  let rest ← expect [':'] (skipGap rest)
  f rest

/-- The characters behind a value with at most `depth` collections inside each other. -/
def skipValue : Nat → List Char → Option (List Char)
  | 0, cs => skipScalar (skipGap cs)
  | depth + 1, cs =>
    match skipGap cs with
    | '[' :: rest => (sequence ']' (passing (skipValue depth)) rest).map (·.2)
    | '{' :: rest => (sequence '}' (passing (skipMember (skipValue depth))) rest).map (·.2)
    | cs => skipScalar cs

end LineTemplate.Json

namespace LineTemplate.Config

def interpolation? (name : String) : Option Interpolation :=
  if name = "standard" then some .standard
  else if name = "verbatim" then some .verbatim
  else none

/-! ### Settings from values -/

def interpolationOf? : Value → Option Interpolation
  | .string name => interpolation? name
  | .object [(name, .null)] => interpolation? name
  | _ => none

def delimiterOf? : Value → Option String
  | .string s => some s
  | _ => none

def given? {α : Type} (read : Value → Option α) (default : α) : Option Value → Option α
  | none => some default
  | some v => read v

def ofValue? : Value → Option Config
  | .object fields => do
    let delimiter ← given? delimiterOf? standard.delimiter (Fields.get? fields "delimiter")
    let interpolation ←
      given? interpolationOf? standard.interpolation (Fields.get? fields "interpolation")
    some ⟨delimiter, interpolation⟩
  | .array items =>
    if 2 < items.length then none
    else do
      let delimiter ← given? delimiterOf? standard.delimiter items[0]?
      let interpolation ← given? interpolationOf? standard.interpolation items[1]?
      some ⟨delimiter, interpolation⟩
  | _ => none

/-! ### Settings from text -/

def readDelimiter : Json.Reader String := fun cs => do
  let (v, rest) ← Json.value 0 cs
  let s ← delimiterOf? v
  some (s, rest)

def readInterpolation : Json.Reader Interpolation := fun cs => do
  match Json.skipGap cs with
  | '{' :: rest =>
    let (members, rest) ← Json.sequence '}' (Json.member fun _ => Json.value 0) rest
    let i ← interpolationOf? (.object members)
    some (i, rest)
  | cs =>
    let (v, rest) ← Json.value 0 cs
    let i ← interpolationOf? v
    some (i, rest)

inductive Setting where
  | delimiter (s : String)
  | interpolation (i : Interpolation)
  | other

def setting (name : String) : Json.Reader Setting := fun cs =>
  if name = "delimiter" then (readDelimiter cs).map fun (s, rest) => (.delimiter s, rest)
  else if name = "interpolation" then
    (readInterpolation cs).map fun (i, rest) => (.interpolation i, rest)
  else (Json.skipValue cs.length cs).map fun rest => (.other, rest)

/-- The one thing in a list, or the default if there is none; two are refused. -/
def atMostOne {α : Type} (default : α) : List α → Option α
  | [] => some default
  | [x] => some x
  | _ => none

def ofSettings? (settings : List Setting) : Option Config := do
  let delimiter ← atMostOne standard.delimiter
    (settings.filterMap fun | .delimiter s => some s | _ => none)
  let interpolation ← atMostOne standard.interpolation
    (settings.filterMap fun | .interpolation i => some i | _ => none)
  some ⟨delimiter, interpolation⟩

def inOrder (cs : List Char) : Option (Config × List Char) := do
  match Json.skipGap cs with
  | ']' :: rest => some (standard, rest)
  | cs =>
    let (delimiter, rest) ← readDelimiter cs
    match Json.skipGap rest with
    | ']' :: rest => some ({ standard with delimiter }, rest)
    | ',' :: rest =>
      let (interpolation, rest) ← readInterpolation rest
      let rest ← Json.expect [']'] (Json.skipGap rest)
      some (⟨delimiter, interpolation⟩, rest)
    | _ => none

def reader : Json.Reader Config := fun cs => do
  match Json.skipGap cs with
  | '{' :: rest =>
    let (members, rest) ← Json.sequence '}' (Json.member setting) rest
    let config ← ofSettings? (members.map (·.2))
    some (config, rest)
  | '[' :: rest => inOrder rest
  | _ => none

def ofText? (text : String) : Option Config := Json.complete reader text.toList

end LineTemplate.Config
