import LineTemplate.Unicode.CategoryTable
import LineTemplate.Unicode.PropertyTable

/-!
# Properties of characters

The properties that this library asks for by itself.
-/

namespace LineTemplate.Unicode

def category (name : String) : Ranges :=
  match categoryTable.find? (·.1 = name) with
  | some (_, text) => Ranges.ofText text
  | none => #[]

def property (name : String) : Ranges :=
  match propertyTable.find? (·.1 = name) with
  | some (_, _, text) => Ranges.ofText text
  | none => #[]

def digitRanges : Ranges := category "Nd"

def alphabeticRanges : Ranges := property "Alphabetic"

def casedRanges : Ranges := property "Cased"

def caseIgnorableRanges : Ranges := property "Case_Ignorable"

def graphemeExtendRanges : Ranges := property "Grapheme_Extend"

def wordRanges : Ranges :=
  .union [alphabeticRanges, category "Mn", category "Mc", category "Me", digitRanges,
    category "Pc", property "Join_Control"]

def numericParts : List Ranges := [digitRanges, category "Nl", category "No"]

def hiddenParts : List Ranges :=
  ["Cc", "Cf", "Co", "Cn", "Zl", "Zp", "Zs"].map category

def isDigit (c : Char) : Bool := digitRanges.contains c.toNat

def isAlphabetic (c : Char) : Bool := alphabeticRanges.contains c.toNat

def isNumeric (c : Char) : Bool := numericParts.any (·.contains c.toNat)

def isWord (c : Char) : Bool := wordRanges.contains c.toNat

def isCased (c : Char) : Bool := casedRanges.contains c.toNat

def isCaseIgnorable (c : Char) : Bool := caseIgnorableRanges.contains c.toNat

def isGraphemeExtend (c : Char) : Bool := graphemeExtendRanges.contains c.toNat

def isPrintable (c : Char) : Bool := c = ' ' || !hiddenParts.any (·.contains c.toNat)

end LineTemplate.Unicode
