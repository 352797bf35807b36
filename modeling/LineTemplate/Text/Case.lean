import LineTemplate.Unicode.CaseTable
import LineTemplate.Unicode.Property

/-!
# Upper and lower case

The full mappings, by which one character may become several. A capital sigma becomes a final
small sigma at the end of a word: behind a cased character and not in front of one, where
characters that case ignores are passed over on both sides.
-/

namespace LineTemplate.Text

def sigma : Char := '\u03A3'

def upperChar (c : Char) : List Char := (Unicode.upperTable.get? c).getD [c]

def lowerChar (c : Char) : List Char := (Unicode.lowerTable.get? c).getD [c]

def upper (text : String) : String := String.ofList (text.toList.flatMap upperChar)

/-- Whether a cased character comes first but for those that case ignores. -/
def startsCased (cs : List Char) : Bool :=
  match cs.dropWhile Unicode.isCaseIgnorable with
  | [] => false
  | c :: _ => Unicode.isCased c

/-- The lower case of characters, of which the ones before them are given in reverse. -/
def lowerFrom (before : List Char) : List Char → List Char
  | [] => []
  | c :: rest =>
    let these :=
      if c = sigma then
        if startsCased before && !startsCased rest then ['\u03C2'] else ['\u03C3']
      else lowerChar c
    these ++ lowerFrom (c :: before) rest

def lower (text : String) : String := String.ofList (lowerFrom [] text.toList)

end LineTemplate.Text
