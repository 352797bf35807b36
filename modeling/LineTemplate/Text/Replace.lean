/-!
# Replacing text

Every occurrence of one text in another is replaced, from left to right and without overlaps.
The empty text occurs before every character and at the end.
-/

namespace LineTemplate.Text

/-- The characters with every occurrence of `old` replaced, the first `covered` of them being
part of an occurrence that has been replaced. -/
def replaceFrom (old new : List Char) (covered : Nat) : List Char → List Char
  | [] => []
  | c :: rest =>
    match covered with
    | n + 1 => replaceFrom old new n rest
    | 0 =>
      if old.isPrefixOf (c :: rest) then new ++ replaceFrom old new (old.length - 1) rest
      else c :: replaceFrom old new 0 rest

def replaceChars (old new cs : List Char) : List Char :=
  if old.isEmpty then new ++ cs.flatMap (· :: new) else replaceFrom old new 0 cs

/-- The text with every occurrence of `old` replaced by `new`. -/
def replace (old new text : String) : String :=
  String.ofList (replaceChars old.toList new.toList text.toList)

end LineTemplate.Text
