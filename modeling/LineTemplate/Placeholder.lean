import LineTemplate.Path
import LineTemplate.Value.Reading

/-!
# Placeholders

A line in the body of a loop may hold placeholders, a path between `$` with an opening brace and
the next closing brace. A line is gone through from left to right: each piece of text runs up to
the first opening, and each placeholder up to the first closing brace behind it. What follows an
opening that is never closed is text.

`interpolate` puts the text of its value in place of each placeholder that a path is read from
and that leads somewhere, and leaves all others as they are; it never looks at what it has put
in. `paths` gives the paths that are read.
-/

namespace LineTemplate

namespace Placeholder

/-- What stands before the first `mark`, and what stands behind it. -/
def cutAt (mark : List Char) : List Char → Option (List Char × List Char)
  | [] => none
  | c :: rest =>
    if mark <+: c :: rest then some ([], (c :: rest).drop mark.length)
    else (cutAt mark rest).map fun (before, after) => (c :: before, after)

theorem cutAt_length {mark cs before after : List Char} (hm : mark ≠ [])
    (h : cutAt mark cs = some (before, after)) : after.length < cs.length := by
  induction cs generalizing before with
  | nil => cases h
  | cons c rest ih =>
    rw [cutAt] at h
    split at h
    · cases h
      have hpos := List.length_pos_iff.2 hm
      rw [List.length_drop, List.length_cons]
      omega
    · obtain ⟨⟨b, a⟩, hs, he⟩ := Option.map_eq_some_iff.1 h
      cases he
      have hrest := ih hs
      rw [List.length_cons]
      omega

def opening : List Char := ['$', '{']

def closing : List Char := ['}']

def written (body : List Char) : List Char := opening ++ (body ++ closing)

/-- What stands in a line for a placeholder. -/
def filled (lookup : Path → Option Value) (body : List Char) : List Char :=
  match (Path.ofChars? body).bind lookup with
  | some v => v.text.toList
  | none => written body

/-- The characters with every placeholder filled. -/
def fill (lookup : Path → Option Value) (cs : List Char) : List Char :=
  match _opening : cutAt opening cs with
  | none => cs
  | some (before, after) =>
    match _closing : cutAt closing after with
    | none => before ++ (opening ++ after)
    | some (body, rest) => before ++ (filled lookup body ++ fill lookup rest)
termination_by cs.length
decreasing_by
  have := cutAt_length (by decide) _opening
  have := cutAt_length (by decide) _closing
  omega

def interpolate (lookup : Path → Option Value) (line : String) : String :=
  String.ofList (fill lookup line.toList)

/-- The paths that are read from the placeholders, from left to right. -/
def pathsIn (cs : List Char) : List Path :=
  match _opening : cutAt opening cs with
  | none => []
  | some (_, after) =>
    match _closing : cutAt closing after with
    | none => []
    | some (body, rest) =>
      match Path.ofChars? body with
      | none => pathsIn rest
      | some p => p :: pathsIn rest
termination_by cs.length
decreasing_by
  all_goals
    have := cutAt_length (by decide) _opening
    have := cutAt_length (by decide) _closing
    omega

def paths (line : String) : List Path := pathsIn line.toList

end Placeholder

end LineTemplate
