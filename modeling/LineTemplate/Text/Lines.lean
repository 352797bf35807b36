/-!
# Lines

Text is cut at every line feed, so a text has one line more than it has line feeds, and putting
the lines together again with line feeds gives the text back. `joinWith` puts any list of texts
together around a separator.
-/

namespace LineTemplate.Text

/-- The pieces of a character list between its line feeds; there is always at least one. -/
def cutLines : List Char → List (List Char)
  | [] => [[]]
  | c :: rest =>
    if c = '\n' then [] :: cutLines rest
    else match cutLines rest with
      | [] => [[c]]
      | line :: more => (c :: line) :: more

def lines (text : String) : List String := (cutLines text.toList).map String.ofList

def joinWith (separator : String) : List String → String
  | [] => ""
  | [piece] => piece
  | piece :: more => piece ++ separator ++ joinWith separator more

theorem joinWith_append (separator : String) {a b : List String} (ha : a ≠ []) (hb : b ≠ []) :
    joinWith separator (a ++ b) = joinWith separator a ++ separator ++ joinWith separator b := by
  induction a with
  | nil => exact absurd rfl ha
  | cons piece rest ih =>
    cases rest with
    | nil =>
      cases b with
      | nil => exact absurd rfl hb
      | cons next more => rfl
    | cons second rest =>
      have hrest := ih (List.cons_ne_nil second rest)
      show piece ++ separator ++ joinWith separator (second :: rest ++ b) =
        piece ++ separator ++ joinWith separator (second :: rest) ++ separator ++
          joinWith separator b
      rw [hrest]
      simp only [String.append_assoc]

/-- The line without one carriage return at its end. -/
def dropReturn : List Char → List Char
  | [] => []
  | [c] => if c = '\r' then [] else [c]
  | c :: rest => c :: dropReturn rest

theorem cutLines_ne_nil (cs : List Char) : cutLines cs ≠ [] := by
  cases cs with
  | nil => simp [cutLines]
  | cons c rest =>
    simp only [cutLines]
    split
    · simp
    · split <;> simp

/-- The lines of two texts with a line feed between them are the lines of both. -/
theorem cutLines_append (a b : List Char) :
    cutLines (a ++ '\n' :: b) = cutLines a ++ cutLines b := by
  induction a with
  | nil => simp [cutLines]
  | cons c rest ih =>
    by_cases h : c = '\n'
    · simp [cutLines, h, ih]
    · simp only [List.cons_append, cutLines, h, if_false, ih]
      cases hr : cutLines rest with
      | nil => exact absurd hr (cutLines_ne_nil rest)
      | cons line more => simp

theorem notMem_of_mem_cutLines {cs line : List Char} (h : line ∈ cutLines cs) : '\n' ∉ line := by
  induction cs generalizing line with
  | nil =>
    rw [List.mem_singleton.1 h]
    exact List.not_mem_nil
  | cons c rest ih =>
    rw [cutLines] at h
    split at h
    · rcases List.mem_cons.1 h with rfl | h
      · exact List.not_mem_nil
      · exact ih h
    · next hc =>
      cases hr : cutLines rest with
      | nil => exact absurd hr (cutLines_ne_nil rest)
      | cons first more =>
        rw [hr] at h ih
        rcases List.mem_cons.1 h with rfl | h
        · rw [List.mem_cons]
          rintro (he | hm)
          · exact hc he.symm
          · exact ih List.mem_cons_self hm
        · exact ih (List.mem_cons_of_mem first h)

/-- The lines of a text, put together again. -/
theorem joinWith_lines (text : String) : joinWith "\n" (lines text) = text := by
  suffices h : ∀ cs, (joinWith "\n" ((cutLines cs).map String.ofList)).toList = cs by
    rw [← String.toList_inj, lines, h]
  intro cs
  induction cs with
  | nil => rfl
  | cons c rest ih =>
    cases hr : cutLines rest with
    | nil => exact absurd hr (cutLines_ne_nil rest)
    | cons first more =>
      rw [hr] at ih
      rw [cutLines, hr]
      split
      · next hc =>
        rw [List.map_cons, List.map_cons, joinWith, ← List.map_cons, String.toList_append, ih, hc]
        · rfl
        · simp
      · cases more with
        | nil =>
          rw [List.map_cons, List.map_nil, joinWith, String.toList_ofList] at ih ⊢
          rw [ih]
        | cons second more =>
          rw [List.map_cons, List.map_cons, joinWith, String.toList_append, String.toList_append,
            String.toList_ofList] at ih ⊢
          · rw [← ih]
            rfl
          · simp
          · simp

theorem lines_append (a b : String) : lines (a ++ "\n" ++ b) = lines a ++ lines b := by
  simp [lines, String.toList_append, cutLines_append]

theorem cutLines_of_notMem {cs : List Char} (h : '\n' ∉ cs) : cutLines cs = [cs] := by
  induction cs with
  | nil => rfl
  | cons c rest ih =>
    rw [List.mem_cons, not_or] at h
    rw [cutLines, if_neg (Ne.symm h.1), ih h.2]

/-- Texts of one line each are the lines of what they are put together to. -/
theorem cutLines_joinWith {pieces : List String} (hne : pieces ≠ [])
    (h : ∀ p ∈ pieces, cutLines p.toList = [p.toList]) :
    cutLines (joinWith "\n" pieces).toList = pieces.map String.toList := by
  induction pieces with
  | nil => exact absurd rfl hne
  | cons p more ih =>
    have hp := h p List.mem_cons_self
    cases more with
    | nil => exact hp
    | cons q more =>
      have hm := ih (List.cons_ne_nil q more) fun r hr => h r (List.mem_cons_of_mem p hr)
      have he : (joinWith "\n" (p :: q :: more)).toList =
          p.toList ++ '\n' :: (joinWith "\n" (q :: more)).toList := by
        simp [joinWith, String.toList_append]
      rw [he, cutLines_append, hp, hm]
      rfl

end LineTemplate.Text
