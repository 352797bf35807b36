/-!
# Blank text

White space is the Unicode property `White_Space`: 25 characters. Text is blank when it holds
nothing else, and trimming takes white space off both ends.
-/

namespace LineTemplate.Text

/-- The characters with the property `White_Space`. -/
def isSpace (c : Char) : Bool :=
  let n := c.toNat
  (9 ≤ n && n ≤ 13) || n == 0x20 || n == 0x85 || n == 0xA0 || n == 0x1680
    || (0x2000 ≤ n && n ≤ 0x200A) || n == 0x2028 || n == 0x2029 || n == 0x202F
    || n == 0x205F || n == 0x3000

/-- The list without the characters at its end that satisfy `p`. -/
def dropEndWhile (p : Char → Bool) (cs : List Char) : List Char :=
  (cs.reverse.dropWhile p).reverse

/-- The list without the white space at both ends. -/
def trimChars (cs : List Char) : List Char := dropEndWhile isSpace (cs.dropWhile isSpace)

/-- The text without the white space at both ends. -/
def trim (text : String) : String := String.ofList (trimChars text.toList)

/-- Whether the text is empty or white space only. -/
def isBlank (text : String) : Bool := text.toList.all isSpace

theorem trimChars_of_forall {cs : List Char} (h : ∀ c ∈ cs, isSpace c = false) :
    trimChars cs = cs := by
  have hdrop : ∀ ds : List Char, (∀ c ∈ ds, isSpace c = false) → ds.dropWhile isSpace = ds := by
    intro ds hds
    cases ds with
    | nil => rfl
    | cons d rest => simp only [List.dropWhile_cons, hds d List.mem_cons_self, Bool.false_eq_true,
        if_false]
  have hback := hdrop cs.reverse fun c hc => h c (List.mem_reverse.1 hc)
  rw [trimChars, hdrop cs h, dropEndWhile, hback, List.reverse_reverse]

end LineTemplate.Text
