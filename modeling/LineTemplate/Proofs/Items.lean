import LineTemplate.Proofs.Brackets
import LineTemplate.Proofs.Enclosed

/-!
# Items in front of an ending

An item of the pattern is the same item with the ending behind the pattern. One that the pattern
has not finished, an escape or a change of flags, may be an item then, and takes the bracket of the
ending with it. So items are written as `Lawful` says.
-/

namespace LineTemplate.Pattern

variable {k : Nat} (f : Flags)

/-! ### Groups -/

theorem groupName_suffix {cs rest : List Char} {name : String}
    (h : groupName cs = some (name, rest)) : rest <:+ cs := by
  have hdrop := List.dropWhile_suffix (l := cs) (· != '>')
  unfold groupName at h
  dsimp only at h
  split at h
  · next c left first more hmark hname =>
    split at h
    · cases h
      rw [hmark] at hdrop
      exact (List.suffix_cons c _).trans hdrop
    · cases h
  · cases h

theorem steady_groupName : Steady k groupName := by
  refine .ofAppend groupName_suffix fun cs => ?_
  unfold groupName
  rcases mark_append '>' (by decide) cs with ⟨h, hend⟩ | ⟨rest, h, hend, htake⟩
  · rw [h, hend]
    rfl
  · rw [h, hend, htake]
    cases cs.takeWhile (· != '>') with
    | nil => rfl
    | cons first more =>
      dsimp only
      split <;> rfl

theorem flagLetters_suffix {seen letters cs rest : List Char}
    (h : flagLetters seen cs = some (letters, rest)) :
    ∃ c left, rest = c :: left ∧ c :: left <:+ cs := by
  induction cs generalizing seen with
  | nil => cases h
  | cons c cs ih =>
    rw [flagLetters] at h
    split at h
    · split at h
      · cases h
      · cases h
        exact ⟨c, cs, rfl, List.suffix_rfl⟩
    · split at h
      · cases h
      · obtain ⟨d, left, hrest, hleft⟩ := ih h
        exact ⟨d, left, hrest, hleft.trans (List.suffix_cons c cs)⟩

theorem kept_flagLetters (seen cs : List Char) :
    Kept 3 (flagLetters seen cs) (flagLetters seen (cs ++ ending)) := by
  induction cs generalizing seen with
  | nil =>
    change Kept 3 none (if seen.head? = some '-' then none else some (seen.reverse, ending))
    split
    · exact .fails
    · exact .short (by decide)
  | cons c cs ih =>
    rw [List.cons_append, flagLetters, flagLetters]
    split
    · split
      · exact .fails
      · exact .same
    · split
      · exact .fails
      · exact ih (c :: seen)

/-- A change of flags, for what follows it or for a group. -/
def flagItem (cs : List Char) : Option (Item × List Char) :=
  match flagLetters [] cs with
  | some ([], ')' :: _) => none
  | some (letters, ')' :: rest) => some (.flags (f.change letters), rest)
  | some (letters, _ :: rest) => some (.opening (f.change letters) none, rest)
  | _ => none

/-- A group with a name, behind the bracket in front of it. -/
def namedItem (cs : List Char) : Option (Item × List Char) :=
  (groupName cs).map fun y => (.opening f (some y.1), y.2)

def angleItem (cs : List Char) : Option (Item × List Char) :=
  if cs.head? = some '=' then none else if cs.head? = some '!' then none else namedItem f cs

def letterItem (cs : List Char) : Option (Item × List Char) :=
  if cs.head? = some 'P' then
    if cs.tail.head? = some '<' then namedItem f cs.tail.tail else none
  else flagItem f cs

/-- What follows an opening bracket and a question mark. -/
def questionItem (cs : List Char) : Option (Item × List Char) :=
  if cs.head? = some '<' then angleItem f cs.tail else letterItem f cs

theorem groupItem_eq (cs : List Char) : groupItem f cs =
    if (skip f cs).head? = some '?' then questionItem f (skip f cs).tail
    else some (.opening f none, skip f cs) := by
  unfold groupItem
  generalize skip f cs = cs
  split
  · rfl
  · rfl
  · rfl
  · rfl
  · rfl
  · next rest hequal hbang =>
    change namedItem f rest = angleItem f rest
    rw [angleItem, if_neg (head?_ne fun left h => hequal left (by rw [h])),
      if_neg (head?_ne fun left h => hbang left (by rw [h]))]
  · next rest hequal hbang hlook hnot hname hangle =>
    change flagItem f rest = questionItem f rest
    rw [questionItem, if_neg (head?_ne fun left h => hangle left (by rw [h])), letterItem]
    by_cases hletter : rest.head? = some 'P'
    · obtain ⟨left, rfl⟩ := List.head?_eq_some_iff.1 hletter
      rw [if_pos hletter, List.tail_cons, if_neg (head?_ne fun more h => hname more (by rw [h]))]
      rfl
    · rw [if_neg hletter]
  · next hquestion => rw [if_neg (head?_ne hquestion)]

theorem flagItem_of_none {cs : List Char} (h : flagLetters [] cs = none) :
    flagItem f cs = none := by
  unfold flagItem
  rw [h]

theorem flagItem_of_some {cs letters left : List Char} {c : Char}
    (h : flagLetters [] cs = some (letters, c :: left)) : flagItem f cs =
      (if c ≠ ')' then some (Item.opening (f.change letters) none)
      else if letters = [] then none
      else some (Item.flags (f.change letters))).map fun i => (i, left) := by
  unfold flagItem
  rw [h]
  by_cases hc : c = ')'
  · subst hc
    cases letters <;> rfl
  · rw [if_pos hc]
    split
    · next heq =>
      cases heq
      exact absurd rfl hc
    · next heq =>
      cases heq
      exact absurd rfl hc
    · next heq =>
      cases heq
      rfl
    · next hne => exact absurd rfl (hne _ _ _)

theorem steady_flagItem (hk : 2 ≤ k) : Steady k (flagItem f) := by
  refine ⟨fun {cs rest x} h => ?_, fun cs => ?_⟩
  · cases hletters : flagLetters [] cs with
    | none =>
      rw [flagItem_of_none f hletters] at h
      cases h
    | some y =>
      obtain ⟨letters, after⟩ := y
      obtain ⟨c, left, rfl, hleft⟩ := flagLetters_suffix hletters
      rw [flagItem_of_some f hletters] at h
      obtain ⟨i, -, hi⟩ := Option.map_eq_some_iff.1 h
      cases hi
      exact (List.suffix_cons c rest).trans hleft
  · have hkept := kept_flagLetters [] cs
    generalize ha : flagLetters [] cs = a at hkept
    generalize hb : flagLetters [] (cs ++ ending) = b at hkept
    cases hkept with
    | @same letters rest =>
      obtain ⟨c, left, rfl, -⟩ := flagLetters_suffix ha
      rw [flagItem_of_some f ha, flagItem_of_some f hb]
      exact .ofOption _ left
    | swallowed =>
      obtain ⟨c, left, hnil, -⟩ := flagLetters_suffix ha
      cases hnil
    | fails =>
      rw [flagItem_of_none f ha, flagItem_of_none f hb]
      exact .fails
    | @short letters rest hr =>
      obtain ⟨c, left, rfl, -⟩ := flagLetters_suffix hb
      rw [flagItem_of_none f ha, flagItem_of_some f hb]
      exact .ofShort _ (Nat.lt_of_lt_of_le (Nat.lt_of_succ_lt_succ hr) hk)

theorem steady_namedItem : Steady k (namedItem f) :=
  steady_groupName.map fun n => Item.opening f (some n)

theorem steady_angleItem : Steady k (angleItem f) :=
  .ifHead '=' (by decide) .fail (.ifHead '!' (by decide) .fail (steady_namedItem f))

theorem steady_letterItem (hk : 2 ≤ k) : Steady k (letterItem f) :=
  .ifHead 'P' (by decide) (.ifHead '<' (by decide) (steady_namedItem f) .fail)
    (steady_flagItem f hk)

theorem steady_groupItem (hk : 2 ≤ k) : Steady k (groupItem f) := by
  have hquestion : Steady k (questionItem f) :=
    .ifHead '<' (by decide) (steady_angleItem f) (steady_letterItem f hk)
  exact ((Steady.ifHead '?' (by decide) hquestion (.pure (Item.opening f none))).skip f).congr
    (groupItem_eq f)

/-! ### All items -/

theorem steady_skipPreference {α : Type} (x : α) :
    Steady k fun cs => some (x, skipPreference cs) := by
  refine .branch '?' (by decide) (.pure x) (.pure x) (fun _ => rfl) fun cs h => ?_
  unfold skipPreference
  split
  · exact absurd rfl (h _)
  · rfl

theorem steady_repetition : Steady k fun rest => (bounds? f rest).map fun y =>
    (Item.repetition y.1.1 y.1.2, skipPreference (skip f y.2)) := by
  have hpreference (bounds : Nat × Option Nat) : Steady k fun rest =>
      some (Item.repetition bounds.1 bounds.2, skipPreference (skip f rest)) :=
    (steady_skipPreference _).skip f
  refine ((steady_bounds f).bind hpreference).congr fun rest => ?_
  rw [Option.map_eq_bind]
  rfl

/-- What the atom of an escape is for an item. -/
def escapeItem (y : Atom × List Char) : Option (Item × List Char) :=
  (atomPattern? f y.1).map fun p => (.atom p, y.2)

theorem item_escape (rest : List Char) :
    item f ('\\' :: rest) = (escape f rest).bind (escapeItem f) := by
  change ((escape f rest).bind fun y => (atomPattern? f y.1).bind fun p =>
    some (Item.atom p, y.2)) = _
  refine congrArg _ (funext fun y => ?_)
  rw [escapeItem, Option.map_eq_bind]
  rfl

theorem steady_escapeItem (a : Atom) : Steady k fun rest => escapeItem f (a, rest) :=
  (Steady.choose (atomPattern? f a) fun p => .pure (Item.atom p)).congr fun rest => by
    rw [escapeItem, Option.map_eq_bind]
    rfl

/-- An item behind its first character. -/
theorem steady_item (hk : 2 ≤ k) (c : Char) : Steady k fun rest => item f (c :: rest) := by
  have hescape : Steady k fun rest => item f ('\\' :: rest) :=
    ((steady_escape f hk).bind (steady_escapeItem f)).congr (item_escape f)
  have hliteral (c : Char) : Steady k fun rest : List Char =>
      (literal? f c false).map fun p => (Item.atom p, rest) :=
    (Steady.choose (literal? f c false) fun p => .pure (Item.atom p)).congr fun rest => by
      rw [Option.map_eq_bind]
      rfl
  by_cases hc : c = '\\'
  · rw [hc]
    exact hescape
  simp only [item]
  split
  · exact steady_groupItem f hk
  · exact .pure _
  · exact .pure _
  · exact (steady_bracketed f).map _
  · exact steady_skipPreference _
  · exact steady_skipPreference _
  · exact steady_skipPreference _
  · exact steady_repetition f
  · exact absurd rfl hc
  · exact .ite (.pure _) .fail
  · exact .pure _
  · exact .pure _
  · exact hliteral _

theorem groupItem_ne_closing {cs left : List Char} : groupItem f cs ≠ some (.closing, left) := by
  intro h
  have hname (cs : List Char) : ((groupName cs).map fun y =>
      (Item.opening f (some y.1), y.2)) ≠ some (.closing, left) := by
    intro h
    obtain ⟨y, -, hy⟩ := Option.map_eq_some_iff.1 h
    cases hy
  unfold groupItem at h
  split at h
  · cases h
  · cases h
  · cases h
  · cases h
  · exact hname _ h
  · exact hname _ h
  · split at h <;> cases h
  · cases h

/-- Only a bracket closes a group. -/
theorem item_closing {c : Char} {rest left : List Char}
    (h : item f (c :: rest) = some (.closing, left)) : c = ')' := by
  have hmap {α : Type} {o : Option α} {g : α → Item × List Char}
      (hg : ∀ x, (g x).1 ≠ .closing) : o.map g ≠ some (.closing, left) := by
    intro h
    obtain ⟨x, -, hx⟩ := Option.map_eq_some_iff.1 h
    exact hg x (by rw [hx])
  simp only [item] at h
  split at h
  · exact absurd h (groupItem_ne_closing f)
  · rfl
  · cases h
  · exact absurd h (hmap fun _ => Item.noConfusion)
  · cases h
  · cases h
  · cases h
  · exact absurd h (hmap fun _ => Item.noConfusion)
  · obtain ⟨y, -, hy⟩ := Option.bind_eq_some_iff.1 h
    obtain ⟨p, -, hp⟩ := Option.bind_eq_some_iff.1 hy
    cases hp
  · split at h <;> cases h
  · cases h
  · cases h
  · exact absurd h (hmap fun _ => Item.noConfusion)

/-- Items are written as a reader of whole patterns relies on. -/
theorem lawful_item : ItemReader.Lawful item where
  suffix {f c cs left i} h := (steady_item f (Nat.le_refl 2) c).suffix h
  group f cs := by
    have hskip : skip f ('?' :: ':' :: cs) = '?' :: ':' :: cs :=
      skip_cons f (by decide) (by decide) _
    change groupItem f ('?' :: ':' :: cs) = _
    rw [groupItem, hskip]
    rfl
  bracket _ _ := rfl
  closing {f c cs left} h := item_closing f h
  caret _ _ := rfl
  dollar _ _ := rfl
  complete {f c cs left i} h := by
    have hkept := (steady_item f (Nat.le_refl 2) c).kept cs
    rw [h] at hkept
    generalize hend : item f (c :: (cs ++ ending)) = b at hkept
    cases hkept with
    | same => exact .inl rfl
    | swallowed => exact .inr ⟨rfl, rfl⟩
  completed {f c cs left i} h hend := by
    have hkept := (steady_item f (Nat.le_refl 2) c).kept cs
    have hdollar : ['$'] <:+ cs ++ ending :=
      (List.suffix_cons ')' ['$']).trans (List.suffix_append cs ending)
    have hleft := (steady_item f (Nat.le_refl 2) c).suffix hend
    rw [h, hend] at hkept
    cases hkept with
    | short hlength =>
      -- the dollar sign is all that can be left of the ending
      have hrest := List.suffix_of_suffix_length_le hleft hdollar (Nat.le_of_lt_succ hlength)
      exact fun hmem => absurd (hrest.mem hmem) (by decide)

end LineTemplate.Pattern
