import LineTemplate.Pattern.Reader

/-!
# Reading in front of an ending

When a pattern is to match whole texts, a bracket that closes and a dollar sign are put behind it.
A reader is steady if this makes no difference to what it reads of the pattern: it leaves the
ending behind what it has left before, or takes all of it for a comment that the pattern has not
ended, or what it could not read it still cannot, unless it takes a part of the ending with it.
-/

namespace LineTemplate.Pattern

/-- What stands behind a pattern that is to match whole texts. -/
def ending : List Char := [')', '$']

/-- What a reader makes of characters, and what it makes of them with the ending behind them. Where
it read nothing it may now read something, but then fewer than `k` characters are left. -/
inductive Kept {α : Type} (k : Nat) :
    Option (α × List Char) → Option (α × List Char) → Prop
  | same {x : α} {rest : List Char} : Kept k (some (x, rest)) (some (x, rest ++ ending))
  | swallowed {x : α} : Kept k (some (x, [])) (some (x, []))
  | fails : Kept k none none
  | short {x : α} {rest : List Char} : rest.length < k → Kept k none (some (x, rest))

structure Steady {α : Type} (k : Nat) (reader : List Char → Option (α × List Char)) : Prop where
  suffix {cs rest : List Char} {x : α} : reader cs = some (x, rest) → rest <:+ cs
  kept (cs : List Char) : Kept k (reader cs) (reader (cs ++ ending))

/-! ### Putting readers together -/

section Combinators

variable {α β : Type} {k : Nat}

theorem Kept.mono {l : Nat} {a b : Option (α × List Char)} (h : Kept k a b) (hk : k ≤ l) :
    Kept l a b := by
  cases h with
  | same => exact .same
  | swallowed => exact .swallowed
  | fails => exact .fails
  | short hr => exact .short (Nat.lt_of_lt_of_le hr hk)

theorem Kept.ofOption (o : Option α) (rest : List Char) :
    Kept k (o.map fun x => (x, rest)) (o.map fun x => (x, rest ++ ending)) := by
  cases o with
  | none => exact .fails
  | some x => exact .same

theorem Kept.ofShort (o : Option α) {rest : List Char} (h : rest.length < k) :
    Kept k none (o.map fun x => (x, rest)) := by
  cases o with
  | none => exact .fails
  | some x => exact .short h

theorem head?_ne {c : Char} {cs : List Char} (h : ∀ rest, cs = c :: rest → False) :
    cs.head? ≠ some c := by
  intro hhead
  obtain ⟨rest, rfl⟩ := List.head?_eq_some_iff.1 hhead
  exact h rest rfl

/-- A steady reader does the same twice where nothing is left. -/
theorem Steady.nil {P : List Char → Option (α × List Char)} (h : Steady k P) :
    Kept k (P []) (P []) := by
  cases hp : P [] with
  | none => exact .fails
  | some result =>
    obtain ⟨x, rest⟩ := result
    rw [List.suffix_nil.1 (h.suffix hp)]
    exact .swallowed

theorem Kept.bind {a b : Option (α × List Char)} {Q : α → List Char → Option (β × List Char)}
    (h : Kept k a b) (hQ : ∀ x, Steady k (Q x)) :
    Kept k (a.bind fun y => Q y.1 y.2) (b.bind fun y => Q y.1 y.2) := by
  cases h with
  | @same x rest => exact (hQ x).kept rest
  | @swallowed x => exact (hQ x).nil
  | fails => exact .fails
  | @short x rest hr =>
    change Kept k none (Q x rest)
    cases hq : Q x rest with
    | none => exact .fails
    | some result =>
      obtain ⟨y, left⟩ := result
      exact .short (Nat.lt_of_le_of_lt ((hQ x).suffix hq).length_le hr)

namespace Steady

theorem pure (x : α) : Steady k fun cs => some (x, cs) := by
  refine ⟨fun h => ?_, fun cs => .same⟩
  cases h
  exact List.suffix_rfl

theorem fail : Steady k fun _ => (none : Option (α × List Char)) := by
  refine ⟨fun h => ?_, fun cs => .fails⟩
  cases h

theorem bind {P : List Char → Option (α × List Char)} {Q : α → List Char → Option (β × List Char)}
    (hP : Steady k P) (hQ : ∀ x, Steady k (Q x)) :
    Steady k fun cs => (P cs).bind fun y => Q y.1 y.2 := by
  refine ⟨fun {cs rest x} h => ?_, fun cs => (hP.kept cs).bind hQ⟩
  obtain ⟨y, hy, hx⟩ := Option.bind_eq_some_iff.1 h
  exact ((hQ y.1).suffix hx).trans (hP.suffix hy)

theorem map {P : List Char → Option (α × List Char)} (hP : Steady k P) (g : α → β) :
    Steady k fun cs => (P cs).map fun y => (g y.1, y.2) := by
  have h := hP.bind fun x => pure (k := k) (g x)
  simp only [Option.map_eq_bind]
  exact h

/-- What does not depend on the characters. -/
theorem choose (o : Option α) {Q : α → List Char → Option (β × List Char)}
    (hQ : ∀ x, Steady k (Q x)) : Steady k fun cs => o.bind fun x => Q x cs := by
  cases o with
  | none => exact fail
  | some x => exact hQ x

theorem ite {c : Prop} [Decidable c] {P Q : List Char → Option (α × List Char)}
    (hP : Steady k P) (hQ : Steady k Q) : Steady k fun cs => if c then P cs else Q cs := by
  by_cases h : c
  · simp only [h, if_true]
    exact hP
  · simp only [h, if_false]
    exact hQ

/-- A reader that asks for a character. -/
theorem next {Q : Char → List Char → Option (α × List Char)} (hQ : ∀ c, Steady k (Q c))
    (hk : 2 ≤ k) : Steady k fun cs => match cs with
      | [] => none
      | c :: rest => Q c rest := by
  refine ⟨fun {cs rest x} h => ?_, fun cs => ?_⟩
  · cases cs with
    | nil => cases h
    | cons c cs => exact ((hQ c).suffix h).trans (List.suffix_cons c cs)
  · cases cs with
    | nil =>
      change Kept k none (Q ')' ['$'])
      cases hq : Q ')' ['$'] with
      | none => exact .fails
      | some result =>
        obtain ⟨x, rest⟩ := result
        exact .short (Nat.lt_of_le_of_lt ((hQ _).suffix hq).length_le hk)
    | cons c cs => exact (hQ c).kept cs

theorem congr {P Q : List Char → Option (α × List Char)} (hP : Steady k P)
    (h : ∀ cs, Q cs = P cs) : Steady k Q := by
  rw [funext h]
  exact hP

/-- A reader that looks whether a character other than the first one of the ending comes next. -/
theorem branch {R P Q : List Char → Option (α × List Char)} (c : Char) (hc : c ≠ ')')
    (hP : Steady k P) (hQ : Steady k Q) (there : ∀ rest, R (c :: rest) = P rest)
    (elsewhere : ∀ cs, (∀ rest, cs ≠ c :: rest) → R cs = Q cs) : Steady k R := by
  have hR (cs : List Char) :
      (∃ rest, cs = c :: rest ∧ R cs = P rest ∧ R (cs ++ ending) = P (rest ++ ending)) ∨
        R cs = Q cs ∧ R (cs ++ ending) = Q (cs ++ ending) := by
    by_cases h : ∃ rest, cs = c :: rest
    · obtain ⟨rest, rfl⟩ := h
      exact .inl ⟨rest, rfl, there rest, there _⟩
    · refine .inr ⟨elsewhere cs fun rest hcs => h ⟨rest, hcs⟩, elsewhere _ fun rest hcs => h ?_⟩
      cases cs with
      | nil => exact absurd (List.cons.inj hcs).1.symm hc
      | cons d left => exact ⟨left, by rw [(List.cons.inj hcs).1]⟩
  refine ⟨fun {cs rest x} h => ?_, fun cs => ?_⟩
  · rcases hR cs with ⟨left, rfl, hcs, -⟩ | ⟨hcs, -⟩
    · rw [hcs] at h
      exact (hP.suffix h).trans (List.suffix_cons c left)
    · rw [hcs] at h
      exact hQ.suffix h
  · rcases hR cs with ⟨left, rfl, hcs, hend⟩ | ⟨hcs, hend⟩
    · rw [hcs, hend]
      exact hP.kept left
    · rw [hcs, hend]
      exact hQ.kept cs

theorem ifHead {P Q : List Char → Option (α × List Char)} (c : Char) (hc : c ≠ ')')
    (hP : Steady k P) (hQ : Steady k Q) :
    Steady k fun cs => if cs.head? = some c then P cs.tail else Q cs :=
  .branch c hc hP hQ (fun _ => if_pos rfl) fun _ h => if_neg (head?_ne h)

/-- A reader that never fails. -/
theorem total {g : List Char → α × List Char} (hs : ∀ cs, (g cs).2 <:+ cs)
    (hg : ∀ cs, g (cs ++ ending) = ((g cs).1, (g cs).2 ++ ending) ∨
      (g cs).2 = [] ∧ g (cs ++ ending) = ((g cs).1, [])) : Steady k fun cs => some (g cs) := by
  refine ⟨fun {cs rest x} h => ?_, fun cs => ?_⟩
  · have hcs := hs cs
    rw [Option.some.inj h] at hcs
    exact hcs
  · have hcs := hg cs
    generalize g cs = y at hcs
    obtain ⟨x, rest⟩ := y
    rcases hcs with h | ⟨rfl, h⟩
    · rw [h]
      exact .same
    · rw [h]
      exact .swallowed

end Steady

end Combinators

/-! ### Spaces and numbers -/

section Numbers

variable {k : Nat} (f : Flags)

theorem skipIgnored_suffix (inComment : Bool) (cs : List Char) :
    skipIgnored inComment cs <:+ cs := by
  induction cs generalizing inComment with
  | nil => exact List.suffix_rfl
  | cons c rest ih =>
    have hcons := List.suffix_cons c rest
    rw [skipIgnored]
    split
    · exact (ih _).trans hcons
    · split
      · exact (ih _).trans hcons
      · split
        · exact (ih _).trans hcons
        · exact List.suffix_rfl

theorem skipIgnored_append (inComment : Bool) (cs : List Char) :
    skipIgnored inComment (cs ++ ending) = skipIgnored inComment cs ++ ending ∨
      skipIgnored inComment cs = [] ∧ skipIgnored inComment (cs ++ ending) = [] := by
  induction cs generalizing inComment with
  | nil =>
    cases inComment with
    | false => exact .inl (by decide)
    | true => exact .inr (by decide)
  | cons c rest ih =>
    rw [List.cons_append, skipIgnored, skipIgnored]
    split
    · exact ih _
    · split
      · exact ih _
      · split
        · exact ih _
        · exact .inl rfl

theorem skip_suffix (cs : List Char) : skip f cs <:+ cs := by
  unfold skip
  split
  · exact skipIgnored_suffix false cs
  · exact List.suffix_rfl

theorem skip_append (cs : List Char) : skip f (cs ++ ending) = skip f cs ++ ending ∨
    skip f cs = [] ∧ skip f (cs ++ ending) = [] := by
  unfold skip
  split
  · exact skipIgnored_append false cs
  · exact .inl rfl

theorem skip_nil : skip f [] = [] := List.suffix_nil.1 (skip_suffix f [])

theorem skip_cons {c : Char} (hspace : Text.isSpace c = false) (hc : c ≠ '#') (rest : List Char) :
    skip f (c :: rest) = c :: rest := by
  unfold skip
  split
  · rw [skipIgnored, if_neg Bool.false_ne_true, hspace, if_neg Bool.false_ne_true, if_neg hc]
  · rfl

theorem skip_ending : skip f ending = ending := skip_cons f (by decide) (by decide) _

/-- A steady reader behind spaces. -/
theorem Steady.skip {α : Type} {P : List Char → Option (α × List Char)} (hP : Steady k P) :
    Steady k fun cs => P (skip f cs) := by
  have hskip : Steady k fun cs => some ((), Pattern.skip f cs) :=
    .total (skip_suffix f) fun cs => (skip_append f cs).imp
      (fun h => by rw [h]) fun h => ⟨h.1, by rw [h.2]⟩
  exact hskip.bind fun _ => hP

theorem dropSpace_append (cs : List Char) :
    (cs ++ ending).dropWhile Text.isSpace = cs.dropWhile Text.isSpace ++ ending := by
  rw [List.dropWhile_append]
  split
  · next h =>
    rw [List.isEmpty_iff.1 h]
    rfl
  · rfl

theorem Steady.dropSpace {α : Type} {P : List Char → Option (α × List Char)} (hP : Steady k P) :
    Steady k fun cs => P (cs.dropWhile Text.isSpace) := by
  have hdrop : Steady k fun cs => some ((), cs.dropWhile Text.isSpace) :=
    .total (fun cs => List.dropWhile_suffix _) fun cs => .inl (by rw [dropSpace_append])
  exact hdrop.bind fun _ => hP

theorem digits_suffix (cs : List Char) : (digits f cs).2 <:+ cs := by
  fun_induction digits f cs with
  | case1 => exact List.suffix_rfl
  | case2 c rest hc ds after he ih =>
    rw [he] at ih
    exact (ih.trans (skip_suffix f rest)).trans (List.suffix_cons c rest)
  | case3 => exact List.suffix_rfl

theorem digits_append (cs : List Char) :
    digits f (cs ++ ending) = ((digits f cs).1, (digits f cs).2 ++ ending) ∨
      (digits f cs).2 = [] ∧ digits f (cs ++ ending) = ((digits f cs).1, []) := by
  fun_induction digits f cs with
  | case1 =>
    refine .inl ?_
    have hnone : ')'.isDigit = false := by decide
    simp [ending, digits, hnone]
  | case2 c rest hc ds after he ih =>
    rw [List.cons_append, digits, if_pos hc]
    rcases skip_append f rest with h | ⟨h, h'⟩
    · rw [h]
      rw [he] at ih
      rcases ih with ih | ⟨hnil, ih⟩
      · rw [ih]
        exact .inl rfl
      · rw [ih]
        exact .inr ⟨hnil, rfl⟩
    · rw [h, digits] at he
      cases he
      rw [h', digits]
      exact .inr ⟨rfl, rfl⟩
  | case3 c rest hc =>
    refine .inl ?_
    rw [List.cons_append, digits, if_neg hc]

theorem steady_digits : Steady k fun cs => some (digits f cs) :=
  .total (digits_suffix f) (digits_append f)

theorem steady_count : Steady k (count? f) := by
  have hend : ∀ ds : List Char, Steady k fun rest =>
      if ds.isEmpty || Nat.pow 2 32 ≤ Numeral.value ds then none
      else some (Numeral.value ds, rest) := fun ds => .ite .fail (.pure _)
  exact ((steady_digits f).bind fun ds => ((hend ds).skip f).dropSpace).dropSpace

/-- What follows the comma between two bounds. -/
def upperBound (low : Nat) (cs : List Char) : Option ((Nat × Option Nat) × List Char) :=
  if cs.head? = some '\x7d' then some ((low, none), cs.tail)
  else (count? f cs).bind fun y =>
    if y.2.head? = some '\x7d' then
      if low ≤ y.1 then some ((low, some y.1), y.2.tail) else none
    else none

def lowerBound (low : Nat) (cs : List Char) : Option ((Nat × Option Nat) × List Char) :=
  if cs.head? = some '\x7d' then some ((low, some low), cs.tail)
  else if cs.head? = some ',' then upperBound f low (skip f cs.tail)
  else none

theorem bounds?_eq (cs : List Char) :
    bounds? f cs = (count? f (skip f cs)).bind fun y => lowerBound f y.1 y.2 := by
  rw [bounds?]
  refine congrArg _ (funext fun y => ?_)
  obtain ⟨low, rest⟩ := y
  dsimp only
  split
  · rfl
  · next left =>
    change _ = upperBound f low (skip f left)
    generalize skip f left = cs
    split
    · rfl
    · next hne =>
      rw [upperBound, if_neg (head?_ne hne)]
      refine congrArg _ (funext fun y => ?_)
      obtain ⟨high, rest⟩ := y
      dsimp only
      split
      · rfl
      · next hne => rw [if_neg (head?_ne hne)]
  · next hclose hcomma => rw [lowerBound, if_neg (head?_ne hclose), if_neg (head?_ne hcomma)]

theorem steady_bounds : Steady k (bounds? f) := by
  have hclose (low high : Nat) : Steady k fun rest : List Char =>
      if rest.head? = some '\x7d' then
        if low ≤ high then some ((low, some high), rest.tail) else none
      else none :=
    .ifHead '\x7d' (by decide) (Steady.ite (c := low ≤ high) (.pure (low, some high)) .fail) .fail
  have hupper (low : Nat) : Steady k (upperBound f low) :=
    .ifHead '\x7d' (by decide) (.pure (low, none)) ((steady_count f).bind (hclose low))
  have hlower (low : Nat) : Steady k (lowerBound f low) :=
    .ifHead '\x7d' (by decide) (.pure (low, some low))
      (.ifHead ',' (by decide) ((hupper low).skip f) .fail)
  exact (((steady_count f).bind hlower).skip f).congr (bounds?_eq f)

end Numbers

/-! ### Escapes -/

section Escapes

variable {k : Nat} (f : Flags)

theorem Kept.skip {α : Type} {P : List Char → Option (α × List Char)} {cs : List Char}
    (h : Kept k (P (skip f cs)) (P (skip f cs ++ ending))) (hnil : P [] = none) :
    Kept k (P (Pattern.skip f cs)) (P (Pattern.skip f (cs ++ ending))) := by
  rcases skip_append f cs with hcs | ⟨hcs, hend⟩
  · rw [hcs]
    exact h
  · rw [hcs, hend, hnil]
    exact .fails

theorem steady_hexDigits (hk : 2 ≤ k) (n value : Nat) : Steady k (hexDigits f n value) := by
  induction n generalizing value with
  | zero => exact (Steady.pure value).congr fun _ => by rw [hexDigits]
  | succ n ih =>
    refine (Steady.next (fun c => .choose (hexValue? c) fun d => (ih (16 * value + d)).skip f)
      hk).congr fun cs => ?_
    cases cs with
    | nil => rw [hexDigits]
    | cons c rest =>
      rw [hexDigits]
      rfl

theorem hexBraced_suffix {any : Bool} {value n : Nat} {cs rest : List Char}
    (h : hexBraced f any value cs = some (n, rest)) : rest <:+ cs := by
  fun_induction hexBraced f any value cs with
  | case1 => cases h
  | case2 value left =>
    cases h
    exact (skip_suffix f left).trans (List.suffix_cons _ left)
  | case3 => cases h
  | case4 any value c left hc ih =>
    obtain ⟨d, -, hd⟩ := Option.bind_eq_some_iff.1 h
    exact ((ih d hd).trans (skip_suffix f left)).trans (List.suffix_cons c left)

theorem steady_hexBraced (any : Bool) (value : Nat) : Steady k (hexBraced f any value) := by
  refine ⟨hexBraced_suffix f, fun cs => ?_⟩
  fun_induction hexBraced f any value cs with
  | case1 any value =>
    have hfails : hexBraced f any value ending = none := by
      rw [ending, hexBraced, if_neg (by decide)]
      rfl
    rw [List.nil_append, hfails]
    exact .fails
  | case2 value left =>
    rw [List.cons_append, hexBraced, if_pos rfl, if_pos rfl]
    exact ((Steady.pure value).skip f).kept left
  | case3 any value left hany =>
    rw [List.cons_append, hexBraced, if_pos rfl, if_neg hany]
    exact .fails
  | case4 any value c left hc ih =>
    rw [List.cons_append, hexBraced, if_neg hc]
    cases hexValue? c with
    | none => exact .fails
    | some d => exact (ih d).skip f (hexBraced.eq_1 f true _)

theorem steady_hexEscape (hk : 2 ≤ k) (size : Nat) : Steady k (hexEscape f size) := by
  have hone : Steady k fun rest => (hexBraced f false 0 (skip f rest)).bind fun y =>
      (scalar? y.1).bind fun c => some (Atom.char c false, y.2) :=
    ((steady_hexBraced f false 0).bind fun n => .choose (scalar? n) fun c =>
      .pure (Atom.char c false)).skip f
  have hall : Steady k fun rest => (hexDigits f size 0 rest).bind fun y =>
      (scalar? y.1).bind fun c => some (Atom.char c (size == 2), y.2) :=
    (steady_hexDigits f hk size 0).bind fun n => .choose (scalar? n) fun c =>
      .pure (Atom.char c (size == 2))
  refine ((Steady.ifHead '\x7b' (by decide) hone hall).skip f).congr fun cs => ?_
  rw [hexEscape]
  generalize skip f cs = cs
  split
  · rfl
  · next hne =>
    rw [if_neg (head?_ne hne)]
    rfl

theorem braced_suffix {name cs rest : List Char} (h : braced f cs = some (name, rest)) :
    rest <:+ cs := by
  fun_induction braced f cs generalizing name with
  | case1 => cases h
  | case2 left =>
    cases h
    exact List.suffix_cons _ rest
  | case3 c left hc ih =>
    obtain ⟨y, hy, hx⟩ := Option.bind_eq_some_iff.1 h
    cases hx
    exact ((ih hy).trans (skip_suffix f left)).trans (List.suffix_cons c left)

theorem steady_braced : Steady k (braced f) := by
  refine ⟨braced_suffix f, fun cs => ?_⟩
  fun_induction braced f cs with
  | case1 =>
    have hfails : braced f ending = none := by
      rw [ending, braced, if_neg (by decide), skip_cons f (by decide) (by decide), braced,
        if_neg (by decide), skip_nil, braced]
      rfl
    rw [List.nil_append, hfails]
    exact .fails
  | case2 left =>
    rw [List.cons_append, braced, if_pos rfl]
    exact .same
  | case3 c left hc ih =>
    rw [List.cons_append, braced, if_neg hc]
    exact (ih.skip f (braced.eq_1 f)).bind fun name => .pure (c :: name)

theorem steady_propertyEscape (hk : 2 ≤ k) (negated : Bool) :
    Steady k (propertyEscape f negated) := by
  have hname (c : Char) : Steady k fun rest =>
      if c = '\x7b' then braced f (skip f rest)
      else if c = '\\' then none
      else some ([c], skip f rest) :=
    .ite ((steady_braced f).skip f) (.ite .fail ((Steady.pure [c]).skip f))
  have hset (name : List Char) : Steady k fun rest : List Char =>
      (propertyClass? name).bind fun x =>
        if !f.unicode then none
        else (classAs f (negated != x.2) x.1).bind fun s => some (Atom.set s, rest) :=
    .choose (propertyClass? name) fun x => .ite .fail
      (.choose (classAs f (negated != x.2) x.1) fun s => .pure (Atom.set s))
  refine ((Steady.next (fun c => (hname c).bind hset) hk).skip f).congr fun cs => ?_
  rw [propertyEscape]
  cases skip f cs with
  | nil => rfl
  | cons c rest =>
    dsimp only
    by_cases hopen : c = '\x7b'
    · rw [if_pos hopen, if_pos hopen]
      rfl
    · rw [if_neg hopen, if_neg hopen]
      by_cases hslash : c = '\\'
      · rw [if_pos hslash, if_pos hslash]
        rfl
      · rw [if_neg hslash, if_neg hslash]
        rfl

theorem steady_namedEscape (negated : Bool) (s : CharSet) : Steady k (namedEscape f negated s) :=
  (Steady.choose (classAs { f with ignoreCase := false } negated s) fun s =>
    .pure (Atom.set s)).congr fun cs => by
      rw [namedEscape, Option.map_eq_bind]
      rfl

theorem steady_namedBoundary : Steady k (namedBoundary f) := by
  have hlook (name : List Char) : Steady k fun rest : List Char =>
      (boundary? f.unicode name).bind fun l => some (Atom.look l, rest) :=
    .choose (boundary? f.unicode name) fun l => .pure (Atom.look l)
  exact (steady_braced f).bind hlook

theorem boundary_plain {cs : List Char} (h : cs.head? ≠ some '\x7b') :
    boundaryEscape f cs = some (.look (Look.wordBoundary f.unicode), cs) := by
  unfold boundaryEscape
  split
  · exact absurd rfl h
  · rfl

theorem boundary_suffix {cs rest : List Char} {a : Atom}
    (h : boundaryEscape f cs = some (a, rest)) : rest <:+ cs := by
  by_cases hopen : cs.head? = some '\x7b'
  · obtain ⟨inside, rfl⟩ := List.head?_eq_some_iff.1 hopen
    rw [boundaryEscape] at h
    split at h
    · have hrest := (steady_namedBoundary (k := 0) f).suffix h
      exact (hrest.trans (skip_suffix f inside)).trans (List.suffix_cons _ inside)
    · cases h
      exact List.suffix_rfl
  · rw [boundary_plain f hopen] at h
    cases h
    exact List.suffix_rfl

/-- What follows the brace behind a boundary is looked at, but a name does not begin with what the
ending begins with. -/
theorem steady_boundary : Steady k (boundaryEscape f) := by
  refine ⟨boundary_suffix f, fun cs => ?_⟩
  by_cases hopen : cs.head? = some '\x7b'
  · obtain ⟨inside, rfl⟩ := List.head?_eq_some_iff.1 hopen
    rw [List.cons_append, boundaryEscape, boundaryEscape]
    rcases skip_append f inside with h | ⟨h, hend⟩
    · have hhead : (skip f inside ++ ending).head?.any isBoundaryPart =
          (skip f inside).head?.any isBoundaryPart := by
        cases skip f inside <;> rfl
      rw [h, hhead]
      split
      · exact (steady_namedBoundary f).kept (skip f inside)
      · exact .same
    · rw [h, hend]
      exact .same
  · have hend : (cs ++ ending).head? ≠ some '\x7b' := by
      cases cs with
      | nil => decide
      | cons c rest => exact hopen
    rw [boundary_plain f hopen, boundary_plain f hend]
    exact .same

theorem steady_escape (hk : 2 ≤ k) : Steady k (escape f) := by
  have hletter (c : Char) : Steady k fun rest => escape f (c :: rest) := by
    simp only [escape]
    split
    all_goals first
      | exact .pure _
      | exact steady_namedEscape f _ _
      | exact steady_hexEscape f hk _
      | exact steady_propertyEscape f hk _
      | exact steady_boundary f
      | exact .ite (.pure _) .fail
  exact (Steady.next hletter hk).congr fun cs => by cases cs <;> rfl

end Escapes

end LineTemplate.Pattern
