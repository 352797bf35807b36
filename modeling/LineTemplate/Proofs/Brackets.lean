import LineTemplate.Proofs.Steady

/-!
# Classes in front of an ending

A class in brackets needs the bracket that closes it, and neither character of the ending is one:
what stands in the pattern closes the class or nothing does. So the ending stays behind a class,
and a class that the pattern has not finished is none with the ending either.
-/

namespace LineTemplate.Pattern

variable {k : Nat} (f : Flags)

/-- A reader that sees nothing of the ending. -/
theorem Steady.ofAppend {α : Type} {P : List Char → Option (α × List Char)}
    (hs : ∀ {cs rest : List Char} {x : α}, P cs = some (x, rest) → rest <:+ cs)
    (happend : ∀ cs, P (cs ++ ending) = (P cs).map fun y => (y.1, y.2 ++ ending)) :
    Steady k P := by
  refine ⟨hs, fun cs => ?_⟩
  rw [happend]
  cases P cs with
  | none => exact .fails
  | some y => exact .same

/-- A mark that is not in the ending stands in front of it or is missing. -/
theorem mark_append (c : Char) (hc : c ∉ ending) (cs : List Char) :
    cs.dropWhile (· != c) = [] ∧ (cs ++ ending).dropWhile (· != c) = [] ∨
      ∃ rest, cs.dropWhile (· != c) = c :: rest ∧
        (cs ++ ending).dropWhile (· != c) = c :: (rest ++ ending) ∧
        (cs ++ ending).takeWhile (· != c) = cs.takeWhile (· != c) := by
  induction cs with
  | nil =>
    have hne (d : Char) (hd : d ∈ ending) : (d != c) = true := bne_iff_ne.2 fun h => hc (h ▸ hd)
    refine .inl ⟨rfl, ?_⟩
    simp only [List.nil_append, ending, List.dropWhile_cons, hne ')' (by decide),
      hne '$' (by decide), if_true, List.dropWhile_nil]
  | cons d cs ih =>
    by_cases hd : d = c
    · subst hd
      refine .inr ⟨cs, ?_, ?_, ?_⟩ <;> simp
    · have hne : (d != c) = true := bne_iff_ne.2 hd
      simpa [hne] using ih

/-! ### The beginning of a class -/

theorem leadingHyphens_suffix (cs : List Char) : (leadingHyphens f cs).2 <:+ cs := by
  fun_induction leadingHyphens f cs with
  | case1 => exact List.suffix_rfl
  | case2 rest ih => exact (ih.trans (skip_suffix f rest)).trans (List.suffix_cons _ rest)
  | case3 => exact List.suffix_rfl

theorem leadingHyphens_append (cs : List Char) :
    leadingHyphens f (cs ++ ending) = ((leadingHyphens f cs).1, (leadingHyphens f cs).2 ++ ending) ∨
      (leadingHyphens f cs).2 = [] ∧
        leadingHyphens f (cs ++ ending) = ((leadingHyphens f cs).1, []) := by
  fun_induction leadingHyphens f cs with
  | case1 =>
    refine .inl ?_
    rw [List.nil_append, ending, leadingHyphens, if_neg (by decide)]
  | case2 rest ih =>
    rw [List.cons_append, leadingHyphens, if_pos rfl]
    rcases skip_append f rest with h | ⟨h, hend⟩
    · rw [h]
      rcases ih with ih | ⟨hnil, ih⟩
      · rw [ih]
        exact .inl rfl
      · rw [ih]
        exact .inr ⟨hnil, rfl⟩
    · rw [h, hend, leadingHyphens]
      exact .inr ⟨rfl, rfl⟩
  | case3 c rest hc =>
    refine .inl ?_
    rw [List.cons_append, leadingHyphens, if_neg hc]

/-- What may follow an opening bracket: a caret, then characters that are meant by themselves. -/
def caret (cs : List Char) : Bool × List Char :=
  match cs with
  | '^' :: rest => (true, skip f rest)
  | rest => (false, rest)

def classStart (negated : Bool) (cs : List Char) : (Bool × CharSet) × List Char :=
  let (hyphen, cs) := leadingHyphens f cs
  if hyphen then ((negated, .only '-'), cs)
  else match cs with
    | ']' :: rest => ((negated, .only ']'), skip f rest)
    | rest => ((negated, .none), rest)

theorem openBracket_eq (cs : List Char) :
    openBracket f cs = classStart f (caret f (skip f cs)).1 (caret f (skip f cs)).2 := rfl

theorem steady_caret : Steady k fun cs => some (caret f cs) :=
  .branch '^' (by decide) ((Steady.pure true).skip f) (.pure false) (fun _ => rfl) fun cs h => by
    unfold caret
    split
    · exact absurd rfl (h _)
    · rfl

theorem steady_classStart (negated : Bool) : Steady k fun cs => some (classStart f negated cs) := by
  have hbracket : Steady k fun cs : List Char =>
      match cs with
      | ']' :: rest => some ((negated, CharSet.only ']'), skip f rest)
      | rest => some ((negated, CharSet.none), rest) :=
    .branch ']' (by decide) ((Steady.pure (negated, CharSet.only ']')).skip f)
      (.pure (negated, CharSet.none)) (fun _ => rfl) fun cs h => by
        split
        · exact absurd rfl (h _)
        · rfl
  have hhyphens : Steady k fun cs => some (leadingHyphens f cs) :=
    .total (leadingHyphens_suffix f) (leadingHyphens_append f)
  refine (hhyphens.bind fun hyphen => Steady.ite (c := hyphen = true)
    (.pure (negated, CharSet.only '-')) hbracket).congr fun cs => ?_
  rw [classStart, Option.bind_some]
  generalize leadingHyphens f cs = y
  obtain ⟨hyphen, left⟩ := y
  cases hyphen with
  | true => rfl
  | false =>
    change some (match left with
      | ']' :: rest => ((negated, CharSet.only ']'), skip f rest)
      | rest => ((negated, CharSet.none), rest)) = _
    split <;> rfl

theorem steady_openBracket : Steady k fun cs => some (openBracket f cs) :=
  (((steady_caret f).bind (steady_classStart f)).skip f).congr fun cs => by
    rw [openBracket_eq, Option.bind_some]

/-! ### The items of a class -/

def asciiNamed? (negated : Bool) (cs : List Char) : Option ((Bool × CharSet) × List Char) :=
  match cs.dropWhile (· != ':') with
  | ':' :: ']' :: after =>
    (CharSet.ascii? (String.ofList (cs.takeWhile (· != ':')))).map fun s => ((negated, s), after)
  | _ => none

theorem asciiNamed?_suffix {negated : Bool} {cs rest : List Char} {x : Bool × CharSet}
    (h : asciiNamed? negated cs = some (x, rest)) : rest <:+ cs := by
  unfold asciiNamed? at h
  split at h
  · next after hdrop =>
    obtain ⟨s, -, hs⟩ := Option.map_eq_some_iff.1 h
    cases hs
    have hcs := List.dropWhile_suffix (l := cs) (· != ':')
    rw [hdrop] at hcs
    exact ((List.suffix_cons _ _).trans (List.suffix_cons _ _)).trans hcs
  · cases h

theorem asciiNamed?_of_mark (negated : Bool) {cs rest : List Char}
    (h : cs.dropWhile (· != ':') = ':' :: rest) : asciiNamed? negated cs =
      if rest.head? = some ']' then
        (CharSet.ascii? (String.ofList (cs.takeWhile (· != ':')))).map fun s =>
          ((negated, s), rest.tail)
      else none := by
  unfold asciiNamed?
  rw [h]
  split
  · next after heq =>
    cases heq
    exact (if_pos rfl).symm
  · next hne =>
    refine (if_neg fun hhead => ?_).symm
    obtain ⟨after, rfl⟩ := List.head?_eq_some_iff.1 hhead
    exact hne after rfl

theorem asciiNamed?_append (negated : Bool) (cs : List Char) :
    asciiNamed? negated (cs ++ ending) =
      (asciiNamed? negated cs).map fun y => (y.1, y.2 ++ ending) := by
  rcases mark_append ':' (by decide) cs with ⟨h, hend⟩ | ⟨rest, h, hend, htake⟩
  · unfold asciiNamed?
    rw [h, hend]
    rfl
  · rw [asciiNamed?_of_mark negated h, asciiNamed?_of_mark negated hend, htake]
    cases rest with
    | nil => rfl
    | cons d after =>
      by_cases hd : d = ']'
      · simp [hd, Function.comp_def]
      · simp [hd]

/-- The caret stands behind the colon as it stands behind a bracket in text that is not extended. -/
theorem asciiClass?_cons (cs : List Char) :
    asciiClass? (':' :: cs) = asciiNamed? (caret .start cs).1 (caret .start cs).2 := by
  have hname (negated : Bool) (name : List Char) : (match name.dropWhile (· != ':') with
      | ':' :: ']' :: after => do
        let s ← CharSet.ascii? (String.ofList (name.takeWhile (· != ':')))
        some ((negated, s), after)
      | _ => none) = asciiNamed? negated name := by
    unfold asciiNamed?
    split
    · rw [Option.map_eq_bind]
      rfl
    · rfl
  exact hname (caret .start cs).1 (caret .start cs).2

theorem steady_asciiClass : Steady k asciiClass? := by
  have hnamed (negated : Bool) : Steady k (asciiNamed? negated) :=
    .ofAppend asciiNamed?_suffix (asciiNamed?_append negated)
  refine .branch ':' (by decide) ((steady_caret .start).bind hnamed) .fail asciiClass?_cons
    fun cs h => ?_
  unfold asciiClass?
  split
  · exact absurd rfl (h _)
  · rfl

theorem steady_classItem_cons (hk : 2 ≤ k) (c : Char) :
    Steady k fun rest => classItem f (c :: rest) :=
  .ite (steady_escape f hk) (.pure (Atom.char c false))

theorem steady_classItem (hk : 2 ≤ k) : Steady k (classItem f) :=
  (Steady.next (steady_classItem_cons f hk) hk).congr fun cs => by cases cs <;> rfl

/-- The last character of a range, where its first one stands before the hyphen. -/
def rangeTo (first : Atom) (cs : List Char) : Option (CharSet × List Char) :=
  (classItem f cs).bind fun y =>
    (classChar? f first).bind fun low => (classChar? f y.1).bind fun high =>
      if low ≤ high then some (.between low high, y.2) else none

/-- An item of a class behind its first atom. -/
def rangeFrom (first : Atom) (cs : List Char) : Option (CharSet × List Char) :=
  let single := (classOf? f first).map fun s => (s, cs)
  match cs with
  | [] => none
  | c :: after =>
    if c ≠ '-' then single
    else match skip f after with
      | [] => none
      | d :: left => if d = ']' ∨ d = '-' then single else rangeTo f first (d :: left)

theorem classRange_eq (cs : List Char) : classRange f cs =
    (classItem f cs).bind fun y => rangeFrom f y.1 (skip f y.2) := by
  have hsingle (first : Atom) (cs : List Char) : ((classOf? f first).bind fun s => some (s, cs)) =
      (classOf? f first).map fun s => (s, cs) := by
    rw [Option.map_eq_bind]
    rfl
  rw [classRange]
  refine congrArg (Option.bind _) (funext fun y => ?_)
  obtain ⟨first, rest⟩ := y
  dsimp only
  unfold rangeFrom
  cases skip f rest with
  | nil => rfl
  | cons c after =>
    dsimp only
    by_cases hc : c ≠ '-'
    · rw [if_pos hc, if_pos hc]
      exact hsingle first _
    · rw [if_neg hc, if_neg hc]
      cases skip f after with
      | nil => rfl
      | cons d left =>
        dsimp only
        by_cases hd : d = ']' ∨ d = '-'
        · rw [if_pos hd, if_pos hd]
          exact hsingle first _
        · rw [if_neg hd, if_neg hd]
          rfl

theorem steady_rangeTo (hk : 2 ≤ k) (first : Atom) : Steady k (rangeTo f first) :=
  (steady_classItem f hk).bind fun second => .choose (classChar? f first) fun low =>
    .choose (classChar? f second) fun high => Steady.ite (c := low ≤ high)
      (.pure (CharSet.between low high)) .fail

theorem rangeFrom_suffix {first : Atom} {cs rest : List Char} {x : CharSet}
    (h : rangeFrom f first cs = some (x, rest)) : rest <:+ cs := by
  cases cs with
  | nil => cases h
  | cons c after =>
    have hsingle (h : ((classOf? f first).map fun s => (s, c :: after)) = some (x, rest)) :
        rest <:+ c :: after := by
      obtain ⟨s, -, hs⟩ := Option.map_eq_some_iff.1 h
      cases hs
      exact List.suffix_rfl
    have hafter := (skip_suffix f after).trans (List.suffix_cons c after)
    unfold rangeFrom at h
    dsimp only at h
    split at h
    · exact hsingle h
    · split at h
      · cases h
      · next d left hskip =>
        split at h
        · exact hsingle h
        · rw [← hskip] at h
          exact ((steady_rangeTo f (Nat.le_refl 2) first).suffix h).trans hafter

theorem rangeFrom_cons {first : Atom} {c : Char} (hc : c ≠ '-') (cs : List Char) :
    rangeFrom f first (c :: cs) = (classOf? f first).map fun s => (s, c :: cs) := if_pos hc

theorem rangeFrom_hyphen (first : Atom) (cs : List Char) : rangeFrom f first ('-' :: cs) =
    match skip f cs with
    | [] => none
    | d :: left => if d = ']' ∨ d = '-' then (classOf? f first).map fun s => (s, '-' :: cs)
      else rangeTo f first (d :: left) := rfl

theorem steady_rangeFrom (hk : 3 ≤ k) (first : Atom) : Steady k (rangeFrom f first) := by
  have hto : Steady k (rangeTo f first) := steady_rangeTo f (Nat.le_of_succ_le hk) first
  refine ⟨rangeFrom_suffix f, fun cs => ?_⟩
  cases cs with
  | nil => exact .ofShort (classOf? f first) hk
  | cons c after =>
    rw [List.cons_append]
    by_cases hc : c ≠ '-'
    · rw [rangeFrom_cons f hc, rangeFrom_cons f hc]
      exact .ofOption (classOf? f first) (c :: after)
    · rw [Decidable.not_not.1 hc, rangeFrom_hyphen, rangeFrom_hyphen]
      rcases skip_append f after with h | ⟨h, hend⟩
      · rw [h]
        cases skip f after with
        | nil => exact hto.kept []
        | cons d left =>
          dsimp only [List.cons_append]
          split
          · exact .ofOption (classOf? f first) ('-' :: after)
          · exact hto.kept (d :: left)
      · rw [h, hend]
        exact .fails

theorem steady_classRange (hk : 3 ≤ k) (c : Char) :
    Steady k fun rest => classRange f (c :: rest) :=
  ((steady_classItem_cons f (Nat.le_of_succ_le hk) c).bind fun first =>
    (steady_rangeFrom f hk first).skip f).congr fun rest => classRange_eq f (c :: rest)

/-- A piece of a class that is neither a bracket nor an operator. -/
theorem classStep_range {c : Char} {cs : List Char} (hopen : c ≠ '[') (hclose : c ≠ ']')
    (hop : c ∈ ['&', '-', '~'] → ∀ left, cs ≠ c :: left) : classStep f (c :: cs) =
      (classRange f (c :: cs)).map fun y => (ClassStep.item y.1, y.2) := by
  unfold classStep
  split
  · next h => cases h
  · next h => exact absurd (List.cons.inj h).1 hopen
  · next h => exact absurd (List.cons.inj h).1 hclose
  · next h =>
    cases h
    exact absurd rfl (hop (by decide) _)
  · next h =>
    cases h
    exact absurd rfl (hop (by decide) _)
  · next h =>
    cases h
    exact absurd rfl (hop (by decide) _)
  · rfl

/-- A bracket in a class opens one of its own, or a class with a name. -/
theorem classStep_open (cs : List Char) : classStep f ('[' :: cs) =
    match asciiClass? cs with
    | some y => (classAs f y.1.1 y.1.2).map fun s => (ClassStep.item s, y.2)
    | none => some (.opening, cs) := by
  simp only [classStep]
  cases asciiClass? cs <;> rfl

theorem steady_classStep_open : Steady k fun rest => classStep f ('[' :: rest) := by
  refine ⟨fun {cs rest x} h => ?_, fun cs => ?_⟩
  · rw [classStep_open] at h
    split at h
    · next y hclass =>
      obtain ⟨t, -, ht⟩ := Option.map_eq_some_iff.1 h
      cases ht
      exact (steady_asciiClass (k := k)).suffix hclass
    · cases h
      exact List.suffix_rfl
  · have hclass : Kept 0 (asciiClass? cs) (asciiClass? (cs ++ ending)) := steady_asciiClass.kept cs
    rw [classStep_open, classStep_open]
    generalize asciiClass? cs = a at hclass
    generalize asciiClass? (cs ++ ending) = b at hclass
    cases hclass with
    | @same x rest =>
      change Kept k ((classAs f x.1 x.2).map _) ((classAs f x.1 x.2).map _)
      cases classAs f x.1 x.2 with
      | none => exact .fails
      | some s => exact .same
    | @swallowed x =>
      change Kept k ((classAs f x.1 x.2).map _) ((classAs f x.1 x.2).map _)
      cases classAs f x.1 x.2 with
      | none => exact .fails
      | some s => exact .swallowed
    | fails => exact .same
    | short hr => exact absurd hr (Nat.not_lt_zero _)

/-- A piece of a class, behind its first character. -/
theorem steady_classStep_cons (hk : 3 ≤ k) (c : Char) :
    Steady k fun rest => classStep f (c :: rest) := by
  have hrange (c : Char) : Steady k fun rest =>
      (classRange f (c :: rest)).map fun y => (ClassStep.item y.1, y.2) :=
    (steady_classRange f hk c).map ClassStep.item
  have hdouble (op : ClassOp) (c : Char) (hc : c ≠ '[' ∧ c ≠ ']' ∧ c ≠ ')')
      (h : ∀ rest, classStep f (c :: c :: rest) = some (.operator op, rest)) :
      Steady k fun rest => classStep f (c :: rest) :=
    .branch c hc.2.2 (.pure (ClassStep.operator op)) (hrange c) h fun cs hcs =>
      classStep_range f hc.1 hc.2.1 fun _ => hcs
  by_cases hopen : c = '['
  · rw [hopen]
    exact steady_classStep_open f
  by_cases hclose : c = ']'
  · rw [hclose]
    exact .pure ClassStep.closing
  by_cases hand : c = '&'
  · rw [hand]
    exact hdouble .inter '&' (by decide) fun _ => rfl
  by_cases hhyphen : c = '-'
  · rw [hhyphen]
    exact hdouble .diff '-' (by decide) fun _ => rfl
  by_cases htilde : c = '~'
  · rw [htilde]
    exact hdouble .symmDiff '~' (by decide) fun _ => rfl
  · refine (hrange c).congr fun cs => classStep_range f hopen hclose fun hmem => ?_
    simp only [List.mem_cons, hand, hhyphen, htilde, List.not_mem_nil, or_false] at hmem

theorem steady_classStep (hk : 3 ≤ k) : Steady k (classStep f) :=
  (Steady.next (steady_classStep_cons f hk) (Nat.le_of_succ_le hk)).congr fun cs => by
    cases cs <;> rfl

/-! ### The rest of a class -/

/-- What becomes of a class behind one of its pieces. -/
def classNext (body : List ClassFrame → CharSet → List Char → Option (CharSet × List Char))
    (frames : List ClassFrame) (s : CharSet) (step : ClassStep) (rest : List Char) :
    Option (CharSet × List Char) :=
  match step with
  | .item t => body frames (s.union t) rest
  | .opening =>
    let ((negated, first), rest) := openBracket f rest
    body (.bracket negated s :: frames) first rest
  | .operator op =>
    let (left, frames) := closeOperators f s frames
    body (.operator op left :: frames) .none rest
  | .closing =>
    let (s, frames) := closeOperators f s frames
    match frames with
    | .bracket negated before :: outer =>
      (classAs f negated s).bind fun s =>
        match outer with
        | [] => some (s, rest)
        | outer => body outer (before.union s) rest
    | _ => none

theorem classBody_succ (n : Nat) (frames : List ClassFrame) (s : CharSet) (cs : List Char) :
    classBody f (n + 1) frames s cs =
      (classStep f (skip f cs)).bind fun y => classNext f (classBody f n) frames s y.1 y.2 := by
  rw [classBody]
  refine congrArg _ (funext fun y => ?_)
  obtain ⟨step, rest⟩ := y
  cases step <;> rfl

theorem classNext_opening
    (body : List ClassFrame → CharSet → List Char → Option (CharSet × List Char))
    (frames : List ClassFrame) (s : CharSet) (rest : List Char) :
    classNext f body frames s .opening rest = body
      (.bracket (openBracket f rest).1.1 s :: frames) (openBracket f rest).1.2
      (openBracket f rest).2 := rfl

/-- The class goes on, in a bracket of its own or not, it ends, or there is none. -/
theorem classNext_cases (frames : List ClassFrame) (s : CharSet) (step : ClassStep) :
    (∃ inner t, ∀ body rest, classNext f body frames s step rest = body inner t rest) ∨
      step = .opening ∨
      step = .closing ∧ (∃ t, ∀ body rest, classNext f body frames s step rest = some (t, rest)) ∨
      ∀ body rest, classNext f body frames s step rest = none := by
  cases step with
  | item t => exact .inl ⟨frames, s.union t, fun body rest => rfl⟩
  | opening => exact .inr (.inl rfl)
  | operator op => exact .inl ⟨_, _, fun body rest => rfl⟩
  | closing =>
    unfold classNext
    generalize closeOperators f s frames = y
    obtain ⟨s, frames⟩ := y
    dsimp only
    split
    · next negated before outer =>
      cases classAs f negated s with
      | none => exact .inr (.inr (.inr fun body rest => rfl))
      | some t =>
        cases outer with
        | nil => exact .inr (.inr (.inl ⟨rfl, t, fun body rest => rfl⟩))
        | cons frame outer => exact .inl ⟨frame :: outer, before.union t, fun body rest => rfl⟩
    · exact .inr (.inr (.inr fun body rest => rfl))

theorem openBracket_suffix (cs : List Char) : (openBracket f cs).2 <:+ cs :=
  (steady_openBracket (k := 0) f).suffix rfl

theorem classStep_length {cs rest : List Char} {step : ClassStep}
    (h : classStep f cs = some (step, rest)) : rest.length < cs.length := by
  cases cs with
  | nil => cases h
  | cons c left =>
    have hleft : rest <:+ left := (steady_classStep_cons f (Nat.le_refl 3) c).suffix h
    exact Nat.lt_succ_of_le hleft.length_le

theorem classStep_suffix {cs rest : List Char} {step : ClassStep}
    (h : classStep f cs = some (step, rest)) : rest <:+ cs :=
  (steady_classStep f (Nat.le_refl 3)).suffix h

theorem classStep_closing {cs rest : List Char} (h : classStep f cs = some (.closing, rest)) :
    cs = ']' :: rest := by
  unfold classStep at h
  split at h
  · cases h
  · split at h
    · obtain ⟨s, -, hs⟩ := Option.map_eq_some_iff.1 h
      cases hs
    · cases h
  · cases h
    rfl
  · cases h
  · cases h
  · cases h
  · obtain ⟨y, -, hy⟩ := Option.map_eq_some_iff.1 h
    cases hy

theorem classBody_suffix {n : Nat} {frames : List ClassFrame} {s t : CharSet}
    {cs rest : List Char} (h : classBody f n frames s cs = some (t, rest)) : rest <:+ cs := by
  induction n generalizing frames s cs with
  | zero => cases h
  | succ n ih =>
    rw [classBody_succ] at h
    obtain ⟨⟨step, left⟩, hstep, hnext⟩ := Option.bind_eq_some_iff.1 h
    have hleft : left <:+ cs := (classStep_suffix f hstep).trans (skip_suffix f cs)
    rcases classNext_cases f frames s step with ⟨inner, r, hr⟩ | rfl | ⟨-, r, hr⟩ | hr
    · rw [hr] at hnext
      exact (ih hnext).trans hleft
    · exact ((ih hnext).trans (openBracket_suffix f left)).trans hleft
    · rw [hr] at hnext
      cases hnext
      exact hleft
    · rw [hr] at hnext
      cases hnext

theorem classNext_none
    (body : List ClassFrame → CharSet → List Char → Option (CharSet × List Char))
    (hbody : ∀ inner t rest, ']' ∉ rest → body inner t rest = none) (frames : List ClassFrame)
    (s : CharSet) {step : ClassStep} {rest : List Char} (hstep : step ≠ .closing)
    (hrest : ']' ∉ rest) : classNext f body frames s step rest = none := by
  rcases classNext_cases f frames s step with ⟨inner, r, hr⟩ | rfl | ⟨hclose, -⟩ | hr
  · rw [hr]
    exact hbody inner r rest hrest
  · exact hbody _ _ _ fun h => hrest ((openBracket_suffix f rest).mem h)
  · exact absurd hclose hstep
  · exact hr body rest

/-- A class without a closing bracket does not end. -/
theorem classBody_none {n : Nat} {frames : List ClassFrame} {s : CharSet} {cs : List Char}
    (hcs : ']' ∉ cs) : classBody f n frames s cs = none := by
  induction n generalizing frames s cs with
  | zero => rfl
  | succ n ih =>
    rw [classBody_succ]
    cases hstep : classStep f (skip f cs) with
    | none => rfl
    | some y =>
      obtain ⟨step, left⟩ := y
      have hskip : ']' ∉ skip f cs := fun h => hcs ((skip_suffix f cs).mem h)
      refine classNext_none f (classBody f n) (fun _ _ _ => ih) frames s ?_ fun h =>
        hskip ((classStep_suffix f hstep).mem h)
      rintro rfl
      rw [classStep_closing f hstep] at hskip
      exact hskip (List.mem_cons_self ..)

/-- The class does not end with a piece that takes a part of the ending. -/
theorem classNext_short {cs rest : List Char} {step : ClassStep}
    (hstep : classStep f (cs ++ ending) = some (step, rest)) (hnone : classStep f cs = none)
    (hr : rest.length < 3) (n : Nat) (frames : List ClassFrame) (s : CharSet) :
    classNext f (classBody f n) frames s step rest = none := by
  have hrest : rest <:+ ending := List.suffix_of_suffix_length_le (classStep_suffix f hstep)
    (List.suffix_append cs ending) (Nat.le_of_lt_succ hr)
  refine classNext_none f (classBody f n) (fun _ _ _ => classBody_none f) frames s ?_
    fun h => absurd (hrest.mem h) (by decide)
  rintro rfl
  have hclose := classStep_closing f hstep
  cases cs with
  | nil => exact absurd (List.cons.inj hclose).1 (by decide)
  | cons c left =>
    rw [(List.cons.inj hclose).1] at hnone
    cases hnone

/-- Where nothing is left a class ends with its last piece or not at all. -/
theorem kept_classNext_nil (n m : Nat) (frames : List ClassFrame) (s : CharSet)
    (step : ClassStep) : Kept 0 (classNext f (classBody f n) frames s step [])
      (classNext f (classBody f m) frames s step []) := by
  have hnone (n : Nat) (inner : List ClassFrame) (t : CharSet) : classBody f n inner t [] = none :=
    classBody_none f List.not_mem_nil
  rcases classNext_cases f frames s step with ⟨inner, t, ht⟩ | rfl | ⟨-, t, ht⟩ | ht
  · rw [ht, ht, hnone, hnone]
    exact .fails
  · rw [classNext_opening, classNext_opening, List.suffix_nil.1 (openBracket_suffix f []), hnone,
      hnone]
    exact .fails
  · rw [ht, ht]
    exact .swallowed
  · rw [ht, ht]
    exact .fails

/-- A class goes on in the same way if it does so behind each of its pieces. -/
theorem kept_classNext {n m : Nat} {rest : List Char}
    (hbody : ∀ inner t left, left.length ≤ rest.length →
      Kept 0 (classBody f n inner t left) (classBody f m inner t (left ++ ending)))
    (frames : List ClassFrame) (s : CharSet) (step : ClassStep) :
    Kept 0 (classNext f (classBody f n) frames s step rest)
      (classNext f (classBody f m) frames s step (rest ++ ending)) := by
  rcases classNext_cases f frames s step with ⟨inner, t, ht⟩ | rfl | ⟨-, t, ht⟩ | ht
  · rw [ht, ht]
    exact hbody inner t rest (Nat.le_refl _)
  · have hopen := (steady_openBracket (k := 0) f).kept rest
    have hleft := openBracket_length f rest
    rw [classNext_opening, classNext_opening]
    generalize openBracket f rest = x at hopen hleft
    generalize openBracket f (rest ++ ending) = y at hopen
    cases hopen with
    | same => exact hbody _ _ _ hleft
    | swallowed =>
      rw [classBody_none f List.not_mem_nil, classBody_none f List.not_mem_nil]
      exact .fails
  · rw [ht, ht]
    exact .same
  · rw [ht, ht]
    exact .fails

theorem kept_classBody {n m : Nat} {cs : List Char} (frames : List ClassFrame) (s : CharSet)
    (hn : cs.length < n) (hm : cs.length + 2 < m) :
    Kept 0 (classBody f n frames s cs) (classBody f m frames s (cs ++ ending)) := by
  induction n generalizing m frames s cs with
  | zero => exact absurd hn (Nat.not_lt_zero _)
  | succ n ih =>
    obtain ⟨m, rfl⟩ : ∃ l, m = l + 1 := ⟨m - 1, by omega⟩
    rw [classBody_succ, classBody_succ]
    rcases skip_append f cs with h | ⟨h, hend⟩
    · have hlength : (skip f cs).length ≤ cs.length := skip_length f cs
      rw [h]
      generalize skip f cs = cs at hlength
      have hkept := (steady_classStep f (Nat.le_refl 3)).kept cs
      generalize ha : classStep f cs = a at hkept
      generalize hb : classStep f (cs ++ ending) = b at hkept
      cases hkept with
      | @same step rest =>
        -- a piece takes a character, so the fuel outlasts the characters on both sides
        have hrest := classStep_length f ha
        refine kept_classNext f (fun inner t left hleft => ?_) frames s step
        have hfewer : left.length ≤ rest.length := hleft
        exact ih inner t (by omega) (by omega)
      | @swallowed step => exact kept_classNext_nil f n m frames s step
      | fails => exact .fails
      | @short step rest hr =>
        change Kept 0 none (classNext f (classBody f m) frames s step rest)
        rw [classNext_short f hb ha hr]
        exact .fails
    · rw [h, hend]
      exact .fails

theorem bracketed_eq (cs : List Char) : bracketed f cs = classBody f (cs.length + 1)
    [.bracket (openBracket f cs).1.1 .none] (openBracket f cs).1.2 (openBracket f cs).2 := rfl

theorem steady_bracketed : Steady k (bracketed f) := by
  refine ⟨fun {cs rest x} h => (classBody_suffix f h).trans (openBracket_suffix f cs), fun cs => ?_⟩
  have hopen := (steady_openBracket (k := 0) f).kept cs
  have hleft := openBracket_length f cs
  have hlength : (cs ++ ending).length = cs.length + 2 := by
    rw [List.length_append]
    rfl
  rw [bracketed_eq, bracketed_eq, hlength]
  generalize openBracket f cs = x at hopen hleft
  generalize openBracket f (cs ++ ending) = y at hopen
  cases hopen with
  | same => exact (kept_classBody f _ _ (by omega) (by omega)).mono (Nat.zero_le k)
  | swallowed =>
    rw [classBody_none f List.not_mem_nil, classBody_none f List.not_mem_nil]
    exact .fails

end LineTemplate.Pattern
