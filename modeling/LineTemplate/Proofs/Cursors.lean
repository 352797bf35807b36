import Mathlib
import LineTemplate.Proofs.Descent
import LineTemplate.Proofs.Lines

/-!
# Cursors and readers

A cursor is sound when it is at a token and what was noted is in order. A routine follows a reader
when, wherever the words are the rest of a line, it has the same result or the same error, goes past
the words that the reader takes and leaves the cursor sound. What is put together from routines
that follow readers follows what is put together from the readers.
-/

namespace LineTemplate

open Token (AllWords)

namespace Descent

/-! ### Sound cursors -/

namespace Routine

/-- Whether the routine may come to its end where it began. -/
def mayStay : Routine → Prop
  | .blocks closer => closer = .endOfTemplate
  | _ => False

end Routine

namespace Note

/-- What is noted is in order, for a template of `length` tokens: no place behind the last token is
looked at, the last token is not gone past, and the cursor has moved on. -/
def Sound (length : Nat) : Note → Prop
  | .looked place => place < length
  | .taken place => place + 1 < length
  | .done routine start stop => stop < length ∧ (start < stop ∨ start = stop ∧ routine.mayStay)
  | .round _ start stop => stop < length ∧ start < stop

def taken? : Note → Option Nat
  | .taken place => some place
  | _ => none

end Note

namespace Cursor

/-- The cursor is at a token, what was noted is in order, and the tokens in front of the cursor have
been taken one after the other, each of them once. -/
structure Sound (tokens : List Token) (c : Cursor) : Prop where
  place_lt : c.place < tokens.length
  notes : ∀ n ∈ c.notes, n.Sound tokens.length
  taken : c.notes.reverse.filterMap Note.taken? = List.range c.place

/-- The tokens from the cursor on are `rest`. -/
structure At (tokens rest : List Token) (c : Cursor) : Prop where
  sound : c.Sound tokens
  drop_eq : tokens.drop c.place = rest

section At

variable {tokens rest more : List Token} {t u : Token} {c d : Cursor} {n : Note}

theorem sound_start (h : tokens ≠ []) : start.Sound tokens where
  place_lt := List.length_pos_iff.2 h
  notes := by
    intro n hn
    cases hn
  taken := rfl

theorem Sound.noting (h : c.Sound tokens) (hn : n.Sound tokens.length) (ht : n.taken? = none) :
    (c.noting n).Sound tokens where
  place_lt := h.place_lt
  notes := List.forall_mem_cons.2 ⟨hn, h.notes⟩
  taken := by
    simp only [Cursor.noting, List.reverse_cons, List.filterMap_append, h.taken,
      List.filterMap_cons, ht, List.filterMap_nil, List.append_nil]

theorem At.noting (h : c.At tokens rest) (hn : n.Sound tokens.length) (ht : n.taken? = none) :
    (c.noting n).At tokens rest := ⟨h.sound.noting hn ht, h.drop_eq⟩

theorem At.length (h : c.At tokens rest) : c.place + rest.length = tokens.length := by
  have hlt := h.sound.place_lt
  rw [← h.drop_eq, List.length_drop]
  omega

theorem At.tokenAt_eq (h : c.At tokens (t :: rest)) : tokenAt tokens c.place = t := by
  have hlt := h.sound.place_lt
  have hmin : min c.place (tokens.length - 1) = c.place := by omega
  have hdrop := h.drop_eq
  rw [List.drop_eq_getElem_cons hlt] at hdrop
  rw [tokenAt, hmin, List.getD_eq_getElem _ _ hlt]
  exact (List.cons.inj hdrop).1

theorem At.looked (h : c.At tokens rest) : (c.noting (.looked c.place)).At tokens rest :=
  ⟨h.sound.noting h.sound.place_lt rfl, h.drop_eq⟩

/-- A token with one behind it can be gone past. -/
theorem At.advanced (h : c.At tokens (t :: u :: rest)) :
    ({ c with place := c.place + 1 }.noting (.taken c.place)).At tokens (u :: rest) where
  sound := {
    place_lt := by
      have hlen := h.length
      simp only [List.length_cons] at hlen
      simp only [Cursor.noting]
      omega
    notes := by
      refine List.forall_mem_cons.2 ⟨?_, h.sound.notes⟩
      have hlen := h.length
      simp only [List.length_cons] at hlen
      simp only [Note.Sound]
      omega
    taken := by
      simp only [Cursor.noting, List.reverse_cons, List.filterMap_append, h.sound.taken,
        List.filterMap_cons, Note.taken?, List.filterMap_nil, List.range_succ] }
  drop_eq := by
    have hdrop := h.drop_eq
    rw [List.drop_eq_getElem_cons h.sound.place_lt] at hdrop
    exact (List.cons.inj hdrop).2

/-- Where fewer tokens are left the cursor has moved on. -/
theorem At.lt_place (h : c.At tokens rest) (hd : d.At tokens more)
    (hl : more.length < rest.length) : c.place < d.place := by
  have hc := h.length
  have hm := hd.length
  omega

end At

end Cursor

/-! ### Steps of a run -/

section Run

variable {α β σ : Type} {tokens : List Token} {c d : Cursor} {e : SyntaxError}

theorem bind_of_ok {m : Run α} {f : α → Run β} {x : α} (h : m tokens c = some (.ok x, d)) :
    (m >>= f) tokens c = f x tokens d := by
  simp [bind, ReaderT.bind, ExceptT.bind, ExceptT.mk, ExceptT.bindCont, StateT.bind, h]

theorem bind_of_error {m : Run α} {f : α → Run β} (h : m tokens c = some (.error e, d)) :
    (m >>= f) tokens c = some (.error e, d) := by
  simp [bind, ReaderT.bind, ExceptT.bind, ExceptT.mk, ExceptT.bindCont, StateT.bind, h]
  rfl

theorem look_bind {f : Token → Run β} :
    (look >>= f) tokens c = f (tokenAt tokens c.place) tokens (c.noting (.looked c.place)) := rfl

theorem take_of_kind (h : (tokenAt tokens c.place).kind ≠ .endOfTemplate) :
    take tokens c = some (.ok (tokenAt tokens c.place),
      { c.noting (.looked c.place) with place := c.place + 1 }.noting (.taken c.place)) := by
  rw [take, look_bind, if_pos h]
  rfl

theorem Cursor.At.exists_take {rest : List Token} {t u : Token}
    (h : c.At tokens (t :: u :: rest)) (ht : t.kind ≠ .endOfTemplate) :
    ∃ d, take tokens c = some (.ok t, d) ∧ d.At tokens (u :: rest) := by
  have htoken := h.tokenAt_eq
  rw [← htoken] at ht
  have htake := take_of_kind ht
  rw [htoken] at htake
  exact ⟨_, htake, h.looked.advanced⟩

/-- The token that ends the template stays where it is. -/
theorem Cursor.At.take_end {rest : List Token} {t : Token} (h : c.At tokens (t :: rest))
    (ht : t.kind = .endOfTemplate) :
    take tokens c = some (.ok t, c.noting (.looked c.place)) := by
  rw [take, look_bind, h.tokenAt_eq, if_neg (by simp [ht])]
  rfl

theorem Cursor.At.unexpected_eq {rest : List Token} {t : Token} (h : c.At tokens (t :: rest))
    (expected : Expectation) : (unexpected expected : Run α) tokens c =
      some (.error ⟨.unexpected t.kind t.literal expected, t.pos⟩, c.noting (.looked c.place)) := by
  rw [unexpected, look_bind, h.tokenAt_eq]
  rfl

theorem noted_of_ok {name : α → Nat → Nat → Note} {m : Run α} {x : α}
    (h : m tokens c = some (.ok x, d)) :
    noted name m tokens c = some (.ok x, d.noting (name x c.place d.place)) := by
  have hhere : here tokens c = some (.ok c.place, c) := rfl
  rw [noted, bind_of_ok hhere, bind_of_ok h]
  rfl

theorem noted_of_error {name : α → Nat → Nat → Note} {m : Run α}
    (h : m tokens c = some (.error e, d)) : noted name m tokens c = some (.error e, d) := by
  have hhere : here tokens c = some (.ok c.place, c) := rfl
  rw [noted, bind_of_ok hhere, bind_of_error h]

variable {loop : Round} {body : σ → Run (σ ⊕ α)} {n : Nat} {s next : σ}

theorem rounds_of_inr {x : α} (h : body s tokens c = some (.ok (.inr x), d)) :
    rounds loop body (n + 1) s tokens c = some (.ok x, d) := by
  have hhere : here tokens c = some (.ok c.place, c) := rfl
  rw [rounds, bind_of_ok hhere, bind_of_ok h]
  rfl

theorem rounds_of_inl (h : body s tokens c = some (.ok (.inl next), d)) :
    rounds loop body (n + 1) s tokens c =
      rounds loop body n next tokens (d.noting (.round loop c.place d.place)) := by
  have hhere : here tokens c = some (.ok c.place, c) := rfl
  rw [rounds, bind_of_ok hhere, bind_of_ok h]
  rfl

theorem rounds_of_error (h : body s tokens c = some (.error e, d)) :
    rounds loop body (n + 1) s tokens c = some (.error e, d) := by
  have hhere : here tokens c = some (.ok c.place, c) := rfl
  rw [rounds, bind_of_ok hhere, bind_of_error h]

variable {goesOn : Token → Bool} {step : σ → Run σ}

theorem roundsWhile_leave (h : goesOn (tokenAt tokens c.place) = false) :
    roundsWhile loop goesOn step (n + 1) s tokens c = some (.ok s, c.noting (.looked c.place)) := by
  refine rounds_of_inr ?_
  rw [look_bind, h]
  rfl

theorem roundsWhile_again (h : goesOn (tokenAt tokens c.place) = true)
    (hs : step s tokens (c.noting (.looked c.place)) = some (.ok next, d)) :
    roundsWhile loop goesOn step (n + 1) s tokens c =
      roundsWhile loop goesOn step n next tokens (d.noting (.round loop c.place d.place)) := by
  refine rounds_of_inl ?_
  rw [look_bind, if_pos h, bind_of_ok hs]
  rfl

theorem roundsWhile_error (h : goesOn (tokenAt tokens c.place) = true)
    (hs : step s tokens (c.noting (.looked c.place)) = some (.error e, d)) :
    roundsWhile loop goesOn step (n + 1) s tokens c = some (.error e, d) := by
  refine rounds_of_error ?_
  rw [look_bind, if_pos h, bind_of_error hs]

end Run

/-! ### Routines and readers -/

def lineEnd (stop : Position) : Token := ⟨.endOfLine, "", stop⟩

/-- The first of the words, or the end of the line. -/
def front (stop : Position) (ws : List Token) : Token := ws.headD (lineEnd stop)

section Follows

variable {α β σ : Type}

/-- What comes of a run at the words `ws` of a line that ends at `stop`, for what a reader makes of
these words. At least `least` of them are taken. -/
inductive Ends (tokens more : List Token) (stop : Position) (least : Nat) (ws : List Token) :
    Option (Except SyntaxError α × Cursor) → Except Refusal (α × List Token) → Prop
  | ok {x : α} {rest : List Token} {d : Cursor} :
      d.At tokens (rest ++ lineEnd stop :: more) → rest <:+ ws → rest.length + least ≤ ws.length →
      Ends tokens more stop least ws (some (.ok x, d)) (.ok (x, rest))
  | error {r : Refusal} {d : Cursor} :
      d.Sound tokens → Ends tokens more stop least ws (some (.error (r.on stop), d)) (.error r)

/-- Wherever the words are the rest of a line, the routine does what the reader makes of them. -/
def Follows (stop : Position) (least : Nat) (m : Run α) (ws : List Token)
    (out : Except Refusal (α × List Token)) : Prop :=
  AllWords ws → ∀ tokens more c, c.At tokens (ws ++ lineEnd stop :: more) →
    Ends tokens more stop least ws (m tokens c) out

variable {stop : Position} {least : Nat} {ws rest : List Token} {t : Token} {m : Run α} {x : α}
  {r : Refusal} {out : Except Refusal (α × List Token)}

@[simp] theorem front_cons (stop : Position) (t : Token) (ws : List Token) :
    front stop (t :: ws) = t := rfl

theorem exists_front (stop : Position) (ws more : List Token) :
    ∃ left, ws ++ lineEnd stop :: more = front stop ws :: left := by
  cases ws with
  | nil => exact ⟨more, rfl⟩
  | cons t ws => exact ⟨_, rfl⟩

theorem kind_ne_of_word (h : t.kind.isWord = true) :
    t.kind ≠ .endOfLine ∧ t.kind ≠ .endOfTemplate := by
  constructor <;>
  · intro hk
    rw [hk] at h
    cases h

theorem Follows.intro (h : AllWords ws → Follows stop least m ws out) :
    Follows stop least m ws out := fun hw => h hw hw

theorem Follows.weaken (h : Follows stop least m ws out) : Follows stop 0 m ws out := by
  intro hw tokens more c hc
  have hm := h hw tokens more c hc
  generalize m tokens c = run at hm
  cases hm with
  | ok hd hs hl => exact .ok hd hs (Nat.le_of_add_right_le hl)
  | error hd => exact .error hd

theorem follows_return : Follows stop 0 (pure x) ws (.ok (x, ws)) :=
  fun _ _ _ _ hc => .ok hc (List.suffix_refl ws) (Nat.le_refl _)

theorem follows_throw {e : SyntaxError} (h : r.on stop = e) :
    Follows stop least (throw e : Run α) ws (.error r) := by
  intro _ tokens more c hc
  rw [← h]
  exact .error hc.sound

theorem Follows.bind {f : α → Run β} {g : α × List Token → Except Refusal (β × List Token)}
    (h : Follows stop least m ws out)
    (hf : ∀ x rest, out = .ok (x, rest) → rest.length + least ≤ ws.length →
      Follows stop 0 (f x) rest (g (x, rest))) :
    Follows stop least (m >>= f) ws (out >>= g) := by
  intro hw tokens more c hc
  have hm := h hw tokens more c hc
  generalize he : m tokens c = run at hm
  cases hm with
  | error hd =>
    rw [bind_of_error he]
    exact .error hd
  | @ok x rest d hd hs hl =>
    rw [bind_of_ok he]
    have hn := hf x rest rfl hl (fun t ht => hw t (hs.subset ht)) tokens more d hd
    show Ends tokens more stop least ws _ (g (x, rest))
    generalize f x tokens d = run at hn
    generalize g (x, rest) = out at hn
    cases hn with
    | error hd => exact .error hd
    | ok hd hs' hl' => exact .ok hd (hs'.trans hs) (by omega)

theorem Follows.map {f : α → β} (h : Follows stop least m ws out) :
    Follows stop least (do
      let x ← m
      return f x) ws (out.map (Prod.map f id)) := by
  have hmap : out.map (Prod.map f id) = out >>= fun read => .ok (f read.1, read.2) := by
    cases out <;> rfl
  rw [hmap]
  exact h.bind fun x rest _ _ => follows_return

/-- Behind an error nothing is done. -/
theorem Follows.fails {f : α → Run β} (h : Follows stop least m ws (.error r)) :
    Follows stop least (m >>= f) ws (.error r) := by
  intro hw tokens more c hc
  have hm := h hw tokens more c hc
  generalize he : m tokens c = run at hm
  cases hm with
  | error hd =>
    rw [bind_of_error he]
    exact .error hd

theorem Follows.look {f : Token → Run α} (h : Follows stop least (f (front stop ws)) ws out) :
    Follows stop least (look >>= f) ws out := by
  intro hw tokens more c hc
  obtain ⟨left, he⟩ := exists_front stop ws more
  have hat := hc
  rw [he] at hat
  rw [look_bind, hat.tokenAt_eq]
  exact h hw tokens more _ hc.looked

theorem follows_take : Follows stop 1 take (t :: ws) (.ok (t, ws)) := by
  intro hw tokens more c hc
  obtain ⟨left, he⟩ := exists_front stop ws more
  have hat := hc
  rw [List.cons_append, he] at hat
  obtain ⟨d, htake, hd⟩ := hat.exists_take (kind_ne_of_word (hw t List.mem_cons_self)).2
  rw [htake]
  rw [← he] at hd
  exact .ok hd (List.suffix_cons t ws) (Nat.le_refl _)

theorem Follows.take {f : Token → Run α} (h : Follows stop 0 (f t) ws out) :
    Follows stop 1 (take >>= f) (t :: ws) out := by
  refine @Follows.bind _ _ _ _ _ _ _ f (fun _ => out) follows_take fun x rest hx _ => ?_
  cases hx
  exact h

theorem follows_unexpected (expected : Expectation) :
    Follows stop least (unexpected expected : Run α) ws (Reader.refuse expected ws) := by
  refine .look ?_
  cases ws with
  | nil => exact follows_throw rfl
  | cons t ws => exact follows_throw rfl

theorem follows_expect {kind : Token.Kind} (expected : Expectation) (hk : kind ≠ .endOfLine) :
    Follows stop 1 (expect kind expected) ws (Reader.ofKind kind expected ws) := by
  refine .look ?_
  cases ws with
  | nil =>
    rw [if_neg (show (front stop []).kind ≠ kind from hk.symm)]
    exact follows_unexpected expected
  | cons t ws =>
    by_cases h : t.kind = kind
    · simp only [front_cons, h, Reader.ofKind, if_true]
      exact follows_take
    · simp only [front_cons, h, Reader.ofKind, if_false]
      exact follows_unexpected expected

/-- A note of a routine that takes a word is in order. -/
theorem Follows.routine (name : Routine) (h : Follows stop 1 m ws out) :
    Follows stop 1 (routine name m) ws out := by
  intro hw tokens more c hc
  have hm := h hw tokens more c hc
  rw [Descent.routine]
  generalize he : m tokens c = run at hm
  cases hm with
  | error hd =>
    rw [noted_of_error he]
    exact .error hd
  | @ok x rest d hd hs hl =>
    have hlt : c.place < d.place := hc.lt_place hd (by
      simp only [List.length_append, List.length_cons]
      omega)
    rw [noted_of_ok he]
    exact .ok (hd.noting ⟨hd.sound.place_lt, .inl hlt⟩ rfl) hs hl

/-- What is left of the words: there is a template in which the routine is at them. -/
theorem Follows.leaves (h : Follows stop least m ws (.ok (x, rest))) (hw : AllWords ws) :
    rest <:+ ws ∧ rest.length + least ≤ ws.length := by
  have hm := h hw (ws ++ [lineEnd stop]) [] .start ⟨Cursor.sound_start (by simp), rfl⟩
  generalize m (ws ++ [lineEnd stop]) .start = run at hm
  cases hm with
  | ok _ hs hl => exact ⟨hs, hl⟩

section Rounds

variable {loop : Round} {goesOn : Token → Bool} {body : σ → Run σ} {n : Nat} {s : σ}

theorem follows_leave (h : goesOn (front stop ws) = false) :
    Follows stop 0 (roundsWhile loop goesOn body (n + 1) s) ws (.ok (s, ws)) := by
  intro _ tokens more c hc
  obtain ⟨left, he⟩ := exists_front stop ws more
  have hat := hc
  rw [he] at hat
  rw [← hat.tokenAt_eq] at h
  rw [roundsWhile_leave h]
  exact .ok hc.looked (List.suffix_refl ws) (Nat.le_refl _)

theorem Follows.again {out : Except Refusal (σ × List Token)}
    {g : σ × List Token → Except Refusal (σ × List Token)} (h : goesOn (front stop ws) = true)
    (hb : Follows stop 1 (body s) ws out)
    (hg : ∀ next rest, out = .ok (next, rest) →
      Follows stop 0 (roundsWhile loop goesOn body n next) rest (g (next, rest))) :
    Follows stop 0 (roundsWhile loop goesOn body (n + 1) s) ws (out >>= g) := by
  intro hw tokens more c hc
  obtain ⟨left, he⟩ := exists_front stop ws more
  have hat := hc
  rw [he] at hat
  rw [← hat.tokenAt_eq] at h
  have hm := hb hw tokens more _ hc.looked
  generalize hrun : body s tokens _ = run at hm
  cases hm with
  | error hd =>
    rw [roundsWhile_error h hrun]
    exact .error hd
  | @ok next rest d hd hs hl =>
    have hlt : c.place < d.place := hc.lt_place hd (by
      simp only [List.length_append, List.length_cons]
      omega)
    have hround : (d.noting (.round loop c.place d.place)).At tokens
        (rest ++ lineEnd stop :: more) := hd.noting ⟨hd.sound.place_lt, hlt⟩ rfl
    have hn := hg next rest rfl (fun t ht => hw t (hs.subset ht)) tokens more _ hround
    rw [roundsWhile_again h hrun]
    show Ends tokens more stop 0 ws _ (g (next, rest))
    generalize roundsWhile loop goesOn body n next tokens _ = run at hn
    generalize g (next, rest) = out at hn
    cases hn with
    | error hd => exact .error hd
    | ok hd hs' hl' => exact .ok hd (hs'.trans hs) (by omega)

/-- A loop whose rounds each take a word comes to an end at the words of a line. What it makes of
them is shown round by round. -/
theorem exists_follows_roundsWhile
    (Makes : σ → List Token → Except Refusal (σ × List Token) → Prop)
    {limit : Nat} (leave : ∀ s ws, goesOn (front stop ws) = false → Makes s ws (.ok (s, ws)))
    (again : ∀ s ws, AllWords ws → ws.length < limit → goesOn (front stop ws) = true →
      ∃ out, Follows stop 1 (body s) ws out ∧
        ∀ g, (∀ next rest, out = .ok (next, rest) → rest.length < ws.length ∧
          Makes next rest (g (next, rest))) → Makes s ws (out >>= g))
    (hw : AllWords ws) (hl : ws.length < limit) (hn : ws.length < n) :
    ∃ out, Follows stop 0 (roundsWhile loop goesOn body n s) ws out ∧ Makes s ws out := by
  induction n generalizing s ws with
  | zero => exact absurd hn (Nat.not_lt_zero _)
  | succ n ih =>
    cases h : goesOn (front stop ws) with
    | false => exact ⟨_, follows_leave h, leave s ws h⟩
    | true =>
      obtain ⟨out, hb, hmakes⟩ := again s ws hw hl h
      cases out with
      | error r =>
        have hm := hmakes (fun _ => .error r) fun next rest hx => by cases hx
        exact ⟨_, hb.again h (fun next rest hx => by cases hx), hm⟩
      | ok pair =>
        obtain ⟨next, rest⟩ := pair
        obtain ⟨hs, hless⟩ := hb.leaves hw
        have hrest : AllWords rest := fun t ht => hw t (hs.subset ht)
        obtain ⟨out, hf, hm⟩ := @ih rest next hrest (by omega) (by omega)
        refine ⟨_, @Follows.again _ _ _ _ _ _ _ _ _ (fun _ => out) h hb ?_,
          hmakes (fun _ => out) ?_⟩
        · rintro next rest ⟨⟩
          exact hf
        · rintro next rest ⟨⟩
          exact ⟨hless, hm⟩

/-- The same where the words say by a function what the loop makes of them. -/
theorem follows_roundsWhile (makes : σ → List Token → Except Refusal (σ × List Token))
    (leave : ∀ s ws, goesOn (front stop ws) = false → makes s ws = .ok (s, ws))
    (again : ∀ s ws, goesOn (front stop ws) = true → ∃ out, Follows stop 1 (body s) ws out ∧
      makes s ws = out >>= fun (next, rest) => makes next rest) (hn : ws.length < n) :
    Follows stop 0 (roundsWhile loop goesOn body n s) ws (makes s ws) := by
  refine .intro fun hw => ?_
  have hround : ∃ out, Follows stop 0 (roundsWhile loop goesOn body n s) ws out ∧
      makes s ws = out := by
    refine exists_follows_roundsWhile (fun s ws out => makes s ws = out) leave ?_ hw hn hn
    intro s ws _ _ h
    obtain ⟨out, hb, he⟩ := again s ws h
    refine ⟨out, hb, fun g hg => ?_⟩
    rw [he]
    cases out with
    | error r => rfl
    | ok pair => exact (hg _ _ rfl).2
  obtain ⟨out, hf, rfl⟩ := hround
  exact hf

end Rounds

end Follows

end Descent

end LineTemplate
