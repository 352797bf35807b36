import Mathlib
import LineTemplate.Proofs.Cursors
import LineTemplate.Proofs.Headers

/-!
# Routines at the words of a line

Every routine for a part of a directive line follows the reader of that part. The bound is not met
when it is above the number of words.
-/

namespace LineTemplate

open Token (AllWords)

namespace Descent

variable {stop : Position} {ws : List Token}

theorem stops_of_front {goesOn : Token.Kind → Bool} (h : goesOn (front stop ws).kind = false) :
    Reader.Stops goesOn ws := by
  cases ws with
  | nil => exact Reader.stops_nil
  | cons t ws => exact Reader.stops_cons.2 h

section Behind

variable {α : Type} (xs ys : List α) (x : Except Refusal (List α × List Token))

/-- A list that is read behind `xs`. -/
def behind : Except Refusal (List α × List Token) := x.map (Prod.map (xs ++ ·) id)

theorem behind_nil : behind [] x = x := by
  cases x <;> rfl

theorem behind_behind : behind xs (behind ys x) = behind (xs ++ ys) x := by
  cases x with
  | error r => rfl
  | ok pair => simp [behind, Except.map, Prod.map]

theorem behind_ok (rest : List Token) : behind xs (.ok ([], rest)) = .ok (xs, rest) := by
  simp [behind, Except.map]

end Behind

/-! ### Operands -/

theorem follows_literal : Follows stop 1 literal ws (Reader.literal ws) := by
  refine .routine _ (.look ?_)
  cases ws with
  | nil => exact follows_unexpected .literal
  | cons t ws =>
    rw [front_cons, Reader.literal]
    cases Reader.literal? t with
    | none => exact follows_unexpected .literal
    | some l => exact .take follows_return

/-- The literals behind the first one. -/
def moreLiterals : Reader (List Literal)
  | c :: rest => if c.kind = .comma then Reader.literals rest else .ok ([], c :: rest)
  | [] => .ok ([], [])

theorem literals_eq (ws : List Token) : Reader.literals ws =
    Reader.literal ws >>= fun read => behind [read.1] (moreLiterals read.2) := by
  match ws with
  | [] => rfl
  | [t] =>
    simp only [Reader.literals, Reader.literal]
    cases Reader.literal? t <;> rfl
  | t :: c :: rest =>
    simp only [Reader.literals, Reader.literal]
    cases Reader.literal? t with
    | none => rfl
    | some l =>
      simp only [bind, Except.bind, moreLiterals]
      split
      · cases Reader.literals rest <;> rfl
      · rfl

theorem follows_moreLiterals {n : Nat} (ls : List Literal) (hn : ws.length < n) :
    Follows stop 0 (roundsWhile .literals (·.kind = .comma) nextLiteral n ls) ws
      (behind ls (moreLiterals ws)) := by
  refine follows_roundsWhile (fun ls ws => behind ls (moreLiterals ws)) ?leave ?again hn
  case leave =>
    intro ls ws h
    have hmore : moreLiterals ws = .ok ([], ws) := by
      cases ws with
      | nil => rfl
      | cons c rest => exact if_neg (of_decide_eq_false h)
    rw [hmore, behind_ok]
  case again =>
    intro ls ws h
    cases ws with
    | nil => cases of_decide_eq_true h
    | cons c rest =>
      have hmore : moreLiterals (c :: rest) = Reader.literals rest :=
        if_pos (of_decide_eq_true h)
      refine ⟨_, .take (.weaken follows_literal.map), ?_⟩
      rw [hmore, literals_eq]
      cases Reader.literal rest with
      | error r => rfl
      | ok read => exact behind_behind ls [read.1] _

theorem follows_literals {n : Nat} (hn : ws.length < n) :
    Follows stop 1 (literals n) ws (Reader.literals ws) := by
  rw [literals_eq]
  refine .routine _ (follows_literal.bind fun l rest _ hl => ?_)
  exact follows_moreLiterals [l] (by omega)

/-! ### Paths -/

theorem index_place {t : Token} {digits : List Char} {r : Refusal}
    (h : Reader.index t digits = .error r) : r.place = some t.pos := by
  unfold Reader.index at h
  split at h <;> cases h
  rfl

theorem dotted_place {t : Token} {r : Refusal} (h : Reader.dotted t = .error r) :
    r.place = some t.pos := by
  unfold Reader.dotted at h
  split at h
  · cases h
  · split at h
    · rcases bind_eq_error.1 h with h | ⟨_, _, h⟩
      · exact index_place h
      · cases h
    · rcases bind_eq_error.1 h with h | ⟨_, _, h⟩
      · exact index_place h
      · rcases bind_eq_error.1 h with h | ⟨_, _, h⟩
        · exact index_place h
        · cases h
  · cases h
    rfl

theorem bracketed_place {t : Token} {r : Refusal} (h : Reader.bracketed t = .error r) :
    r.place = some t.pos := by
  unfold Reader.bracketed at h
  split at h
  · exact index_place h
  · cases h
  · cases h
    rfl

section Accept

variable {α β : Type} {t : Token} {x : Except Refusal α} {f : α → Run β}

theorem follows_accept_error {r r' : Refusal} (hx : x = .error r') (h : r.on stop = r'.on t.pos) :
    Follows stop 0 (accept t x >>= f) ws (.error r) := by
  rw [hx]
  exact .fails (follows_throw h)

/-- A token of which something is made is taken. -/
theorem follows_accept {g : α → Except Refusal (β × List Token)}
    (hx : ∀ r, x = .error r → r.place = some t.pos) (hf : ∀ a, Follows stop 0 (f a) ws (g a)) :
    Follows stop 0 (do
      let a ← accept t x
      let _ ← take
      f a) (t :: ws) (x >>= g) := by
  cases x with
  | ok a => exact .weaken (.take (hf a))
  | error r =>
    refine follows_accept_error rfl ?_
    rw [Refusal.on, Refusal.on, hx r rfl]
    rfl

end Accept

theorem follows_nextSteps {t : Token} (steps : List Segment) (h : isStep t = true) :
    ∃ out, Follows stop 1 (nextSteps steps) (t :: ws) out ∧
      behind steps (Reader.segments (t :: ws)) =
        out >>= fun read => behind read.1 (Reader.segments read.2) := by
  by_cases hd : t.kind = .dot
  · cases ws with
    | nil =>
      refine ⟨Reader.refuse .pathSegment [], .take (.look ?_), ?_⟩
      · rw [if_pos hd]
        exact follows_accept_error rfl rfl
      · simp only [Reader.segments, hd, if_true]
        rfl
    | cons s rest =>
      refine ⟨Reader.dotted s >>= fun these => .ok (steps ++ these, rest), .take (.look ?_), ?_⟩
      · rw [if_pos hd]
        exact follows_accept (fun r => dotted_place) fun these => follows_return
      · simp only [Reader.segments, hd, if_true]
        cases Reader.dotted s with
        | error r => rfl
        | ok these => exact behind_behind steps these (Reader.segments rest)
  · have hl : t.kind = .leftBracket := by simpa [isStep, hd] using h
    cases ws with
    | nil =>
      refine ⟨Reader.refuse .indexOrKey [], .take (.look ?_), ?_⟩
      · rw [if_neg hd]
        exact follows_accept_error rfl rfl
      · simp only [Reader.segments, hl, reduceCtorEq, if_false, if_true]
        rfl
    | cons s rest =>
      refine ⟨Reader.bracketed s >>= fun this =>
        Reader.ofKind .rightBracket .rightBracket rest >>= fun read =>
          .ok (steps ++ [this], read.2), .take (.look ?_), ?_⟩
      · rw [if_neg hd]
        refine follows_accept (fun r => bracketed_place) fun this => ?_
        exact .weaken ((follows_expect .rightBracket (by decide)).bind
          fun b left _ _ => follows_return)
      · simp only [Reader.segments, hl, reduceCtorEq, if_false, if_true]
        cases Reader.bracketed s with
        | error r => rfl
        | ok this =>
          cases rest with
          | nil => rfl
          | cons b rest =>
            by_cases hb : b.kind = .rightBracket
            · rw [Reader.ofKind_cons hb]
              simp only [hb, if_true]
              exact behind_behind steps [this] (Reader.segments rest)
            · simp only [Reader.ofKind, hb, if_false]
              rfl

theorem follows_segments {n : Nat} (steps : List Segment) (hn : ws.length < n) :
    Follows stop 0 (roundsWhile .path isStep nextSteps n steps) ws
      (behind steps (Reader.segments ws)) := by
  refine follows_roundsWhile (fun steps ws => behind steps (Reader.segments ws)) ?leave ?again hn
  case leave =>
    intro steps ws h
    have hstops : Reader.Stops Reader.isStep ws := stops_of_front h
    have hnone : Reader.segments ws = .ok ([], ws) := Reader.segments_append .nil hstops
    rw [hnone, behind_ok]
  case again =>
    intro steps ws h
    cases ws with
    | nil => cases h
    | cons t ws => exact follows_nextSteps steps h

theorem follows_path {n : Nat} (hn : ws.length < n) :
    Follows stop 1 (path n) ws (Reader.path ws) := by
  refine .routine _ ((follows_expect .variableName (by decide)).bind fun root rest _ hl => ?_)
  have hsteps := @follows_segments stop rest n [] (by omega)
  rw [behind_nil] at hsteps
  exact hsteps.bind fun steps left _ _ => follows_return

/-! ### Operands -/

theorem follows_arguments {n : Nat} (hn : ws.length < n) :
    Follows stop 0 (arguments n) ws (Reader.arguments ws) := by
  refine .look ?_
  match ws with
  | [] => exact follows_return
  | [l] =>
    rw [Reader.arguments, front_cons]
    split
    · next hl =>
      have hargs : Follows stop 1 (literals n) [] (Reader.refuse .literal []) :=
        follows_literals (Nat.zero_lt_of_lt hn)
      exact .weaken (.take (.look (.weaken hargs.fails)))
    · exact follows_return
  | l :: r :: rest =>
    rw [Reader.arguments, front_cons]
    split
    · refine .weaken (.take (.look ?_))
      rw [front_cons]
      split
      · exact .weaken (.take follows_return)
      · have hargs : Follows stop 1 (literals n) (r :: rest) (Reader.literals (r :: rest)) :=
          follows_literals (by simp only [List.length_cons] at hn ⊢; omega)
        refine .weaken (hargs.bind fun args left _ _ => ?_)
        exact .weaken ((follows_expect .commaOrRightParen (by decide)).bind
          fun b left _ _ => follows_return)
    · exact follows_return

/-- A call behind its pipe. -/
def pipeCall : Reader PipeCall := fun ws =>
  Reader.ofKind .identifier .pipeName ws >>= fun name =>
    Reader.arguments name.2 >>= fun args => .ok (⟨name.1.literal, args.1, name.1.pos⟩, args.2)

theorem follows_nextPipe {n : Nat} {t : Token} (calls : List PipeCall) (hn : ws.length < n) :
    Follows stop 1 (nextPipe n calls) (t :: ws)
      ((pipeCall ws).map (Prod.map (fun call => calls ++ [call]) id)) := by
  have hcalls : (pipeCall ws).map (Prod.map (fun call => calls ++ [call]) id) =
      Reader.ofKind .identifier .pipeName ws >>= fun name =>
        (Reader.arguments name.2).map
          (Prod.map (fun args => calls ++ [⟨name.1.literal, args, name.1.pos⟩]) id) := by
    rw [pipeCall]
    cases Reader.ofKind .identifier .pipeName ws with
    | error r => rfl
    | ok name =>
      simp only [bind, Except.bind]
      cases Reader.arguments name.2 <;> rfl
  rw [hcalls]
  refine .take (.weaken ((follows_expect .pipeName (by decide)).bind fun name rest _ hl => ?_))
  have hargs : Follows stop 0 (arguments n) rest (Reader.arguments rest) :=
    follows_arguments (by omega)
  exact hargs.map

theorem pipesWithin_cons {t : Token} (ht : t.kind = .pipe) (limit : Nat) :
    Reader.pipesWithin (limit + 1) (t :: ws) =
      pipeCall ws >>= fun read => behind [read.1] (Reader.pipesWithin limit read.2) := by
  simp only [Reader.pipesWithin, ht, if_true, pipeCall]
  cases Reader.ofKind .identifier .pipeName ws with
  | error r => rfl
  | ok name =>
    simp only [bind, Except.bind]
    cases Reader.arguments name.2 with
    | error r => rfl
    | ok args =>
      simp only
      cases Reader.pipesWithin limit args.2 <;> rfl

theorem pipesWithin_of_front (h : (front stop ws).kind ≠ .pipe) (limit : Nat) :
    Reader.pipesWithin limit ws = .ok ([], ws) := by
  cases limit with
  | zero => rfl
  | succ limit =>
    cases ws with
    | nil => rfl
    | cons t rest => exact if_neg h

theorem follows_pipes {n : Nat} (hn : ws.length < n) :
    Follows stop 0 (pipes n) ws (Reader.pipes ws) := by
  refine .intro fun hw => ?_
  -- The reader counts its pipes down; what it makes of the words is the same from every count on.
  have hpipes : ∃ out, Follows stop 0 (pipes n) ws out ∧
      ∀ limit, ws.length ≤ limit → behind [] (Reader.pipesWithin limit ws) = out := by
    refine exists_follows_roundsWhile (fun calls ws out => ∀ limit, ws.length ≤ limit →
      behind calls (Reader.pipesWithin limit ws) = out) ?leave ?again hw hn hn
    case leave =>
      intro calls ws h limit _
      rw [pipesWithin_of_front (of_decide_eq_false h), behind_ok]
    case again =>
      intro calls ws hw hn h
      cases ws with
      | nil => cases of_decide_eq_true h
      | cons t rest =>
        have ht : t.kind = .pipe := of_decide_eq_true h
        refine ⟨_, follows_nextPipe calls (Nat.lt_of_succ_lt hn), fun g hg limit hl => ?_⟩
        obtain ⟨limit, rfl⟩ := Nat.exists_eq_add_of_le' (Nat.le_of_add_left_le hl)
        rw [pipesWithin_cons ht]
        cases hcall : pipeCall rest with
        | error r => rfl
        | ok read =>
          obtain ⟨hless, hmore⟩ := hg (calls ++ [read.1]) read.2 (by rw [hcall]; rfl)
          have hnext := hmore limit (by simp only [List.length_cons] at hl hless; omega)
          exact (behind_behind calls [read.1] _).trans hnext
  obtain ⟨out, hf, hout⟩ := hpipes
  have hread := hout ws.length (Nat.le_refl _)
  rw [behind_nil] at hread
  rw [Reader.pipes, hread]
  exact hf

theorem follows_term {n : Nat} (hn : ws.length < n) :
    Follows stop 1 (term n) ws (Reader.term ws) := by
  refine .look ?_
  cases ws with
  | nil => exact follows_unexpected .operand
  | cons t rest =>
    rw [front_cons, Reader.term]
    split
    · have hpath : Follows stop 1 (path n) rest (Reader.path rest) :=
        follows_path (Nat.lt_of_succ_lt hn)
      exact .take (.weaken (hpath.bind fun p left _ _ => follows_return))
    · cases hl : Reader.literal? t with
      | none => exact follows_unexpected .operand
      | some l =>
        have hread : Reader.literal (t :: rest) = .ok (l, rest) := by
          simp only [Reader.literal, hl]
        have hliteral : Follows stop 1 literal (t :: rest) (.ok (l, rest)) := by
          rw [← hread]
          exact follows_literal
        exact hliteral.map

theorem follows_operand {n : Nat} (hn : ws.length < n) :
    Follows stop 1 (operand n) ws (Reader.operand ws) := by
  refine .routine _ (.look ?_)
  cases ws with
  | nil =>
    have hterm : Follows stop 1 (term n) [] (Reader.refuse .operand []) := follows_term hn
    exact hterm.fails
  | cons t rest =>
    refine (follows_term hn).bind fun term after _ hl => ?_
    have hpipes : Follows stop 0 (pipes n) after (Reader.pipes after) := follows_pipes (by omega)
    exact hpipes.bind fun calls left _ _ => follows_return

/-! ### Connectives -/

theorem follows_unary {inner : Run Expr} {reader : Reader Expr} {n limit : Nat}
    (hinner : ∀ more, more.length < ws.length → Follows stop 1 inner more (reader more))
    (hn : ws.length < n) (hl : ws.length < limit) :
    Follows stop 1 (unary inner n limit) ws (Reader.unary reader ws) := by
  induction limit generalizing ws with
  | zero => exact absurd hl (Nat.not_lt_zero _)
  | succ limit ih =>
    refine .routine _ (.look ?_)
    cases ws with
    | nil =>
      have hoperand : Follows stop 1 (operand n) [] (Reader.refuse .operand []) :=
        follows_operand hn
      exact hoperand.fails
    | cons t rest =>
      rw [Reader.unary, front_cons]
      split
      · have hrest : Follows stop 1 (unary inner n limit) rest (Reader.unary reader rest) :=
          ih (fun more hm => hinner more (Nat.lt_succ_of_lt hm)) (Nat.lt_of_succ_lt hn)
            (Nat.lt_of_succ_lt_succ hl)
        exact .take (.weaken (hrest.bind fun e left _ _ => follows_return))
      · split
        · refine .take (.weaken ((hinner rest (Nat.lt_succ_self _)).bind fun e left _ _ => ?_))
          exact .weaken ((follows_expect .rightParen (by decide)).bind
            fun b left _ _ => follows_return)
        · exact (follows_operand hn).bind fun o left _ _ => follows_return

theorem follows_comparison {side : Run Expr} {reader : Reader Expr}
    (hside : ∀ more, more.length ≤ ws.length → Follows stop 1 side more (reader more)) :
    Follows stop 1 (comparison side) ws (Reader.comparison reader ws) := by
  refine .routine _ ((hside ws (Nat.le_refl _)).bind fun left rest _ hl => .look ?_)
  cases rest with
  | nil => exact follows_return
  | cons t after =>
    rw [front_cons]
    cases hc : Reader.comparator? t.kind with
    | none =>
      simp only [hc]
      exact follows_return
    | some c =>
      simp only [hc]
      refine .weaken (.take (.weaken ((hside after ?_).bind fun right rest _ _ => follows_return)))
      simp only [List.length_cons] at hl
      omega

section Chain

variable {part : Run Expr} {reader : Reader Expr} {connective : Token.Kind}
  {join : Expr → Expr → Expr} {loop : Round} {n : Nat}

theorem chainWithin_cons {t : Token} (ht : t.kind = connective) (limit : Nat) (left : Expr) :
    Reader.chainWithin reader connective join (limit + 1) left (t :: ws) =
      reader ws >>= fun read =>
        Reader.chainWithin reader connective join limit (join left read.1) read.2 := by
  simp only [Reader.chainWithin, ht, if_true]

theorem chainWithin_of_front (h : (front stop ws).kind ≠ connective) (limit : Nat) (left : Expr) :
    Reader.chainWithin reader connective join limit left ws = .ok (left, ws) := by
  cases limit with
  | zero => rfl
  | succ limit =>
    cases ws with
    | nil => rfl
    | cons t rest => exact if_neg h

theorem follows_chain (hc : connective ≠ .endOfLine)
    (hpart : ∀ more, more.length ≤ ws.length → Follows stop 1 part more (reader more))
    (hn : ws.length < n) :
    Follows stop 1 (chain part connective join loop n) ws
      (Reader.chain reader connective join ws) := by
  refine (hpart ws (Nat.le_refl _)).bind fun first rest _ hl => .intro fun hw => ?_
  -- As with pipes, the count of the reader does not matter when it is high enough.
  have hchain : ∃ out, Follows stop 0
      (roundsWhile loop (·.kind = connective) (nextPart part join) n first) rest out ∧
        ∀ limit, rest.length ≤ limit →
          Reader.chainWithin reader connective join limit first rest = out := by
    refine exists_follows_roundsWhile (fun left ws out => ∀ limit, ws.length ≤ limit →
      Reader.chainWithin reader connective join limit left ws = out) ?leave ?again hw
      (show rest.length < ws.length by omega) (by omega)
    case leave =>
      intro left ws h limit _
      exact chainWithin_of_front (of_decide_eq_false h) limit left
    case again =>
      intro left ws hw hn h
      cases ws with
      | nil => exact absurd (of_decide_eq_true h).symm hc
      | cons t rest =>
        have ht : t.kind = connective := of_decide_eq_true h
        have hright : Follows stop 1 part rest (reader rest) :=
          hpart rest (Nat.le_of_lt (Nat.lt_of_succ_lt hn))
        refine ⟨_, .take (.weaken hright.map), fun g hg limit hl => ?_⟩
        obtain ⟨limit, rfl⟩ := Nat.exists_eq_add_of_le' (Nat.le_of_add_left_le hl)
        rw [chainWithin_cons ht]
        cases hread : reader rest with
        | error r => rfl
        | ok read =>
          obtain ⟨hless, hmore⟩ := hg (join left read.1) read.2 (by rw [hread]; rfl)
          exact hmore limit (by simp only [List.length_cons] at hl hless; omega)
  obtain ⟨out, hf, hout⟩ := hchain
  rw [← hout rest.length (Nat.le_refl _)] at hf
  exact hf

end Chain

theorem follows_expressionWithin {n depth : Nat} (hn : ws.length < n) (hd : ws.length < depth) :
    Follows stop 1 (expression n) ws (Reader.expressionWithin depth ws) := by
  induction n generalizing ws depth with
  | zero => exact absurd hn (Nat.not_lt_zero _)
  | succ n ih =>
    cases depth with
    | zero => exact absurd hd (Nat.not_lt_zero _)
    | succ depth =>
      refine .routine _ (follows_chain (by decide) (fun ws' h' => .routine _
        (follows_chain (by decide) (fun ws'' h'' => follows_comparison fun more hm => ?_) ?_)) hn)
      · exact follows_unary (fun inside hi => ih (by omega) (by omega)) (by omega) (by omega)
      · omega

theorem follows_expression {n : Nat} (hn : ws.length < n) :
    Follows stop 1 (expression n) ws (Reader.expression ws) :=
  follows_expressionWithin hn (Nat.lt_succ_self _)

/-! ### Directive lines -/

theorem follows_binding (expected : Expectation) :
    Follows stop 1 (binding expected) ws (Reader.binding expected ws) :=
  (follows_expect expected (by decide)).bind fun name rest _ _ => follows_return

theorem follows_index? : Follows stop 0 index? ws (Reader.index? ws) := by
  refine .look ?_
  cases ws with
  | nil => exact follows_return
  | cons t rest =>
    rw [Reader.index?, front_cons]
    split
    · exact .weaken (.take (.weaken ((follows_binding .indexName).bind
        fun index left _ _ => follows_return)))
    · exact follows_return

theorem follows_word (w : String) (expected : Expectation) :
    Follows stop 0 (word w expected) ws (Reader.word w expected ws) := by
  refine .look ?_
  cases ws with
  | nil => exact follows_unexpected expected
  | cons t rest =>
    rw [Reader.word, front_cons]
    split
    · exact .weaken (.take follows_return)
    · exact follows_unexpected expected

theorem slot_eq (l : Loop) (t : Token) :
    Reader.slot l t = if isOption t then some (setting l t.literal) else none := by
  unfold Reader.slot isOption setting
  by_cases hk : t.kind = .identifier
  · simp only [hk, ne_eq, not_true, if_false, decide_true, Bool.true_and, Bool.or_eq_true,
      decide_eq_true_eq]
    split
    · next hw => simp only [hw, true_or, if_true]
    · next hw =>
      split
      · next hw' => simp only [hw', true_or, or_true, if_true]
      · next hw' => simp only [hw, hw', false_or]
  · simp [hk]

/-- What becomes of a loop behind its options, where the line must end. -/
def atEnd : Loop × List Token → Except Refusal (Loop × List Token)
  | (l, []) => .ok (l, [])
  | (_, t :: rest) => Reader.refuse .loopOption (t :: rest)

theorem follows_nextOption {k : Token} (l : Loop) (h : isOption k = true) :
    ∃ out, Follows stop 1 (nextOption l) (k :: ws) out ∧
      Reader.options l (k :: ws) = out >>= fun read => Reader.options read.1 read.2 := by
  have hslot : Reader.slot l k = some (setting l k.literal) := by
    rw [slot_eq, h]
    rfl
  cases hset : setting l k.literal with
  | mk value set =>
    rw [hset] at hslot
    cases value with
    | some value =>
      refine ⟨.error ⟨.duplicateOption k.literal, some k.pos⟩, .take ?_, ?_⟩
      · simp only [hset, Option.isSome_some, if_true]
        exact follows_throw rfl
      · rw [Reader.options_cons, hslot]
        rfl
    | none =>
      refine ⟨(Reader.ofKind .string .string ws).map (Prod.map (fun v => set v.literal) id),
        .take ?_, ?_⟩
      · simp only [hset, Option.isSome_none, Bool.false_eq_true, if_false]
        exact .weaken (follows_expect .string (by decide)).map
      · rw [Reader.options_cons, hslot]
        cases ws with
        | nil => rfl
        | cons v rest =>
          by_cases hv : v.kind = .string
          · simp only [Reader.ofKind_cons hv, hv, if_true]
            rfl
          · simp only [Reader.ofKind, hv, if_false]
            rfl

theorem follows_options {n : Nat} (l : Loop) (hn : ws.length < n) :
    Follows stop 0 (do
      let l ← roundsWhile .options isOption nextOption n l
      let t ← look
      if t.kind = .endOfLine then return l else unexpected .loopOption) ws
      (Reader.options l ws) := by
  refine .intro fun hw => ?_
  have hoptions : ∃ out, Follows stop 0 (roundsWhile .options isOption nextOption n l) ws out ∧
      Reader.options l ws = out >>= atEnd := by
    refine exists_follows_roundsWhile (fun l ws out => Reader.options l ws = out >>= atEnd)
      ?leave ?again hw hn hn
    case leave =>
      intro l ws h
      cases ws with
      | nil => rfl
      | cons t rest =>
        rw [front_cons] at h
        rw [Reader.options_cons, slot_eq, h]
        rfl
    case again =>
      intro l ws _ _ h
      cases ws with
      | nil => cases h
      | cons k ts =>
        rw [front_cons] at h
        obtain ⟨out, hf, hout⟩ := @follows_nextOption stop ts k l h
        refine ⟨out, hf, fun g hg => ?_⟩
        rw [hout]
        cases out with
        | error r => rfl
        | ok read => exact (hg read.1 read.2 rfl).2
  obtain ⟨out, hf, hout⟩ := hoptions
  rw [hout]
  refine hf.bind fun l rest hx _ => .intro fun hr => .look ?_
  cases rest with
  | nil => exact follows_return
  | cons t rest =>
    rw [front_cons, if_neg (kind_ne_of_word (hr t List.mem_cons_self)).1]
    exact follows_unexpected .loopOption

theorem follows_header {n : Nat} (hn : ws.length < n) :
    Follows stop 1 (header n) ws (Reader.loop ws) := by
  refine (follows_binding .itemName).bind fun item rest _ hitem => ?_
  refine follows_index?.bind fun index rest _ hindex => ?_
  refine (follows_word "of" .sourceWord).bind fun _ rest _ hof => ?_
  have hsource : Follows stop 1 (operand n) rest (Reader.operand rest) :=
    follows_operand (by omega)
  refine .weaken (hsource.bind fun source rest _ hl => ?_)
  exact follows_options ⟨item, index, source, none, none, none⟩ (by omega)

theorem follows_message? : Follows stop 0 message? ws (Reader.message? ws) := by
  refine .look ?_
  cases ws with
  | nil => exact follows_return
  | cons t rest =>
    rw [Reader.message?, front_cons]
    split
    · exact .weaken (.take follows_return)
    · exact follows_return

theorem follows_test {n : Nat} (hn : ws.length < n) :
    Follows stop 1 (test n) ws (Reader.check ws) := by
  refine (follows_expression hn).bind fun e rest _ _ => ?_
  refine .weaken ((follows_expect .messageWord (by decide)).bind fun _ rest _ _ => ?_)
  exact .weaken ((follows_expect .message (by decide)).bind fun message rest _ _ => follows_return)

theorem follows_definition {n : Nat} (hn : ws.length < n) :
    Follows stop 1 (definition n) ws (Reader.definition ws) := by
  refine (follows_binding .variableName).bind fun name rest _ hname => ?_
  refine .weaken ((follows_expect .definition (by decide)).bind fun _ rest _ hsign => ?_)
  have hvalue : Follows stop 1 (expression n) rest (Reader.expression rest) :=
    follows_expression (by omega)
  exact .weaken (hvalue.bind fun value rest _ _ => follows_return)

end Descent

end LineTemplate
