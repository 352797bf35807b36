import LineTemplate.Proofs.Grammar

/-!
# Readers and the grammar

A reader agrees with a rule of the grammar when all that it takes off the front of its words is
what the rule says, and when it takes all of it wherever no word follows that goes on with it.
What it refuses is one of its words or the end of the line.
-/

namespace LineTemplate

/-- The fault is that of the token. No single token is at fault when a block is left open. -/
def Fault.Blames (t : Token) : Fault → Prop
  | .unexpected kind literal _ => t.kind = kind ∧ t.literal = literal
  | .unterminated _ _ => False
  | .misplaced kind _ _ => t.kind = kind
  | .unmatched kind => t.kind = kind
  | .unknownDirective literal => t.kind = .unknown ∧ t.literal = literal
  | .duplicateDefault _ => t.kind = .directive .default
  | .duplicateOption word => t.kind = .identifier ∧ t.literal = word
  | .invalidIndex _ => t.kind = .number

/-- The refusal is of one of these words or of the end of the line. -/
inductive Refusal.Blames (ts : List Token) : Refusal → Prop
  | word {t : Token} {f : Fault} : t ∈ ts → f.Blames t → Blames ts ⟨f, some t.pos⟩
  | stop {expected : Expectation} : Blames ts ⟨.unexpected .endOfLine "" expected, none⟩

namespace Refusal

theorem Blames.mono {r : Refusal} {ts us : List Token} (h : r.Blames ts) (hs : ts ⊆ us) :
    r.Blames us := by
  cases h with
  | word ht hf => exact .word (hs ht) hf
  | stop => exact .stop

theorem blames_refusal (expected : Expectation) {ts us : List Token} (hs : ts ⊆ us) :
    (Reader.refusal expected ts).Blames us := by
  cases ts with
  | nil => exact .stop
  | cons t rest => exact .word (hs List.mem_cons_self) ⟨rfl, rfl⟩

end Refusal

namespace Reader

variable {α β : Type}

/-! ### What readers give -/

/-- What comes of reading the words `ts`: something that fits what is taken off their front, or
the refusal of one of them. -/
inductive Gives (ts : List Token) (Yields : α → List Token → Prop) :
    Except Refusal (α × List Token) → Prop
  | ok {x : α} {used rest : List Token} :
      ts = used ++ rest → Yields x used → Gives ts Yields (.ok (x, rest))
  | error {r : Refusal} : r.Blames ts → Gives ts Yields (.error r)

section Gives

variable {ts : List Token} {P P' : α → List Token → Prop} {Q : β → List Token → Prop}
  {out : Except Refusal (α × List Token)}

theorem Gives.mono (h : Gives ts P out) (hp : ∀ x used, P x used → P' x used) :
    Gives ts P' out := by
  cases h with
  | ok hu hP => exact .ok hu (hp _ _ hP)
  | error hr => exact .error hr

theorem Gives.bind {f : α × List Token → Except Refusal (β × List Token)} (h : Gives ts P out)
    (hf : ∀ x used rest, ts = used ++ rest → P x used →
      Gives rest (fun y more => Q y (used ++ more)) (f (x, rest))) :
    Gives ts Q (out >>= f) := by
  cases h with
  | error hr => exact .error hr
  | @ok x used rest hu hP =>
    have hn := hf x used rest hu hP
    have he : (Except.ok (x, rest) >>= f) = f (x, rest) := rfl
    rw [he]
    generalize f (x, rest) = next at hn
    cases hn with
    | @ok y more left hm hQ =>
      refine .ok ?_ hQ
      rw [hu, hm, List.append_assoc]
    | error hr =>
      refine .error (hr.mono ?_)
      rw [hu]
      exact List.subset_append_right used rest

theorem Gives.cons {t : Token} {out : Except Refusal (α × List Token)}
    (h : Gives ts (fun x used => P x (t :: used)) out) : Gives (t :: ts) P out := by
  cases h with
  | ok hu hP => exact .ok (by rw [hu]; rfl) hP
  | error hr => exact .error (hr.mono (List.subset_cons_self t ts))

theorem gives_return {x : α} (h : P x []) : Gives ts P (.ok (x, ts)) := .ok rfl h

theorem gives_refuse (expected : Expectation) {us : List Token} (hs : us ⊆ ts) :
    Gives ts P (refuse expected us) :=
  .error (Refusal.blames_refusal expected hs)

theorem gives_ofKind (kind : Token.Kind) (expected : Expectation) (ts : List Token) :
    Gives ts (fun t used => used = [t] ∧ t.kind = kind) (ofKind kind expected ts) := by
  cases ts with
  | nil => exact gives_refuse expected (List.Subset.refl [])
  | cons t rest =>
    rw [ofKind]
    split
    · next h => exact .ok rfl ⟨rfl, h⟩
    · exact gives_refuse expected (List.Subset.refl _)

end Gives

/-! ### Readers that agree with a rule -/

/-- No word of these kinds comes next. -/
def Stops (goesOn : Token.Kind → Bool) (rest : List Token) : Prop :=
  ∀ t ∈ rest.head?, goesOn t.kind = false

/-- The reader agrees with the rule; words of the kinds in `goesOn` go on with what it reads. -/
structure Reads (reader : Reader α) (Yields : α → List Token → Prop)
    (goesOn : Token.Kind → Bool) : Prop where
  gives (ts : List Token) : Gives ts Yields (reader ts)
  complete {x : α} {used rest : List Token} :
    Yields x used → Stops goesOn rest → reader (used ++ rest) = .ok (x, rest)

theorem stops_nil {goesOn : Token.Kind → Bool} : Stops goesOn [] := by
  intro t ht
  cases ht

theorem stops_cons {goesOn : Token.Kind → Bool} {t : Token} {rest : List Token} :
    Stops goesOn (t :: rest) ↔ goesOn t.kind = false := by
  constructor
  · intro h
    exact h t rfl
  · intro h u hu
    cases hu
    exact h

theorem Stops.mono {more fewer : Token.Kind → Bool} {rest : List Token} (h : Stops more rest)
    (hf : ∀ k, fewer k = true → more k = true) : Stops fewer rest := by
  intro t ht
  have hm := h t ht
  cases hk : fewer t.kind with
  | false => rfl
  | true => rw [hf _ hk] at hm; exact hm

theorem ofKind_cons {kind : Token.Kind} {expected : Expectation} {t : Token} {rest : List Token}
    (h : t.kind = kind) : ofKind kind expected (t :: rest) = .ok (t, rest) := by
  simp only [ofKind, h, if_true]

theorem Reads.all_eq_ok {reader : Reader α} {Yields : α → List Token → Prop}
    {goesOn : Token.Kind → Bool} (h : Reads reader Yields goesOn) {words : List Token}
    {stop : Position} {x : α} : Reader.all reader words stop = .ok x ↔ Yields x words := by
  constructor
  · intro hx
    have hg := h.gives words
    unfold Reader.all at hx
    generalize reader words = out at hx hg
    cases hg with
    | error hr => cases hx
    | @ok y used rest hu hY =>
      cases rest with
      | cons t more => cases hx
      | nil =>
        cases hx
        rw [List.append_nil] at hu
        rw [hu]
        exact hY
  · intro hY
    have hx := h.complete hY stops_nil
    rw [List.append_nil] at hx
    simp only [Reader.all, hx]

/-! ### Literals -/

theorem literal?_eq_some {t : Token} {l : Literal} : literal? t = some l ↔ l.Yields [t] := by
  constructor
  · intro h
    unfold literal? at h
    split at h
    · next hk => cases h; exact .string hk
    · next hk => cases h; exact .number hk
    · next hk => cases h; exact .word hk
    · cases h
  · intro h
    cases h with
    | string hk | number hk | word hk => simp only [literal?, hk]

theorem eq_singleton_of_yields {l : Literal} {ts : List Token} (h : l.Yields ts) :
    ∃ t, ts = [t] ∧ literal? t = some l := by
  cases h with
  | @string t hk => exact ⟨t, rfl, literal?_eq_some.2 (.string hk)⟩
  | @number t hk => exact ⟨t, rfl, literal?_eq_some.2 (.number hk)⟩
  | @word t hk => exact ⟨t, rfl, literal?_eq_some.2 (.word hk)⟩

theorem gives_literal (ts : List Token) : Gives ts Literal.Yields (literal ts) := by
  cases ts with
  | nil => exact gives_refuse .literal (List.Subset.refl [])
  | cons t rest =>
    rw [literal]
    split
    · next l hl => exact .ok rfl (literal?_eq_some.1 hl)
    · exact gives_refuse .literal (List.Subset.refl _)

def isComma (k : Token.Kind) : Bool := k = .comma

theorem gives_literals (ts : List Token) : Gives ts Literal.YieldsList (literals ts) := by
  fun_induction literals ts with
  | case1 t c rest hl => exact gives_refuse .literal (List.Subset.refl _)
  | case2 t c rest l hl hc ls left h ih =>
    rw [h] at ih
    cases ih with
    | ok hu hls => exact .ok (by rw [hu]; rfl) (.more (literal?_eq_some.1 hl) hc hls)
  | case3 t c rest l hl hc r h ih =>
    rw [h] at ih
    cases ih with
    | error hr =>
      exact .error (hr.mono fun u hu => List.mem_cons_of_mem t (List.mem_cons_of_mem c hu))
  | case4 t c rest l hl hc => exact .ok rfl (.one (literal?_eq_some.1 hl))
  | case5 ts _ l rest h =>
    have hg := gives_literal ts
    rw [h] at hg
    cases hg with
    | ok hu hl => exact .ok hu (.one hl)
  | case6 ts _ r h =>
    have hg := gives_literal ts
    rw [h] at hg
    cases hg with
    | error hr => exact .error hr

theorem reads_literals : Reads literals Literal.YieldsList isComma := by
  refine ⟨gives_literals, fun {ls used rest} h hs => ?_⟩
  induction h with
  | one h =>
    obtain ⟨t, rfl, hl⟩ := eq_singleton_of_yields h
    cases rest with
    | nil => simp only [List.append_nil, literals, literal, hl]
    | cons c more =>
      have hc := stops_cons.1 hs
      simp only [isComma, decide_eq_false_iff_not] at hc
      simp only [List.cons_append, List.nil_append, literals, hl, hc, if_false]
  | more h hc _ ih =>
    obtain ⟨t, rfl, hl⟩ := eq_singleton_of_yields h
    simp only [List.cons_append, List.nil_append, literals, hl, hc, if_true, ih]

/-! ### Paths -/

theorem index_cases {t : Token} (hk : t.kind = .number) (digits : List Char) :
    (∃ i, index t digits = .ok (.index i) ∧ Segment.index? digits = some i) ∨
      ∃ r, index t digits = .error r ∧ r.Blames [t] := by
  unfold index
  split
  · next i hi => exact .inl ⟨i, rfl, hi⟩
  · exact .inr ⟨_, rfl, .word (List.mem_singleton_self t) hk⟩

theorem index_eq_ok {t : Token} {digits : List Char} {i : Nat}
    (h : Segment.index? digits = some i) : index t digits = .ok (.index i) := by
  simp only [index, h]

theorem dotted_cases (t : Token) {d : Token} (hd : d.kind = .dot) :
    (∃ step, dotted t = .ok step ∧ Segment.Yields step [d, t]) ∨
      ∃ r, dotted t = .error r ∧ r.Blames [t] := by
  unfold dotted
  split
  · next hk => exact .inl ⟨_, rfl, .key hd hk⟩
  · next hk =>
    split
    · next whole hs =>
      rcases index_cases hk whole with ⟨i, hi, hx⟩ | ⟨r, hi, hr⟩
      · rw [hi]
        exact .inl ⟨_, rfl, .index hd hk hs hx⟩
      · rw [hi]
        exact .inr ⟨r, rfl, hr⟩
    · next whole fraction hs =>
      rcases index_cases hk whole with ⟨i, hi, hx⟩ | ⟨r, hi, hr⟩
      · rcases index_cases hk fraction with ⟨j, hj, hy⟩ | ⟨r, hj, hr⟩
        · rw [hi, hj]
          exact .inl ⟨_, rfl, .decimal hd hk hs hx hy⟩
        · rw [hi, hj]
          exact .inr ⟨r, rfl, hr⟩
      · rw [hi]
        exact .inr ⟨r, rfl, hr⟩
  · exact .inr ⟨_, rfl, Refusal.blames_refusal .pathSegment (List.Subset.refl _)⟩

theorem bracketed_cases (t : Token) {l : Token} (hl : l.kind = .leftBracket) :
    (∃ step, bracketed t = .ok step ∧
      ∀ r : Token, r.kind = .rightBracket → Segment.Yields [step] [l, t, r]) ∨
      ∃ r, bracketed t = .error r ∧ r.Blames [t] := by
  unfold bracketed
  split
  · next hk =>
    rcases index_cases hk t.literal.toList with ⟨i, hi, hx⟩ | ⟨r, hi, hr⟩
    · rw [hi]
      exact .inl ⟨_, rfl, fun r hr => .bracketIndex hl hk hx hr⟩
    · rw [hi]
      exact .inr ⟨r, rfl, hr⟩
  · next hk => exact .inl ⟨_, rfl, fun r hr => .bracketKey hl hk hr⟩
  · exact .inr ⟨_, rfl, Refusal.blames_refusal .indexOrKey (List.Subset.refl _)⟩

theorem gives_segments (ts : List Token) : Gives ts Segment.YieldsList (segments ts) := by
  fun_induction segments ts with
  | case1 => exact gives_return .nil
  | case2 t hd => exact gives_refuse .pathSegment (List.nil_subset _)
  | case3 t hd s rest ih =>
    rcases dotted_cases s hd with ⟨step, hs, hy⟩ | ⟨r, hs, hr⟩
    · rw [hs]
      refine .cons (.cons (Gives.bind ih fun more used left _ hm => gives_return ?_))
      rw [List.append_nil]
      exact .cons hy hm
    · rw [hs]
      refine .error (hr.mono fun u hu => ?_)
      rw [List.mem_singleton.1 hu]
      exact List.mem_cons_of_mem t List.mem_cons_self
  | case4 t _ hl => exact gives_refuse .indexOrKey (List.nil_subset _)
  | case5 t _ hl s rest ih =>
    rcases bracketed_cases s hl with ⟨step, hs, hy⟩ | ⟨r, hs, hr⟩
    · rw [hs]
      cases rest with
      | nil => exact gives_refuse .rightBracket (List.nil_subset _)
      | cons b rest =>
        refine .cons (.cons ?_)
        by_cases hb : b.kind = .rightBracket
        · simp only [bind, Except.bind, hb, if_true]
          refine .cons (Gives.bind ih fun more used left _ hm => gives_return ?_)
          rw [List.append_nil]
          exact .cons (hy b hb) hm
        · simp only [bind, Except.bind, hb, if_false]
          exact gives_refuse .rightBracket (List.Subset.refl _)
    · rw [hs]
      refine .error (hr.mono fun u hu => ?_)
      rw [List.mem_singleton.1 hu]
      exact List.mem_cons_of_mem t List.mem_cons_self
  | case6 t rest _ _ => exact gives_return .nil

def isStep (k : Token.Kind) : Bool := k = .dot || k = .leftBracket

theorem segments_append {steps : List Segment} {used rest : List Token}
    (h : Segment.YieldsList steps used) (hs : Stops isStep rest) :
    segments (used ++ rest) = .ok (steps, rest) := by
  induction h with
  | nil =>
    cases rest with
    | nil => rfl
    | cons t more =>
      have ht := stops_cons.1 hs
      simp only [isStep, Bool.or_eq_false_iff, decide_eq_false_iff_not] at ht
      rw [List.nil_append, segments.eq_def]
      simp only [ht.1, ht.2, if_false]
  | cons hy _ ih =>
    cases hy with
    | key hd hk =>
      simp only [List.cons_append, List.nil_append, segments, hd, if_true, dotted, hk, ih]
      rfl
    | index hd hk hp hi =>
      simp only [List.cons_append, List.nil_append, segments, hd, if_true, dotted, hk, hp,
        index_eq_ok hi, ih]
      rfl
    | decimal hd hk hp hi hj =>
      simp only [List.cons_append, List.nil_append, segments, hd, if_true, dotted, hk, hp,
        index_eq_ok hi, index_eq_ok hj, ih]
      rfl
    | bracketIndex hl hk hi hr =>
      simp only [List.cons_append, List.nil_append, segments, hl, reduceCtorEq, if_false, if_true,
        bracketed, hk, index_eq_ok hi, hr, ih]
      rfl
    | bracketKey hl hk hr =>
      simp only [List.cons_append, List.nil_append, segments, hl, reduceCtorEq, if_false, if_true,
        bracketed, hk, hr, ih]
      rfl

theorem gives_path (ts : List Token) : Gives ts Path.Yields (path ts) := by
  refine (gives_ofKind .identifier .variableName ts).bind fun root used rest _ hroot => ?_
  refine (gives_segments rest).bind fun steps more left _ hsteps => gives_return ?_
  obtain ⟨rfl, hk⟩ := hroot
  rw [List.append_nil]
  exact .mk hk hsteps

theorem reads_path : Reads path Path.Yields isStep := by
  refine ⟨gives_path, fun {p used rest} h hs => ?_⟩
  cases h with
  | mk hk hsteps =>
    simp only [path, List.cons_append, ofKind_cons hk, bind, Except.bind,
      segments_append hsteps hs]
    rfl

/-! ### Operands -/

def isLeftParen (k : Token.Kind) : Bool := k = .leftParen

theorem gives_arguments (ts : List Token) : Gives ts PipeCall.YieldsArgs (arguments ts) := by
  unfold arguments
  split
  · next l r rest =>
    split
    · next hl =>
      split
      · next hr => exact .ok rfl (.empty hl hr)
      · refine .cons ((gives_literals (r :: rest)).bind fun args used left _ hargs => ?_)
        refine (gives_ofKind .rightParen .commaOrRightParen left).bind
          fun b more end' _ hb => gives_return ?_
        obtain ⟨rfl, hk⟩ := hb
        rw [List.append_nil]
        exact .some hl hargs hk
    · exact gives_return .bare
  · next l =>
    split
    · exact gives_refuse .literal (List.nil_subset _)
    · exact gives_return .bare
  · exact gives_return .bare

/-- Literals are never empty and never begin with a bracket. -/
theorem exists_cons_of_yieldsList {ls : List Literal} {ts : List Token}
    (h : Literal.YieldsList ls ts) : ∃ t more, ts = t :: more ∧ (literal? t).isSome = true := by
  cases h with
  | one h =>
    obtain ⟨t, rfl, hl⟩ := eq_singleton_of_yields h
    exact ⟨t, [], rfl, by rw [hl]; rfl⟩
  | more h hc _ =>
    obtain ⟨t, rfl, hl⟩ := eq_singleton_of_yields h
    exact ⟨t, _, rfl, by rw [hl]; rfl⟩

theorem reads_arguments : Reads arguments PipeCall.YieldsArgs isLeftParen := by
  refine ⟨gives_arguments, fun {args used rest} h hs => ?_⟩
  cases h with
  | bare =>
    rw [List.nil_append]
    match rest with
    | [] => rfl
    | [l] =>
      have hl := stops_cons.1 hs
      simp only [isLeftParen, decide_eq_false_iff_not] at hl
      simp only [arguments, hl, if_false]
    | l :: r :: more =>
      have hl := stops_cons.1 hs
      simp only [isLeftParen, decide_eq_false_iff_not] at hl
      simp only [arguments, hl, if_false]
  | empty hl hr =>
    simp only [List.cons_append, List.nil_append, arguments, hl, hr, if_true]
  | @some l r _ ts hl hargs hr =>
    obtain ⟨t, more, rfl, ht⟩ := exists_cons_of_yieldsList hargs
    have hne : t.kind ≠ .rightParen := by
      intro hk
      simp only [literal?, hk, Option.isSome_none, Bool.false_eq_true] at ht
    have hread : literals (t :: more ++ r :: rest) = .ok (args, r :: rest) :=
      reads_literals.complete hargs (stops_cons.2 (by rw [hr]; rfl))
    simp only [List.cons_append] at hread
    simp only [List.cons_append, List.append_assoc, List.nil_append, arguments, hl, hne, if_true,
      if_false, hread, bind, Except.bind, ofKind_cons hr]
    rfl

def isPipe (k : Token.Kind) : Bool := k = .pipe || k = .leftParen

theorem gives_pipesWithin (limit : Nat) (ts : List Token) :
    Gives ts PipeCall.YieldsList (pipesWithin limit ts) := by
  induction limit generalizing ts with
  | zero => exact gives_return .nil
  | succ limit ih =>
    cases ts with
    | nil => exact gives_return .nil
    | cons bar rest =>
      rw [pipesWithin]
      split
      · next hbar =>
        refine .cons ((gives_ofKind .identifier .pipeName rest).bind fun name used a _ hname => ?_)
        refine (gives_arguments a).bind fun args us b _ hargs => ?_
        refine (ih b).bind fun more vs c _ hmore => gives_return ?_
        obtain ⟨rfl, hk⟩ := hname
        rw [List.append_nil, ← List.append_assoc]
        exact .cons hbar hk hargs hmore
      · exact gives_return .nil

theorem pipesWithin_append {pipes : List PipeCall} {used rest : List Token}
    (h : PipeCall.YieldsList pipes used) (hs : Stops isPipe rest) {limit : Nat}
    (hl : used.length ≤ limit) : pipesWithin limit (used ++ rest) = .ok (pipes, rest) := by
  induction h generalizing limit with
  | nil =>
    cases rest with
    | nil => cases limit <;> rfl
    | cons t more =>
      have ht := stops_cons.1 hs
      simp only [isPipe, Bool.or_eq_false_iff, decide_eq_false_iff_not] at ht
      cases limit with
      | zero => rfl
      | succ limit => simp only [List.nil_append, pipesWithin, ht.1, if_false]
  | @cons bar name args more ts us hbar hname hargs hmore ih =>
    simp only [List.length_append, List.length_cons] at hl
    obtain ⟨limit, rfl⟩ : ∃ n, limit = n + 1 := ⟨limit - 1, by omega⟩
    have hlast : Stops isLeftParen (us ++ rest) := by
      cases hmore with
      | nil =>
        refine hs.mono fun k hk => ?_
        simp only [isLeftParen] at hk
        simp only [isPipe, hk, Bool.or_true]
      | cons hbar _ _ _ => exact stops_cons.2 (by rw [hbar]; rfl)
    have hread := reads_arguments.complete hargs hlast
    simp only [List.cons_append, List.append_assoc, pipesWithin, hbar, if_true, ofKind_cons hname,
      bind, Except.bind, hread, @ih limit (by omega)]
    rfl

theorem reads_pipes : Reads pipes PipeCall.YieldsList isPipe := by
  refine ⟨fun ts => gives_pipesWithin ts.length ts, fun {calls used rest} h hs => ?_⟩
  refine pipesWithin_append h hs ?_
  rw [List.length_append]
  exact Nat.le_add_right _ _

theorem gives_term (ts : List Token) : Gives ts Term.Yields (term ts) := by
  cases ts with
  | nil => exact gives_refuse .operand (List.nil_subset _)
  | cons t rest =>
    rw [term]
    split
    · next hc =>
      refine .cons ((gives_path rest).bind fun p used left _ hp => gives_return ?_)
      rw [List.append_nil]
      exact .path hc hp
    · split
      · next l hl => exact .ok rfl (.literal (literal?_eq_some.1 hl))
      · exact gives_refuse .operand (List.Subset.refl _)

theorem reads_term : Reads term Term.Yields isStep := by
  refine ⟨gives_term, fun {x used rest} h hs => ?_⟩
  cases h with
  | literal h =>
    obtain ⟨t, rfl, hl⟩ := eq_singleton_of_yields h
    have hc : t.kind ≠ .colon := by
      intro hk
      simp only [literal?, hk, reduceCtorEq] at hl
    simp only [List.cons_append, List.nil_append, term, hc, if_false, hl]
  | path hc hp =>
    simp only [List.cons_append, term, hc, if_true, reads_path.complete hp hs, bind, Except.bind]
    rfl

def isTail (k : Token.Kind) : Bool := isStep k || isPipe k

theorem exists_cons_of_yields_term {x : Term} {ts : List Token} (h : x.Yields ts) :
    ∃ t more, ts = t :: more := by
  cases h with
  | literal h =>
    obtain ⟨t, rfl, -⟩ := eq_singleton_of_yields h
    exact ⟨t, [], rfl⟩
  | path => exact ⟨_, _, rfl⟩

theorem gives_operand (ts : List Token) : Gives ts Operand.Yields (operand ts) := by
  cases ts with
  | nil => exact gives_refuse .operand (List.nil_subset _)
  | cons t rest =>
    rw [operand]
    refine (gives_term (t :: rest)).bind fun x used left hu hx => ?_
    refine (reads_pipes.gives left).bind fun calls more after _ hcalls => gives_return ?_
    obtain ⟨u, us, rfl⟩ := exists_cons_of_yields_term hx
    cases hu
    rw [List.append_nil]
    exact .mk hx hcalls

theorem reads_operand : Reads operand Operand.Yields isTail := by
  refine ⟨gives_operand, fun {o used rest} h hs => ?_⟩
  cases h with
  | @mk x calls t ts us hx hcalls =>
    have hpipes := reads_pipes.complete hcalls (hs.mono fun k hk => by simp [isTail, hk])
    have hterm : term (t :: ts ++ (us ++ rest)) = .ok (x, us ++ rest) := by
      refine reads_term.complete hx ?_
      cases hcalls with
      | nil => exact hs.mono fun k hk => by simp [isTail, hk]
      | cons hbar _ _ _ => exact stops_cons.2 (by rw [hbar]; rfl)
    rw [List.cons_append] at hterm
    simp only [List.cons_append, List.append_assoc, operand, hterm, bind, Except.bind, hpipes]
    rfl

end Reader

end LineTemplate
