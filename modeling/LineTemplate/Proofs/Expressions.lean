import LineTemplate.Proofs.Readers

/-!
# Expressions and the grammar

The readers of the levels of an expression agree with the levels of the grammar. Brackets and
chains are read within bounds, so what a derivation says is read wherever the bounds are no
smaller than what it spans.
-/

namespace LineTemplate

namespace Reader

theorem comparator?_eq_some {k : Token.Kind} {c : Comparator} :
    comparator? k = some c ↔ k = .comparison c := by
  cases k <;> simp [comparator?]

theorem gives_unary {inner : Reader Expr}
    (hi : ∀ ts, Gives ts (Expr.Yields .disjunction) (inner ts)) (ts : List Token) :
    Gives ts (Expr.Yields .unary) (unary inner ts) := by
  fun_induction unary inner ts with
  | case1 => exact gives_refuse .operand (List.nil_subset _)
  | case2 t rest hn ih =>
    refine .cons (ih.bind fun e used left _ he => gives_return ?_)
    rw [List.append_nil]
    exact .not hn he
  | case3 t rest _ hl =>
    refine .cons ((hi rest).bind fun e used left _ he => ?_)
    refine (gives_ofKind .rightParen .rightParen left).bind fun b more after _ hb =>
      gives_return ?_
    obtain ⟨rfl, hk⟩ := hb
    rw [List.append_nil]
    exact .group hl he hk
  | case4 t rest _ _ =>
    refine (gives_operand (t :: rest)).bind fun o used left _ ho => gives_return ?_
    rw [List.append_nil]
    exact .operand ho

theorem gives_comparison {side : Reader Expr}
    (h : ∀ ts, Gives ts (Expr.Yields .unary) (side ts)) (ts : List Token) :
    Gives ts (Expr.Yields .comparison) (comparison side ts) := by
  refine (h ts).bind fun left used rest _ hleft => ?_
  cases rest with
  | nil => exact gives_return (by rw [List.append_nil]; exact .side hleft)
  | cons t after =>
    simp only
    split
    · exact gives_return (by rw [List.append_nil]; exact .side hleft)
    · next c hc =>
      refine .cons ((h after).bind fun right more last _ hright => gives_return ?_)
      rw [List.append_nil]
      exact .compare hleft (comparator?_eq_some.1 hc) hright

section Chain

variable {part : Reader Expr} {connective : Token.Kind} {join : Expr → Expr → Expr}
  {One Row : Expr → List Token → Prop}

theorem gives_chainWithin (hp : ∀ ts, Gives ts One (part ts))
    (more : ∀ {left right t ts us}, Row left ts → t.kind = connective → One right us →
      Row (join left right) (ts ++ t :: us))
    (limit : Nat) (left : Expr) (before ts : List Token) (hl : Row left before) :
    Gives ts (fun e used => Row e (before ++ used))
      (chainWithin part connective join limit left ts) := by
  induction limit generalizing left before ts with
  | zero => exact gives_return (by rw [List.append_nil]; exact hl)
  | succ limit ih =>
    cases ts with
    | nil => exact gives_return (by rw [List.append_nil]; exact hl)
    | cons t rest =>
      rw [chainWithin]
      split
      · next ht =>
        refine .cons ((hp rest).bind fun right used left' _ hr => ?_)
        refine (ih _ _ left' (more hl ht hr)).mono fun e us he => ?_
        rw [List.append_assoc] at he
        exact he
      · exact gives_return (by rw [List.append_nil]; exact hl)

theorem gives_chain (hp : ∀ ts, Gives ts One (part ts))
    (one : ∀ {e ts}, One e ts → Row e ts)
    (more : ∀ {left right t ts us}, Row left ts → t.kind = connective → One right us →
      Row (join left right) (ts ++ t :: us)) (ts : List Token) :
    Gives ts Row (chain part connective join ts) :=
  (hp ts).bind fun first used rest _ hf =>
    gives_chainWithin hp more rest.length first used rest (one hf)

/-- A chain has come so far when enough parts may follow behind the ones that were read. -/
def HasRead (part : Reader Expr) (connective : Token.Kind) (join : Expr → Expr → Expr)
    (e : Expr) (used rest : List Token) : Prop :=
  ∃ limit, rest.length ≤ limit ∧
    chain part connective join (used ++ rest) = chainWithin part connective join limit e rest

theorem hasRead_one {e : Expr} {used rest : List Token}
    (h : part (used ++ rest) = .ok (e, rest)) :
    HasRead part connective join e used rest := by
  refine ⟨rest.length, Nat.le_refl _, ?_⟩
  simp only [chain, h, bind, Except.bind]

theorem HasRead.more {left right : Expr} {t : Token} {ts us rest : List Token}
    (h : HasRead part connective join left ts (t :: us ++ rest)) (ht : t.kind = connective)
    (hr : part (us ++ rest) = .ok (right, rest)) :
    HasRead part connective join (join left right) (ts ++ t :: us) rest := by
  obtain ⟨limit, hl, he⟩ := h
  simp only [List.cons_append, List.length_cons, List.length_append] at hl
  obtain ⟨limit, rfl⟩ : ∃ n, limit = n + 1 := ⟨limit - 1, by omega⟩
  refine ⟨limit, by omega, ?_⟩
  rw [List.append_assoc, he]
  simp only [List.cons_append, chainWithin, ht, if_true, hr, bind, Except.bind]

theorem HasRead.done {e : Expr} {used rest : List Token}
    (h : HasRead part connective join e used rest)
    (hs : ∀ t ∈ rest.head?, t.kind ≠ connective) :
    chain part connective join (used ++ rest) = .ok (e, rest) := by
  obtain ⟨limit, _, he⟩ := h
  rw [he]
  cases rest with
  | nil => cases limit <;> rfl
  | cons t more =>
    have ht := hs t rfl
    cases limit with
    | zero => rfl
    | succ limit => simp only [chainWithin, ht, if_false]

end Chain

/-- What goes on with an expression of a level. -/
def goesOnAt : Expr.Level → Token.Kind → Bool
  | .unary, k => isTail k
  | .comparison, k => isTail k || k.isComparison
  | .conjunction, k => isTail k || k.isComparison || k = .and
  | .disjunction, k => isTail k || k.isComparison || k = .and || k = .or

theorem stops_comparison {rest : List Token} (h : Stops (goesOnAt .comparison) rest) :
    Stops (goesOnAt .unary) rest ∧ ∀ t ∈ rest.head?, comparator? t.kind = none := by
  refine ⟨h.mono fun k hk => ?_, fun t ht => ?_⟩
  · simp only [goesOnAt] at hk
    simp only [goesOnAt, hk, Bool.true_or]
  · have hk := h t ht
    cases hc : comparator? t.kind with
    | none => rfl
    | some c =>
      simp [goesOnAt, comparator?_eq_some.1 hc, Token.Kind.isComparison] at hk

theorem stops_conjunction {rest : List Token} (h : Stops (goesOnAt .conjunction) rest) :
    Stops (goesOnAt .comparison) rest ∧ ∀ t ∈ rest.head?, t.kind ≠ .and := by
  refine ⟨h.mono fun k hk => ?_, fun t ht he => ?_⟩
  · simp only [goesOnAt] at hk
    simp only [goesOnAt, hk, Bool.true_or]
  · have hk := h t ht
    simp [goesOnAt, he] at hk

theorem stops_disjunction {rest : List Token} (h : Stops (goesOnAt .disjunction) rest) :
    Stops (goesOnAt .conjunction) rest ∧ ∀ t ∈ rest.head?, t.kind ≠ .or := by
  refine ⟨h.mono fun k hk => ?_, fun t ht he => ?_⟩
  · simp only [goesOnAt] at hk
    simp only [goesOnAt, hk, Bool.true_or]
  · have hk := h t ht
    simp [goesOnAt, he] at hk

def sideWithin (depth : Nat) : Reader Expr := comparison (unary (expressionWithin depth))

def conjunctionWithin (depth : Nat) : Reader Expr := chain (sideWithin depth) .and .and

theorem gives_expressionWithin (depth : Nat) (ts : List Token) :
    Gives ts (Expr.Yields .disjunction) (expressionWithin depth ts) := by
  induction depth generalizing ts with
  | zero => exact gives_refuse .operand (List.Subset.refl _)
  | succ depth ih =>
    have hside : ∀ ts, Gives ts (Expr.Yields .comparison) (sideWithin depth ts) :=
      gives_comparison (gives_unary ih)
    have hand : ∀ ts, Gives ts (Expr.Yields .conjunction) (conjunctionWithin depth ts) :=
      gives_chain hside .conjunct .and
    exact gives_chain hand .disjunct .or ts

/-- What has been read of an expression of a level that stands in front of `rest`. -/
def Reaches (depth : Nat) (e : Expr) (used rest : List Token) : Expr.Level → Prop
  | .unary => Stops (goesOnAt .unary) rest →
    unary (expressionWithin depth) (used ++ rest) = .ok (e, rest)
  | .comparison => Stops (goesOnAt .comparison) rest →
    sideWithin depth (used ++ rest) = .ok (e, rest)
  | .conjunction => Stops (goesOnAt .comparison) rest →
    HasRead (sideWithin depth) .and .and e used rest
  | .disjunction => Stops (goesOnAt .conjunction) rest →
    HasRead (conjunctionWithin depth) .or .or e used rest

theorem exists_cons_of_yields_operand {o : Operand} {ts : List Token} (h : o.Yields ts) :
    ∃ t more, ts = t :: more ∧ t.kind ≠ .not ∧ t.kind ≠ .leftParen := by
  cases h with
  | @mk x calls t ts us hx hcalls =>
    refine ⟨t, ts ++ us, rfl, ?_⟩
    cases hx with
    | literal h =>
      cases h with
      | string hk | number hk | word hk => simp [hk]
    | path hc _ => simp [hc]

theorem reaches_of_yields {level : Expr.Level} {e : Expr} {used : List Token}
    (h : e.Yields level used) : ∀ (depth : Nat) (rest : List Token), used.length ≤ depth →
      Reaches depth e used rest level := by
  -- Induction on the derivation. Of a chain it only says how far it has been read, since the rest
  -- may begin with the connective and go on with it.
  induction h with
  | operand ho =>
    intro depth rest _ hs
    obtain ⟨t, more, rfl, hn, hl⟩ := exists_cons_of_yields_operand ho
    have hread := reads_operand.complete ho hs
    rw [List.cons_append] at hread
    simp only [List.cons_append, unary, hn, hl, if_false, hread, bind, Except.bind]
    rfl
  | not hn _ ih =>
    intro depth rest hd hs
    rw [List.length_cons] at hd
    have hread := ih depth rest (by omega) hs
    simp only [List.cons_append, unary, hn, if_true, hread, bind, Except.bind]
    rfl
  | @group l r e ts hl _ hr ih =>
    intro depth rest hd _
    simp only [List.length_append, List.length_cons, List.length_nil] at hd
    -- The brackets are words themselves, so what stands between them has one level left to it.
    obtain ⟨depth, rfl⟩ : ∃ n, depth = n + 1 := ⟨depth - 1, by omega⟩
    have hstop : Stops (goesOnAt .conjunction) (r :: rest) := stops_cons.2 (by rw [hr]; rfl)
    have hread : expressionWithin (depth + 1) (ts ++ r :: rest) = .ok (e, r :: rest) := by
      refine (ih depth (r :: rest) (by omega) hstop).done fun t ht => ?_
      cases ht
      simp [hr]
    simp only [List.cons_append, List.append_assoc, List.nil_append, unary, hl, reduceCtorEq,
      if_false, if_true, hread, bind, Except.bind, ofKind_cons hr]
    rfl
  | side _ ih =>
    intro depth rest hd hs
    obtain ⟨hside, hnext⟩ := stops_comparison hs
    have hread := ih depth rest hd hside
    cases rest with
    | nil =>
      simp only [sideWithin, comparison, hread, bind, Except.bind]
      rfl
    | cons t after =>
      have hc := hnext t rfl
      simp only [sideWithin, comparison, hread, hc, bind, Except.bind]
      rfl
  | @compare c left right t ts us _ ht _ ihl ihr =>
    intro depth rest hd hs
    simp only [List.length_append, List.length_cons] at hd
    have hleft := ihl depth (t :: (us ++ rest)) (by omega) (stops_cons.2 (by rw [ht]; rfl))
    have hright := ihr depth rest (by omega) (stops_comparison hs).1
    have hc : comparator? t.kind = some c := comparator?_eq_some.2 ht
    simp only [sideWithin, comparison, List.append_assoc, List.cons_append, hleft, hc, hright,
      bind, Except.bind]
    rfl
  | conjunct _ ih =>
    intro depth rest hd hs
    exact hasRead_one (ih depth rest hd hs)
  | @and left right t ts us _ ht _ ihl ihr =>
    intro depth rest hd hs
    simp only [List.length_append, List.length_cons] at hd
    have hleft := ihl depth (t :: us ++ rest) (by omega) (stops_cons.2 (by rw [ht]; rfl))
    exact hleft.more ht (ihr depth rest (by omega) hs)
  | disjunct _ ih =>
    intro depth rest hd hs
    obtain ⟨hside, hnext⟩ := stops_conjunction hs
    exact hasRead_one ((ih depth rest hd hside).done hnext)
  | @or left right t ts us _ ht _ ihl ihr =>
    intro depth rest hd hs
    simp only [List.length_append, List.length_cons] at hd
    have hleft := ihl depth (t :: us ++ rest) (by omega) (stops_cons.2 (by rw [ht]; rfl))
    obtain ⟨hside, hnext⟩ := stops_conjunction hs
    exact hleft.more ht ((ihr depth rest (by omega) hside).done hnext)

theorem reads_expression :
    Reads expression (Expr.Yields .disjunction) (goesOnAt .disjunction) := by
  refine ⟨fun ts => gives_expressionWithin _ ts, fun {e used rest} h hs => ?_⟩
  have hd : used.length ≤ (used ++ rest).length := by
    rw [List.length_append]
    exact Nat.le_add_right _ _
  obtain ⟨hside, hnext⟩ := stops_disjunction hs
  exact (reaches_of_yields h (used ++ rest).length rest hd hside).done hnext

end Reader

end LineTemplate
