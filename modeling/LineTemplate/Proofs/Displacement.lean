import LineTemplate.Proofs.Headers

/-!
# Words further down

A reader looks at the kinds and the literals of words, and takes over their positions. So from the
words of a line that is further down it reads the same, further down.
-/

namespace LineTemplate

/-- The second outcome is the first one, with what it gives and what it refuses moved. -/
inductive Moved {ε α β : Type} (fault : ε → ε) (move : α → β) : Except ε α → Except ε β → Prop
  | ok (x : α) : Moved fault move (.ok x) (.ok (move x))
  | error (e : ε) : Moved fault move (.error e) (.error (fault e))

namespace Moved

variable {ε α β γ δ : Type} {fault : ε → ε} {move : α → β} {move' : γ → δ}

theorem bind {x : Except ε α} {y : Except ε β} {f : α → Except ε γ} {k : β → Except ε δ}
    (h : Moved fault move x y) (hf : ∀ a, Moved fault move' (f a) (k (move a))) :
    Moved fault move' (x >>= f) (y >>= k) := by
  cases h with
  | ok a => exact hf a
  | error e => exact .error e

theorem ite {p : Prop} [Decidable p] {x x' : Except ε α} {y y' : Except ε β}
    (h : p → Moved fault move x y) (h' : ¬p → Moved fault move x' y') :
    Moved fault move (if p then x else x') (if p then y else y') := by
  by_cases hp : p
  · rw [if_pos hp, if_pos hp]
    exact h hp
  · rw [if_neg hp, if_neg hp]
    exact h' hp

end Moved

namespace Token

variable (n : Nat) (t : Token)

@[simp] theorem down_kind : (t.down n).kind = t.kind := rfl

@[simp] theorem down_literal : (t.down n).literal = t.literal := rfl

end Token

/-- The same refusal, `n` lines further down. -/
def Refusal.down (n : Nat) (r : Refusal) : Refusal := { r with place := r.place.map (·.down n) }

theorem Refusal.on_down (n : Nat) (r : Refusal) (stop : Position) :
    (r.down n).on (stop.down n) = (r.on stop).down n := by
  obtain ⟨fault, place⟩ := r
  cases place <;> rfl

namespace Reader

variable {α β : Type} (n : Nat)

/-- From words further down the reader makes the same, further down. -/
def Moves (move : α → α) (reader : Reader α) : Prop :=
  ∀ ts, Moved (Refusal.down n) (Prod.map move (List.map (Token.down n))) (reader ts)
    (reader (ts.map (Token.down n)))

theorem refusal_down (expected : Expectation) (ts : List Token) :
    refusal expected (ts.map (Token.down n)) = (refusal expected ts).down n := by
  cases ts <;> rfl

theorem moved_refuse (move : α → α) (expected : Expectation) (ts : List Token) :
    Moved (Refusal.down n) (Prod.map move (List.map (Token.down n))) (refuse expected ts)
      (refuse expected (ts.map (Token.down n))) := by
  rw [refuse, refuse, refusal_down]
  exact .error _

theorem moves_ofKind (kind : Token.Kind) (expected : Expectation) :
    Moves n (Token.down n) (ofKind kind expected) := by
  intro ts
  cases ts with
  | nil => exact moved_refuse n _ expected []
  | cons t rest =>
    rw [List.map_cons, ofKind, ofKind, Token.down_kind]
    split
    · exact .ok (t, rest)
    · exact moved_refuse n _ expected (t :: rest)

/-! ### Literals -/

theorem numeral_down (text : String) (pos : Position) :
    numeral text (pos.down n) = (numeral text pos).down n := by
  unfold numeral
  split
  · rfl
  · split
    · rfl
    · split <;> rfl

theorem bareWord_down (word : String) : (bareWord word).down n = bareWord word := by
  unfold bareWord
  split
  · rfl
  · split
    · rfl
    · split
      · rfl
      · split <;> rfl

theorem literal?_down (t : Token) : literal? (t.down n) = (literal? t).map (Literal.down n) := by
  obtain ⟨kind, text, pos⟩ := t
  cases kind with
  | number => exact congrArg some (numeral_down n text pos)
  | identifier => exact congrArg some (bareWord_down n text).symm
  | _ => rfl

theorem moves_literals : Moves n (List.map (Literal.down n)) literals := by
  intro ts
  induction ts using literals.induct with
  | case1 t c rest hl =>
    simp only [List.map_cons, literals, literal?_down, hl, Option.map_none]
    exact moved_refuse n _ .literal (t :: c :: rest)
  | case2 t c rest l hl hc ls left hr ih
  | case3 t c rest l hl hc r hr ih =>
    simp only [List.map_cons, literals, literal?_down, hl, Option.map_some, Token.down_kind, hc,
      if_true]
    generalize literals rest = x, literals (rest.map (Token.down n)) = y at ih
    cases ih with
    | ok p => exact .ok (l :: p.1, p.2)
    | error r => exact .error r
  | case4 t c rest l hl hc =>
    simp only [List.map_cons, literals, literal?_down, hl, Option.map_some, Token.down_kind, hc,
      if_false]
    exact .ok ([l], c :: rest)
  | case5 ts hts l left hr
  | case6 ts hts r hr =>
    rcases ts with _ | ⟨t, _ | ⟨c, rest⟩⟩
    · exact .error _
    · simp only [List.map_cons, List.map_nil, literals, literal, literal?_down]
      cases literal? t with
      | none => exact .error _
      | some l => exact .ok ([l], [])
    · exact absurd rfl (hts t c rest)

/-! ### Paths -/

theorem moved_index (t : Token) (digits : List Char) :
    Moved (Refusal.down n) id (index t digits) (index (t.down n) digits) := by
  unfold index
  split
  · exact .ok _
  · exact .error _

theorem moved_dotted (t : Token) :
    Moved (Refusal.down n) id (dotted t) (dotted (t.down n)) := by
  unfold dotted
  simp only [Token.down_kind, Token.down_literal]
  split
  · exact .ok _
  · split
    · exact (moved_index n t _).bind fun i => .ok [i]
    · exact (moved_index n t _).bind fun i => (moved_index n t _).bind fun j => .ok [i, j]
  · exact .error _

theorem moved_bracketed (t : Token) :
    Moved (Refusal.down n) id (bracketed t) (bracketed (t.down n)) := by
  unfold bracketed
  simp only [Token.down_kind, Token.down_literal]
  split
  · exact moved_index n t _
  · exact .ok _
  · exact .error _

theorem moves_segments : Moves n id segments := by
  intro ts
  fun_induction segments ts with
  | case1 => exact .ok ([], [])
  | case2 t hd =>
    simp only [List.map_cons, List.map_nil, segments, Token.down_kind, hd, if_true]
    exact moved_refuse n _ .pathSegment []
  | case3 t hd s rest ih =>
    simp only [List.map_cons, segments, Token.down_kind, hd, if_true]
    refine (moved_dotted n s).bind fun these => ih.bind fun p => ?_
    exact .ok (these ++ p.1, p.2)
  | case4 t hd hl =>
    simp only [List.map_cons, List.map_nil, segments, Token.down_kind, hl, reduceCtorEq, if_false,
      if_true]
    exact moved_refuse n _ .indexOrKey []
  | case5 t hd hl s rest ih =>
    simp only [List.map_cons, segments, Token.down_kind, hl, reduceCtorEq, if_false, if_true]
    refine (moved_bracketed n s).bind fun this => ?_
    cases rest with
    | nil => exact moved_refuse n _ .rightBracket []
    | cons b rest =>
      by_cases hb : b.kind = .rightBracket
      · simp only [List.map_cons, Token.down_kind, hb, if_true]
        exact Moved.bind ih fun p => .ok (this :: p.1, p.2)
      · simp only [List.map_cons, Token.down_kind, hb, if_false]
        exact moved_refuse n _ .rightBracket (b :: rest)
  | case6 t rest hd hl =>
    rw [List.map_cons, segments.eq_def]
    simp only [Token.down_kind, hd, hl, if_false]
    exact .ok ([], t :: rest)

theorem moves_path : Moves n id path := by
  intro ts
  refine (moves_ofKind n .identifier .variableName ts).bind fun root => ?_
  refine (moves_segments n root.2).bind fun steps => ?_
  exact .ok (Path.mk root.1.literal steps.1, steps.2)

/-! ### Operands -/

theorem moves_arguments : Moves n (List.map (Literal.down n)) arguments := by
  intro ts
  match ts with
  | [] => exact .ok ([], [])
  | [l] => exact .ite (fun _ => moved_refuse n _ .literal []) fun _ => .ok ([], [l])
  | l :: r :: rest =>
    refine .ite (fun _ => ?_) fun _ => .ok ([], l :: r :: rest)
    refine .ite (fun _ => .ok ([], rest)) fun _ => ?_
    refine (moves_literals n (r :: rest)).bind fun args => ?_
    refine (moves_ofKind n .rightParen .commaOrRightParen args.2).bind fun closing => ?_
    exact .ok (args.1, closing.2)

theorem moves_pipesWithin (limit : Nat) :
    Moves n (List.map (PipeCall.down n)) (pipesWithin limit) := by
  induction limit with
  | zero => exact fun ts => .ok ([], ts)
  | succ limit ih =>
    intro ts
    cases ts with
    | nil => exact .ok ([], [])
    | cons bar rest =>
      refine .ite (fun _ => ?_) fun _ => .ok ([], bar :: rest)
      refine (moves_ofKind n .identifier .pipeName rest).bind fun name => ?_
      refine (moves_arguments n name.2).bind fun args => ?_
      refine (ih args.2).bind fun more => ?_
      exact .ok (PipeCall.mk name.1.literal args.1 name.1.pos :: more.1, more.2)

theorem moves_pipes : Moves n (List.map (PipeCall.down n)) pipes := by
  intro ts
  rw [pipes, pipes, List.length_map]
  exact moves_pipesWithin n ts.length ts

theorem moves_term : Moves n (Term.down n) term := by
  intro ts
  cases ts with
  | nil => exact moved_refuse n _ .operand []
  | cons t rest =>
    rw [List.map_cons, term, term, literal?_down]
    refine .ite (fun _ => ?_) fun _ => ?_
    · refine (moves_path n rest).bind fun p => ?_
      exact .ok (Term.variable p.1, p.2)
    · cases literal? t with
      | none => exact moved_refuse n _ .operand (t :: rest)
      | some l => exact .ok (Term.literal l, rest)

theorem moves_operand : Moves n (Operand.down n) operand := by
  intro ts
  cases ts with
  | nil => exact moved_refuse n _ .operand []
  | cons t rest =>
    refine (moves_term n (t :: rest)).bind fun x => ?_
    refine (moves_pipes n x.2).bind fun calls => ?_
    exact .ok (Operand.mk x.1 calls.1 t.pos, calls.2)

/-! ### Connectives -/

theorem moves_unary {inner : Reader Expr} (h : Moves n (Expr.down n) inner) :
    Moves n (Expr.down n) (unary inner) := by
  intro ts
  induction ts with
  | nil => exact moved_refuse n _ .operand []
  | cons t rest ih =>
    refine .ite (fun _ => ?_) fun _ => .ite (fun _ => ?_) fun _ => ?_
    · refine ih.bind fun e => ?_
      exact .ok (Expr.not e.1, e.2)
    · refine (h rest).bind fun e => ?_
      refine (moves_ofKind n .rightParen .rightParen e.2).bind fun closing => ?_
      exact .ok (e.1, closing.2)
    · refine (moves_operand n (t :: rest)).bind fun o => ?_
      exact .ok (Expr.operand o.1, o.2)

theorem moves_comparison {side : Reader Expr} (h : Moves n (Expr.down n) side) :
    Moves n (Expr.down n) (comparison side) := by
  intro ts
  refine (h ts).bind fun (left, rest) => ?_
  cases rest with
  | nil => exact .ok (left, [])
  | cons t after =>
    simp only [Prod.map, List.map_cons, Token.down_kind]
    cases comparator? t.kind with
    | none => exact .ok (left, t :: after)
    | some c =>
      refine (h after).bind fun right => ?_
      exact .ok (Expr.compare c left right.1 t.pos, right.2)

section Chain

variable {part : Reader Expr} {join : Expr → Expr → Expr}

theorem moves_chainWithin (hp : Moves n (Expr.down n) part) (connective : Token.Kind)
    (hj : ∀ left right, (join left right).down n = join (left.down n) (right.down n))
    (limit : Nat) (left : Expr) (ts : List Token) :
    Moved (Refusal.down n) (Prod.map (Expr.down n) (List.map (Token.down n)))
      (chainWithin part connective join limit left ts)
      (chainWithin part connective join limit (left.down n) (ts.map (Token.down n))) := by
  induction limit generalizing left ts with
  | zero => exact .ok (left, ts)
  | succ limit ih =>
    cases ts with
    | nil => exact .ok (left, [])
    | cons t rest =>
      refine .ite (fun _ => ?_) fun _ => .ok (left, t :: rest)
      refine (hp rest).bind fun right => ?_
      have hmore := ih (join left right.1) right.2
      rw [hj] at hmore
      exact hmore

theorem moves_chain (hp : Moves n (Expr.down n) part) (connective : Token.Kind)
    (hj : ∀ left right, (join left right).down n = join (left.down n) (right.down n)) :
    Moves n (Expr.down n) (chain part connective join) := by
  intro ts
  refine (hp ts).bind fun first => ?_
  have hmore := moves_chainWithin n hp connective hj first.2.length first.1 first.2
  simp only [Prod.map, List.length_map]
  exact hmore

end Chain

theorem moves_expressionWithin (depth : Nat) : Moves n (Expr.down n) (expressionWithin depth) := by
  induction depth with
  | zero => exact moved_refuse n _ .operand
  | succ depth ih =>
    have hcomparison := moves_comparison n (moves_unary n ih)
    have hand (l r : Expr) : (l.and r).down n = (l.down n).and (r.down n) := rfl
    have hor (l r : Expr) : (l.or r).down n = (l.down n).or (r.down n) := rfl
    exact moves_chain n (moves_chain n hcomparison .and hand) .or hor

theorem moves_expression : Moves n (Expr.down n) expression := by
  intro ts
  rw [expression, expression, List.length_map]
  exact moves_expressionWithin n (ts.length + 1) ts

/-! ### What directive lines say -/

theorem moves_nothing : Moves n id nothing := fun ts => .ok ((), ts)

theorem moves_binding (expected : Expectation) : Moves n (Binding.down n) (binding expected) := by
  intro ts
  refine (moves_ofKind n .identifier expected ts).bind fun name => ?_
  exact .ok (Binding.mk name.1.literal name.1.pos, name.2)

theorem moves_index? : Moves n (Option.map (Binding.down n)) index? := by
  intro ts
  cases ts with
  | nil => exact .ok (none, [])
  | cons t rest =>
    refine .ite (fun _ => ?_) fun _ => .ok (none, t :: rest)
    refine (moves_binding n .indexName rest).bind fun index => ?_
    exact .ok (some index.1, index.2)

theorem moves_word (w : String) (expected : Expectation) : Moves n id (word w expected) := by
  intro ts
  cases ts with
  | nil => exact moved_refuse n _ expected []
  | cons t rest =>
    exact .ite (fun _ => .ok ((), rest)) fun _ => moved_refuse n _ expected (t :: rest)

theorem moves_message? : Moves n id message? := by
  intro ts
  cases ts with
  | nil => exact .ok (none, [])
  | cons t rest => exact .ite (fun _ => .ok (some t.literal, rest)) fun _ => .ok (none, t :: rest)

theorem moves_check : Moves n (Prod.map (Expr.down n) id) check := by
  intro ts
  refine (moves_expression n ts).bind fun test => ?_
  refine (moves_ofKind n .throw .messageWord test.2).bind fun announced => ?_
  refine (moves_ofKind n .string .message announced.2).bind fun message => ?_
  exact .ok ((test.1, message.1.literal), message.2)

theorem moves_definition : Moves n (Prod.map (Binding.down n) (Expr.down n)) definition := by
  intro ts
  refine (moves_binding n .variableName ts).bind fun name => ?_
  refine (moves_ofKind n (.comparison .eq) .definition name.2).bind fun sign => ?_
  refine (moves_expression n sign.2).bind fun value => ?_
  exact .ok ((name.1, value.1), value.2)

theorem slot_down (l : Loop) (k : Token) : slot (l.down n) (k.down n) =
    (slot l k).map (Prod.map id fun set text => (set text).down n) := by
  let later : Option String × (String → Loop) → Option String × (String → Loop) :=
    Prod.map id fun set text => (set text).down n
  show _ = (slot l k).map later
  unfold slot
  rw [apply_ite (Option.map later), apply_ite (Option.map later), apply_ite (Option.map later),
    apply_ite (Option.map later)]
  rfl

theorem moved_options : ∀ (ts : List Token) (l : Loop),
    Moved (Refusal.down n) (Prod.map (Loop.down n) (List.map (Token.down n))) (options l ts)
      (options (l.down n) (ts.map (Token.down n)))
  | [], l => .ok (l, [])
  | k :: ts, l => by
    rw [List.map_cons, options_cons, options_cons, slot_down]
    cases slot l k with
    | none => exact moved_refuse n _ .loopOption (k :: ts)
    | some option =>
      obtain ⟨old, set⟩ := option
      cases old with
      | some text => exact .error _
      | none =>
        cases ts with
        | nil => exact moved_refuse n _ .string []
        | cons v rest =>
          refine .ite (fun _ => moved_options rest (set v.literal)) fun _ => ?_
          exact moved_refuse n _ .string (v :: rest)

theorem moves_loop : Moves n (Loop.down n) loop := by
  intro ts
  refine (moves_binding n .itemName ts).bind fun item => ?_
  refine (moves_index? n item.2).bind fun index => ?_
  refine (moves_word n "of" .sourceWord index.2).bind fun of => ?_
  refine (moves_operand n of.2).bind fun source => ?_
  exact moved_options n source.2 ⟨item.1, index.1, source.1, none, none, none⟩

/-! ### Whole lines -/

variable {n} {reader : Reader α} {move : α → α}

theorem Moves.all (h : Moves n move reader) (words : List Token) (stop : Position) :
    Moved (SyntaxError.down n) move (reader.all words stop)
      (reader.all (words.map (Token.down n)) (stop.down n)) := by
  have hw := h words
  unfold Reader.all
  generalize reader words = x, reader (words.map (Token.down n)) = y at hw
  cases hw with
  | error r =>
    simp only [Refusal.on_down]
    exact .error _
  | ok p =>
    obtain ⟨x, rest⟩ := p
    cases rest with
    | nil => exact .ok x
    | cons t more =>
      -- Words are left over, and the first of them is refused.
      have hon : (refusal .endOfLine ((t :: more).map (Token.down n))).on (stop.down n) =
          ((refusal .endOfLine (t :: more)).on stop).down n := by
        rw [refusal_down, Refusal.on_down]
      simp only [Prod.map, List.map_cons] at hon ⊢
      rw [hon]
      exact .error _

end Reader

end LineTemplate
