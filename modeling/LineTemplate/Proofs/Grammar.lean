import LineTemplate.Block.Draft

/-!
# The grammar

What the tokens of a template say, written down without a reader: `x.Yields ts` holds when `x` is
what the tokens `ts` say, all of them and in this order. Repetitions grow at their end. The words
of a directive stand between its own word and the end of its line.
-/

namespace LineTemplate

/-! ### Literals and paths -/

inductive Literal.Yields : Literal → List Token → Prop
  | string {t : Token} : t.kind = .string → Yields (.string t.literal) [t]
  | number {t : Token} : t.kind = .number → Yields (Reader.numeral t.literal t.pos) [t]
  | word {t : Token} : t.kind = .identifier → Yields (Reader.bareWord t.literal) [t]

inductive Literal.YieldsList : List Literal → List Token → Prop
  | one {l : Literal} {ts : List Token} : l.Yields ts → YieldsList [l] ts
  | more {l : Literal} {ls : List Literal} {c : Token} {ts us : List Token} :
      l.Yields ts → c.kind = .comma → YieldsList ls us → YieldsList (l :: ls) (ts ++ c :: us)

/-- One step of a path; a decimal behind a point is two indexes. -/
inductive Segment.Yields : List Segment → List Token → Prop
  | key {d k : Token} : d.kind = .dot → k.kind = .identifier → Yields [.key k.literal] [d, k]
  | index {d n : Token} {whole : List Char} {i : Nat} :
      d.kind = .dot → n.kind = .number →
      PlainDecimal.splitPoint n.literal.toList = (whole, none) →
      Segment.index? whole = some i → Yields [.index i] [d, n]
  | decimal {d n : Token} {whole fraction : List Char} {i j : Nat} :
      d.kind = .dot → n.kind = .number →
      PlainDecimal.splitPoint n.literal.toList = (whole, some fraction) →
      Segment.index? whole = some i → Segment.index? fraction = some j →
      Yields [.index i, .index j] [d, n]
  | bracketIndex {l n r : Token} {i : Nat} :
      l.kind = .leftBracket → n.kind = .number → Segment.index? n.literal.toList = some i →
      r.kind = .rightBracket → Yields [.index i] [l, n, r]
  | bracketKey {l k r : Token} :
      l.kind = .leftBracket → k.kind = .string → r.kind = .rightBracket →
      Yields [.key k.literal] [l, k, r]

inductive Segment.YieldsList : List Segment → List Token → Prop
  | nil : YieldsList [] []
  | cons {step more : List Segment} {ts us : List Token} :
      Segment.Yields step ts → YieldsList more us → YieldsList (step ++ more) (ts ++ us)

inductive Path.Yields : Path → List Token → Prop
  | mk {root : Token} {segments : List Segment} {ts : List Token} :
      root.kind = .identifier → Segment.YieldsList segments ts →
      Yields ⟨root.literal, segments⟩ (root :: ts)

/-! ### Operands -/

/-- The arguments of a pipe: nothing, or literals between round brackets. -/
inductive PipeCall.YieldsArgs : List Literal → List Token → Prop
  | bare : YieldsArgs [] []
  | empty {l r : Token} : l.kind = .leftParen → r.kind = .rightParen → YieldsArgs [] [l, r]
  | some {l r : Token} {args : List Literal} {ts : List Token} :
      l.kind = .leftParen → Literal.YieldsList args ts → r.kind = .rightParen →
      YieldsArgs args (l :: ts ++ [r])

inductive PipeCall.YieldsList : List PipeCall → List Token → Prop
  | nil : YieldsList [] []
  | cons {bar name : Token} {args : List Literal} {more : List PipeCall} {ts us : List Token} :
      bar.kind = .pipe → name.kind = .identifier → PipeCall.YieldsArgs args ts →
      YieldsList more us →
      YieldsList (⟨name.literal, args, name.pos⟩ :: more) (bar :: name :: ts ++ us)

inductive Term.Yields : Term → List Token → Prop
  | literal {l : Literal} {ts : List Token} : l.Yields ts → Yields (.literal l) ts
  | path {c : Token} {p : Path} {ts : List Token} :
      c.kind = .colon → p.Yields ts → Yields (.variable p) (c :: ts)

/-- A term and its pipes; the position is that of the first token. -/
inductive Operand.Yields : Operand → List Token → Prop
  | mk {term : Term} {pipes : List PipeCall} {t : Token} {ts us : List Token} :
      term.Yields (t :: ts) → PipeCall.YieldsList pipes us →
      Yields ⟨term, pipes, t.pos⟩ (t :: ts ++ us)

/-! ### Expressions -/

/-- How loosely an expression binds. -/
inductive Expr.Level where
  | unary
  | comparison
  | conjunction
  | disjunction
  deriving DecidableEq, Repr

/-- An expression that binds no more loosely than the level says. -/
inductive Expr.Yields : Expr.Level → Expr → List Token → Prop
  | operand {o : Operand} {ts : List Token} : o.Yields ts → Yields .unary (.operand o) ts
  | not {n : Token} {e : Expr} {ts : List Token} :
      n.kind = .not → Yields .unary e ts → Yields .unary (.not e) (n :: ts)
  | group {l r : Token} {e : Expr} {ts : List Token} :
      l.kind = .leftParen → Yields .disjunction e ts → r.kind = .rightParen →
      Yields .unary e (l :: ts ++ [r])
  | side {e : Expr} {ts : List Token} : Yields .unary e ts → Yields .comparison e ts
  | compare {c : Comparator} {left right : Expr} {t : Token} {ts us : List Token} :
      Yields .unary left ts → t.kind = .comparison c → Yields .unary right us →
      Yields .comparison (.compare c left right t.pos) (ts ++ t :: us)
  | conjunct {e : Expr} {ts : List Token} : Yields .comparison e ts → Yields .conjunction e ts
  | and {left right : Expr} {t : Token} {ts us : List Token} :
      Yields .conjunction left ts → t.kind = .and → Yields .comparison right us →
      Yields .conjunction (.and left right) (ts ++ t :: us)
  | disjunct {e : Expr} {ts : List Token} : Yields .conjunction e ts → Yields .disjunction e ts
  | or {left right : Expr} {t : Token} {ts us : List Token} :
      Yields .disjunction left ts → t.kind = .or → Yields .conjunction right us →
      Yields .disjunction (.or left right) (ts ++ t :: us)

/-! ### The words of a line -/

inductive Binding.Yields : Binding → List Token → Prop
  | mk {t : Token} : t.kind = .identifier → Yields ⟨t.literal, t.pos⟩ [t]

/-- The index of a loop behind a comma, if there is one. -/
inductive Loop.YieldsIndex : Option Binding → List Token → Prop
  | none : YieldsIndex none []
  | some {c : Token} {b : Binding} {ts : List Token} :
      c.kind = .comma → b.Yields ts → YieldsIndex (some b) (c :: ts)

/-- A loop with its options, each at most once and in any order. -/
inductive Loop.Yields : Loop → List Token → Prop
  | bare {item : Binding} {index : Option Binding} {of : Token} {source : Operand}
      {ts us vs : List Token} :
      item.Yields ts → Loop.YieldsIndex index us → of.kind = .identifier → of.literal = "of" →
      source.Yields vs → Yields ⟨item, index, source, none, none, none⟩ (ts ++ us ++ of :: vs)
  | delimiter {l : Loop} {k v : Token} {ts : List Token} :
      Yields l ts → l.delimiter = none → k.kind = .identifier → k.literal = "delimiter" →
      v.kind = .string → Yields { l with delimiter := some v.literal } (ts ++ [k, v])
  | opening {l : Loop} {k v : Token} {ts : List Token} :
      Yields l ts → l.opening = none → k.kind = .identifier → k.literal = "open" →
      v.kind = .string → Yields { l with opening := some v.literal } (ts ++ [k, v])
  | closing {l : Loop} {k v : Token} {ts : List Token} :
      Yields l ts → l.closing = none → k.kind = .identifier → k.literal = "close" →
      v.kind = .string → Yields { l with closing := some v.literal } (ts ++ [k, v])

/-- The message at the end of a guard, if there is one. -/
inductive Block.YieldsMessage : Option String → List Token → Prop
  | none : YieldsMessage none []
  | some {t : Token} : t.kind = .string → YieldsMessage (some t.literal) [t]

inductive Block.YieldsCheck : Expr × String → List Token → Prop
  | mk {test : Expr} {w m : Token} {ts : List Token} :
      test.Yields .disjunction ts → w.kind = .throw → m.kind = .string →
      YieldsCheck (test, m.literal) (ts ++ [w, m])

inductive Block.YieldsDefinition : Binding × Expr → List Token → Prop
  | mk {name : Binding} {e : Token} {value : Expr} {ts us : List Token} :
      name.Yields ts → e.kind = .comparison .eq → value.Yields .disjunction us →
      YieldsDefinition (name, value) (ts ++ e :: us)

/-! ### Blocks -/

/-- The whole line of a directive: its word at `pos`, the words behind it and the end. -/
inductive Directive.Yields (d : Directive) (pos : Position) (words : List Token) :
    List Token → Prop
  | mk {w n : Token} :
      w.kind = .directive d → w.pos = pos → n.kind = .endOfLine →
      Yields d pos words (w :: words ++ [n])

/-- What stands in a template: a block, blocks, or the branches of a selection, of which the one
without a head may come anywhere between the others. -/
inductive Phrase where
  | block (b : Block)
  | blocks (bs : List Block)
  | cases (cs : List (Branch (List Literal) Block)) (default : Option (List Block))
  | whens (ws : List (Branch Expr Block)) (default : Option (List Block))

inductive Phrase.Yields : Phrase → List Token → Prop
  | text {t : Token} : t.kind = .text → Yields (.block (.text t.literal t.pos)) [t]
  | condition {test : Expr} {body : List Block} {pos stop : Position} {ts L T M : List Token} :
      test.Yields .disjunction ts → Directive.condition.Yields pos ts L →
      Yields (.blocks body) T → Directive.endCondition.Yields stop [] M →
      Yields (.block (.condition test body none pos)) (L ++ T ++ M)
  | alternative {test : Expr} {body more : List Block} {pos mid stop : Position}
      {ts L T M U N : List Token} :
      test.Yields .disjunction ts → Directive.condition.Yields pos ts L →
      Yields (.blocks body) T → Directive.otherwise.Yields mid [] M →
      Yields (.blocks more) U → Directive.endCondition.Yields stop [] N →
      Yields (.block (.condition test body (some more) pos)) (L ++ T ++ M ++ U ++ N)
  | switch {subject : Operand} {cs : List (Branch (List Literal) Block)}
      {default : Option (List Block)} {pos stop : Position} {ts L T M : List Token} :
      subject.Yields ts → Directive.switch.Yields pos ts L →
      Yields (.cases cs default) T → Directive.endSelection.Yields stop [] M →
      Yields (.block (.switch subject cs default pos)) (L ++ T ++ M)
  | choose {ws : List (Branch Expr Block)} {default : Option (List Block)}
      {pos stop : Position} {L T M : List Token} :
      Directive.choose.Yields pos [] L →
      Yields (.whens ws default) T → Directive.endSelection.Yields stop [] M →
      Yields (.block (.choose ws default pos)) (L ++ T ++ M)
  | loop {header : Loop} {body : List Block} {pos stop : Position} {ts L T M : List Token} :
      header.Yields ts → Directive.loop.Yields pos ts L →
      Yields (.blocks body) T → Directive.endLoop.Yields stop [] M →
      Yields (.block (.loop header body pos)) (L ++ T ++ M)
  | guard {test : Expr} {body : List Block} {message : Option String} {pos stop : Position}
      {ts us L T M : List Token} :
      test.Yields .disjunction ts → Directive.guard.Yields pos ts L →
      Yields (.blocks body) T → Block.YieldsMessage message us →
      Directive.endGuard.Yields stop us M →
      Yields (.block (.guard test body message pos)) (L ++ T ++ M)
  | check {test : Expr} {message : String} {pos : Position} {ts L : List Token} :
      Block.YieldsCheck (test, message) ts → Directive.check.Yields pos ts L →
      Yields (.block (.check test message pos)) L
  | define {name : Binding} {value : Expr} {pos : Position} {ts L : List Token} :
      Block.YieldsDefinition (name, value) ts → Directive.define.Yields pos ts L →
      Yields (.block (.define name value pos)) L
  | nil : Yields (.blocks []) []
  | snoc {bs : List Block} {b : Block} {T U : List Token} :
      Yields (.blocks bs) T → Yields (.block b) U → Yields (.blocks (bs ++ [b])) (T ++ U)
  | noCases : Yields (.cases [] none) []
  | casesBlank {cs : List (Branch (List Literal) Block)} {default : Option (List Block)}
      {t : Token} {T : List Token} :
      Yields (.cases cs default) T → t.kind = .text → Text.isBlank t.literal = true →
      Yields (.cases cs default) (T ++ [t])
  | case {cs : List (Branch (List Literal) Block)} {default : Option (List Block)}
      {values : List Literal} {body : List Block} {pos stop : Position}
      {ts T L U M : List Token} :
      Yields (.cases cs default) T → Literal.YieldsList values ts →
      Directive.case.Yields pos ts L → Yields (.blocks body) U →
      Directive.endBranch.Yields stop [] M →
      Yields (.cases (cs ++ [⟨values, body, pos⟩]) default) (T ++ (L ++ U ++ M))
  | casesDefault {cs : List (Branch (List Literal) Block)} {body : List Block}
      {pos stop : Position} {T L U M : List Token} :
      Yields (.cases cs none) T → Directive.default.Yields pos [] L →
      Yields (.blocks body) U → Directive.endBranch.Yields stop [] M →
      Yields (.cases cs (some body)) (T ++ (L ++ U ++ M))
  | noWhens : Yields (.whens [] none) []
  | whensBlank {ws : List (Branch Expr Block)} {default : Option (List Block)}
      {t : Token} {T : List Token} :
      Yields (.whens ws default) T → t.kind = .text → Text.isBlank t.literal = true →
      Yields (.whens ws default) (T ++ [t])
  | when {ws : List (Branch Expr Block)} {default : Option (List Block)} {test : Expr}
      {body : List Block} {pos stop : Position} {ts T L U M : List Token} :
      Yields (.whens ws default) T → test.Yields .disjunction ts →
      Directive.when.Yields pos ts L → Yields (.blocks body) U →
      Directive.endBranch.Yields stop [] M →
      Yields (.whens (ws ++ [⟨test, body, pos⟩]) default) (T ++ (L ++ U ++ M))
  | whensDefault {ws : List (Branch Expr Block)} {body : List Block}
      {pos stop : Position} {T L U M : List Token} :
      Yields (.whens ws none) T → Directive.default.Yields pos [] L →
      Yields (.blocks body) U → Directive.endBranch.Yields stop [] M →
      Yields (.whens ws (some body)) (T ++ (L ++ U ++ M))

/-- The blocks of a whole template, behind which its end is marked. -/
inductive Template.Yields : List Block → List Token → Prop
  | mk {bs : List Block} {T : List Token} {e : Token} :
      (Phrase.blocks bs).Yields T → e.kind = .endOfTemplate → Yields bs (T ++ [e])

/-! ### Words

All that stands behind the word of a directive is words, which are known and begin no directive.
-/

def Token.Kind.isWord : Token.Kind → Bool
  | .text | .endOfLine | .endOfTemplate => false
  | _ => true

def Token.AllWords (ts : List Token) : Prop := ∀ t ∈ ts, t.kind.isWord = true

/-- A word that may stand behind that of a directive. -/
@[simp] def Token.Kind.isInner : Token.Kind → Bool
  | .text | .endOfLine | .endOfTemplate | .directive _ | .unknown => false
  | _ => true

def Token.AllInner (ts : List Token) : Prop := ∀ t ∈ ts, t.kind.isInner = true

namespace Token

@[simp] theorem allWords_nil : AllWords [] := by
  intro t ht
  cases ht

@[simp] theorem allWords_cons {t : Token} {ts : List Token} :
    AllWords (t :: ts) ↔ t.kind.isWord = true ∧ AllWords ts := List.forall_mem_cons

@[simp] theorem allInner_nil : AllInner [] := by
  intro t ht
  cases ht

@[simp] theorem allInner_cons {t : Token} {ts : List Token} :
    AllInner (t :: ts) ↔ t.kind.isInner = true ∧ AllInner ts := List.forall_mem_cons

@[simp] theorem allInner_append {ts us : List Token} :
    AllInner (ts ++ us) ↔ AllInner ts ∧ AllInner us := List.forall_mem_append

theorem Kind.isWord_of_isInner {kind : Kind} (h : kind.isInner = true) : kind.isWord = true := by
  cases kind with
  | text | endOfLine | endOfTemplate => cases h
  | _ => rfl

theorem AllInner.words {ts : List Token} (h : AllInner ts) : AllWords ts :=
  fun t ht => Kind.isWord_of_isInner (h t ht)

end Token

open Token (AllInner)

theorem Literal.Yields.inner {l : Literal} {ts : List Token} (h : l.Yields ts) :
    AllInner ts := by
  cases h with
  | string hk | number hk | word hk => simp [hk]

theorem Literal.YieldsList.inner {ls : List Literal} {ts : List Token}
    (h : Literal.YieldsList ls ts) : AllInner ts := by
  induction h with
  | one h => exact h.inner
  | more h hc _ ih => simp [h.inner, ih, hc]

theorem Segment.Yields.inner {steps : List Segment} {ts : List Token}
    (h : Segment.Yields steps ts) : AllInner ts := by
  cases h with
  | key hd hk => simp [hd, hk]
  | index hd hk | decimal hd hk => simp [hd, hk]
  | bracketIndex hl hk _ hr => simp [hl, hk, hr]
  | bracketKey hl hk hr => simp [hl, hk, hr]

theorem Segment.YieldsList.inner {steps : List Segment} {ts : List Token}
    (h : Segment.YieldsList steps ts) : AllInner ts := by
  induction h with
  | nil => simp
  | cons h _ ih => simp [h.inner, ih]

theorem PipeCall.YieldsArgs.inner {args : List Literal} {ts : List Token}
    (h : PipeCall.YieldsArgs args ts) : AllInner ts := by
  cases h with
  | bare => simp
  | empty hl hr => simp [hl, hr]
  | some hl hargs hr => simp [hl, hargs.inner, hr]

theorem PipeCall.YieldsList.inner {calls : List PipeCall} {ts : List Token}
    (h : PipeCall.YieldsList calls ts) : AllInner ts := by
  induction h with
  | nil => simp
  | cons hbar hname hargs _ ih => simp [hbar, hname, hargs.inner, ih]

theorem Operand.Yields.inner {o : Operand} {ts : List Token} (h : o.Yields ts) :
    AllInner ts := by
  cases h with
  | mk hterm hpipes =>
    cases hterm with
    | literal h => exact Token.allInner_append.2 ⟨h.inner, hpipes.inner⟩
    | path hc hp =>
      cases hp with
      | mk hroot hsteps => simp [hc, hroot, hsteps.inner, hpipes.inner]

theorem Expr.Yields.inner {level : Expr.Level} {e : Expr} {ts : List Token}
    (h : e.Yields level ts) : AllInner ts := by
  induction h with
  | operand ho => exact ho.inner
  | not hn _ ih => simp [hn, ih]
  | group hl _ hr ih => simp [hl, hr, ih]
  | side _ ih | conjunct _ ih | disjunct _ ih => exact ih
  | compare _ ht _ ihl ihr | and _ ht _ ihl ihr | or _ ht _ ihl ihr =>
    simp [ihl, ihr, ht]

theorem Loop.Yields.inner {l : Loop} {ts : List Token} (h : l.Yields ts) : AllInner ts := by
  induction h with
  | bare hitem hindex hk _ hsource =>
    cases hitem with
    | mk hi =>
      cases hindex with
      | none => simp [hi, hk, hsource.inner]
      | some hc hb =>
        cases hb with
        | mk hb => simp [hi, hc, hb, hk, hsource.inner]
  | delimiter _ _ hk _ hv ih | opening _ _ hk _ hv ih | closing _ _ hk _ hv ih =>
    simp [ih, hk, hv]

theorem Block.YieldsMessage.inner {m : Option String} {ts : List Token}
    (h : Block.YieldsMessage m ts) : AllInner ts := by
  cases h with
  | none => simp
  | some hk => simp [hk]

theorem Block.YieldsCheck.inner {x : Expr × String} {ts : List Token}
    (h : Block.YieldsCheck x ts) : AllInner ts := by
  cases h with
  | mk ht hw hm => simp [ht.inner, hw, hm]

theorem Block.YieldsDefinition.inner {x : Binding × Expr} {ts : List Token}
    (h : Block.YieldsDefinition x ts) : AllInner ts := by
  cases h with
  | mk hname he hv =>
    cases hname with
    | mk hk => simp [hk, he, hv.inner]

end LineTemplate
