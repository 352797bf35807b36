import Mathlib
import LineTemplate.Proofs.Footprint
import LineTemplate.Proofs.Parsing
import LineTemplate.Proofs.SyntaxErrors

/-!
# The inventory of a template

Reading a template loses no line and counts none twice. The tokens of every part of a template are
accounted for by what the part mentions and by its text: each directive token is one that the
outline counts or closes one of these, no token is unknown, all that is opened is closed again, and
every text token is a block of text but for the blank lines between the branches of a selection,
which are dropped.

`Accounted` says this of a row of tokens. It holds of a single line, is kept when rows are put
together, and is kept when a row is put between a line that opens a block and the one that closes
it; the rest is an induction on the grammar.
-/

namespace LineTemplate

/-! ### Directives -/

namespace Directive

/-- The words that open a block or a branch, each with the one that closes it. -/
def pairs : List (Directive × Directive) :=
  [(.condition, .endCondition), (.switch, .endSelection), (.choose, .endSelection),
    (.case, .endBranch), (.when, .endBranch), (.default, .endBranch), (.loop, .endLoop),
    (.guard, .endGuard)]

/-- What a word is there for: the words that it may close, or itself. -/
def openers : Directive → List Directive
  | .endCondition => [.condition]
  | .endSelection => [.switch, .choose]
  | .endBranch => [.case, .when, .default]
  | .endLoop => [.loop]
  | .endGuard => [.guard]
  | d => [d]

/-- The block that the word opens has branches. -/
def selects : Directive → Bool
  | .switch | .choose => true
  | _ => false

theorem openers_of_notMem {d : Directive} (h : d ∉ closers) : d.openers = [d] := by
  have hall : ∀ d ∈ all, d ∉ closers → d.openers = [d] := by decide
  exact hall d (mem_all d) h

theorem count_of_pair {d e : Directive} (h : (d, e) ∈ pairs) (c : Directive) :
    [d].count c + [e].count c = c.openers.count d := by
  have hall : ∀ p ∈ pairs, ∀ c ∈ all, [p.1].count c + [p.2].count c = c.openers.count p.1 := by
    decide
  exact hall (d, e) h c (mem_all c)

theorem count_of_single {d : Directive} (h : d ∈ [otherwise, check, define]) (c : Directive) :
    [d].count c = c.openers.count d := by
  have hall : ∀ d ∈ [otherwise, check, define], ∀ c ∈ all, [d].count c = c.openers.count d := by
    decide
  exact hall d h c (mem_all c)

/-- The innermost of the open words is that of a selection: no branch of it is open. -/
def between (outer : List Directive) : Bool := outer.head?.any selects

/-- The open words behind one more word, innermost first. -/
def nowOpen (outer : List Directive) (d : Directive) : List Directive :=
  if d.opens then d :: outer else if d ∈ closers then outer.tail else outer

theorem nowOpen_of_pair {d e : Directive} (h : (d, e) ∈ pairs) (outer : List Directive) :
    nowOpen outer d = d :: outer ∧ nowOpen (d :: outer) e = outer := by
  have hall : ∀ p ∈ pairs, p.1.opens = true ∧ p.2.opens = false ∧ p.2 ∈ closers := by decide
  obtain ⟨hd, he, hc⟩ := hall (d, e) h
  simp only [nowOpen, hd, he, hc, if_true, Bool.false_eq_true, if_false, List.tail_cons, and_self]

theorem nowOpen_of_single {d : Directive} (h : d ∈ [otherwise, check, define])
    (outer : List Directive) : nowOpen outer d = outer := by
  have hall : ∀ d ∈ [otherwise, check, define], d.opens = false ∧ d ∉ closers := by decide
  obtain ⟨hd, hc⟩ := hall d h
  simp only [nowOpen, hd, hc, Bool.false_eq_true, if_false]

end Directive

/-! ### Tokens -/

namespace Token

/-- How many of the tokens are this directive. -/
def count (d : Directive) (T : List Token) : Nat := T.countP (·.kind = .directive d)

/-- The directives that are open behind one more token, innermost first. -/
def nowOpen (outer : List Directive) (t : Token) : List Directive :=
  match t.kind with
  | .directive d => Directive.nowOpen outer d
  | _ => outer

/-- The text tokens behind the directives that are open, without the blank ones that stand
between the branches of a selection. -/
def kept (outer : List Directive) : List Token → List Token
  | [] => []
  | t :: more =>
    let rest := kept (t.nowOpen outer) more
    if t.kind ≠ .text then rest
    else if Directive.between outer && Text.isBlank t.literal then rest
    else t :: rest

/-- Neither text nor a directive nor unknown. -/
def Quiet (t : Token) : Prop :=
  t.kind ≠ .text ∧ t.kind ≠ .unknown ∧ ∀ d, t.kind ≠ .directive d

theorem AllInner.quiet {ts : List Token} (h : AllInner ts) : ∀ t ∈ ts, t.Quiet := by
  intro t ht
  have hi := h t ht
  refine ⟨fun hk => ?_, fun hk => ?_, fun d hk => ?_⟩
  all_goals
    rw [hk] at hi
    cases hi

variable {T U : List Token}

theorem count_append (d : Directive) : count d (T ++ U) = count d T + count d U :=
  List.countP_append

theorem kept_append (outer : List Directive) :
    kept outer (T ++ U) = kept outer T ++ kept (T.foldl nowOpen outer) U := by
  induction T generalizing outer with
  | nil => rfl
  | cons t more ih =>
    simp only [List.cons_append, kept, ih, List.foldl_cons]
    split_ifs <;> rfl

theorem kept_sublist (outer : List Directive) :
    (kept outer T).Sublist (T.filter (·.kind = .text)) := by
  induction T generalizing outer with
  | nil => exact .slnil
  | cons t more ih =>
    by_cases hk : t.kind = .text
    · have hrest := ih (t.nowOpen outer)
      simp only [kept, hk, ne_eq, not_true_eq_false, if_false, List.filter_cons, decide_true,
        if_true]
      split_ifs
      · exact hrest.cons t
      · exact hrest.cons_cons t
    · simpa [kept, hk] using ih (t.nowOpen outer)

section Quiet

variable (h : ∀ t ∈ T, t.Quiet)

include h

theorem count_of_quiet (d : Directive) : count d T = 0 :=
  List.countP_eq_zero.2 fun t ht => by simpa using (h t ht).2.2 d

theorem foldl_nowOpen_of_quiet (outer : List Directive) : T.foldl nowOpen outer = outer := by
  induction T with
  | nil => rfl
  | cons t more ih =>
    have ht : t.nowOpen outer = outer := by
      unfold nowOpen
      split
      · next d hk => exact absurd hk ((h t List.mem_cons_self).2.2 d)
      · rfl
    rw [List.foldl_cons, ht]
    exact ih fun u hu => h u (List.mem_cons_of_mem t hu)

theorem kept_of_quiet (outer : List Directive) : kept outer T = [] := by
  induction T generalizing outer with
  | nil => rfl
  | cons t more ih =>
    have ht : t.kind ≠ .text := (h t List.mem_cons_self).1
    simp only [kept, ht, ne_eq, not_false_eq_true, if_true]
    exact ih (fun u hu => h u (List.mem_cons_of_mem t hu)) _

end Quiet

end Token

/-! ### Directive lines -/

namespace Directive.Yields

variable {d : Directive} {pos : Position} {ts L : List Token} (h : d.Yields pos ts L)
  (hts : Token.AllInner ts)

include h hts

/-- A directive line is the word of the directive, and all else on it is quiet. -/
theorem exists_quiet : ∃ w rest, L = w :: rest ∧ w.kind = .directive d ∧ ∀ t ∈ rest, t.Quiet := by
  cases h with
  | @mk w n hw _ hn =>
    have hstop : n.Quiet := by simp [Token.Quiet, hn]
    refine ⟨w, ts ++ [n], rfl, hw, fun t ht => ?_⟩
    rcases List.mem_append.1 ht with ht | ht
    · exact hts.quiet t ht
    · cases List.mem_singleton.1 ht
      exact hstop

theorem count (c : Directive) : Token.count c L = [d].count c := by
  obtain ⟨w, rest, rfl, hw, hq⟩ := exists_quiet h hts
  have hrest := Token.count_of_quiet hq c
  rw [Token.count] at hrest ⊢
  simp [List.countP_cons, hrest, hw, List.count_singleton]

theorem known : ∀ t ∈ L, t.kind ≠ .unknown := by
  obtain ⟨w, rest, rfl, hw, hq⟩ := exists_quiet h hts
  refine List.forall_mem_cons.2 ⟨?_, fun t ht => (hq t ht).2.1⟩
  rw [hw]
  exact Token.Kind.noConfusion

theorem foldl_nowOpen (outer : List Directive) :
    L.foldl Token.nowOpen outer = Directive.nowOpen outer d := by
  obtain ⟨w, rest, rfl, hw, hq⟩ := exists_quiet h hts
  rw [List.foldl_cons, Token.foldl_nowOpen_of_quiet hq]
  simp only [Token.nowOpen, hw]

theorem kept (outer : List Directive) : Token.kept outer L = [] := by
  obtain ⟨w, rest, rfl, hw, hq⟩ := exists_quiet h hts
  simp [Token.kept, hw, Token.kept_of_quiet hq]

end Directive.Yields

/-! ### Mentions of directives -/

namespace Mention

theorem count_ofOperand (o : Operand) (c : Directive) :
    (ofOperand o).count (.directive c) = 0 := by
  refine List.count_eq_zero.2 fun h => ?_
  rcases List.mem_append.1 h with h | h
  · split at h <;> simp at h
  · simp at h

theorem count_ofExpr (e : Expr) (c : Directive) : (ofExpr e).count (.directive c) = 0 := by
  refine List.count_eq_zero.2 fun h => ?_
  obtain ⟨o, -, ho⟩ := List.mem_flatMap.1 h
  exact List.count_eq_zero.1 (count_ofOperand o c) ho

theorem count_ofLoop (l : Loop) (c : Directive) : (ofLoop l).count (.directive c) = 0 := by
  have hindex : (l.index.toList.map (binding ·.name)).count (.directive c) = 0 :=
    List.count_eq_zero.2 (by simp)
  simp [ofLoop, List.count_append, count_ofOperand, hindex]

theorem count_ofLine (line : String) (c : Directive) : (ofLine line).count (.directive c) = 0 :=
  List.count_eq_zero.2 (by simp [ofLine])

variable (inLoop : Bool)

theorem ofBlocks_append (bs cs : List Block) :
    ofBlocks inLoop (bs ++ cs) = ofBlocks inLoop bs ++ ofBlocks inLoop cs := by
  induction bs with
  | nil => rfl
  | cons b more ih => simp only [List.cons_append, ofBlocks, ih, List.append_assoc]

theorem ofCases_append (cs ds : List (Branch (List Literal) Block)) :
    ofCases inLoop (cs ++ ds) = ofCases inLoop cs ++ ofCases inLoop ds := by
  induction cs with
  | nil => rfl
  | cons c more ih => simp only [List.cons_append, ofCases, ih, List.append_assoc]

theorem ofWhens_append (ws vs : List (Branch Expr Block)) :
    ofWhens inLoop (ws ++ vs) = ofWhens inLoop ws ++ ofWhens inLoop vs := by
  induction ws with
  | nil => rfl
  | cons w more ih => simp only [List.cons_append, ofWhens, ih, List.append_assoc]

end Mention

/-- How many words of the kind `d` there are in a template with these mentions. -/
def Directive.dueTo (ms : List Mention) (d : Directive) : Nat :=
  (d.openers.map fun c => ms.count (.directive c)).sum

namespace Directive

theorem dueTo_append (ms ns : List Mention) (d : Directive) :
    d.dueTo (ms ++ ns) = d.dueTo ms + d.dueTo ns := by
  simp only [dueTo, List.count_append, List.sum_map_add]

theorem dueTo_single (c d : Directive) : d.dueTo [.directive c] = d.openers.count c := by
  rw [dueTo]
  induction d.openers with
  | nil => rfl
  | cons o more ih =>
    rw [List.map_cons, List.sum_cons, ih, List.count_cons]
    by_cases ho : o = c
    · subst ho
      simp [Nat.add_comm]
    · have hne : c ≠ o := fun h => ho h.symm
      simp [ho, hne]

theorem dueTo_congr {ms ns : List Mention}
    (h : ∀ c, ms.count (.directive c) = ns.count (.directive c)) (d : Directive) :
    d.dueTo ms = d.dueTo ns := by
  simp only [dueTo, h]

end Directive

/-! ### Texts of blocks -/

namespace Block

mutual

/-- The blocks of text in a block, with their places. -/
def texts : Block → List (String × Position)
  | .text content pos => [(content, pos)]
  | .condition _ body otherwise _ => textsAll body ++ textsOption otherwise
  | .switch _ cases default _ => textsCases cases ++ textsOption default
  | .choose whens default _ => textsWhens whens ++ textsOption default
  | .loop _ body _ => textsAll body
  | .guard _ body _ _ => textsAll body
  | .check _ _ _ => []
  | .define _ _ _ => []

def textsAll : List Block → List (String × Position)
  | [] => []
  | b :: more => texts b ++ textsAll more

def textsOption : Option (List Block) → List (String × Position)
  | none => []
  | some body => textsAll body

def textsCases : List (Branch (List Literal) Block) → List (String × Position)
  | [] => []
  | ⟨_, body, _⟩ :: more => textsAll body ++ textsCases more

def textsWhens : List (Branch Expr Block) → List (String × Position)
  | [] => []
  | ⟨_, body, _⟩ :: more => textsAll body ++ textsWhens more

end

theorem textsAll_append (bs cs : List Block) :
    textsAll (bs ++ cs) = textsAll bs ++ textsAll cs := by
  induction bs with
  | nil => rfl
  | cons b more ih => simp only [List.cons_append, textsAll, ih, List.append_assoc]

theorem textsCases_append (cs ds : List (Branch (List Literal) Block)) :
    textsCases (cs ++ ds) = textsCases cs ++ textsCases ds := by
  induction cs with
  | nil => rfl
  | cons c more ih => simp only [List.cons_append, textsCases, ih, List.append_assoc]

theorem textsWhens_append (ws vs : List (Branch Expr Block)) :
    textsWhens (ws ++ vs) = textsWhens ws ++ textsWhens vs := by
  induction ws with
  | nil => rfl
  | cons w more ih => simp only [List.cons_append, textsWhens, ih, List.append_assoc]

end Block

/-! ### Rows of tokens that are accounted for -/

/-- The row of tokens is accounted for by what is mentioned and by these texts. It stands between
the branches of a selection, or anywhere else. -/
structure Accounted (between : Bool) (T : List Token) (ms : List Mention)
    (texts : List (String × Position)) : Prop where
  directives : ∀ d, Token.count d T = d.dueTo ms
  known : ∀ t ∈ T, t.kind ≠ .unknown
  closed : ∀ outer, T.foldl Token.nowOpen outer = outer
  texts : ∀ outer, Directive.between outer = between →
    ((Token.kept outer T).map fun t => (t.literal, t.pos)).Perm texts

namespace Accounted

variable {between : Bool} {T U : List Token} {ms ns : List Mention}
  {xs ys : List (String × Position)}

theorem nil : Accounted between [] [] [] where
  directives d := by
    rw [Directive.dueTo]
    simp [Token.count]
  known t ht := nomatch ht
  closed outer := rfl
  texts outer _ := .refl []

theorem append (h : Accounted between T ms xs) (h' : Accounted between U ns ys) :
    Accounted between (T ++ U) (ms ++ ns) (xs ++ ys) where
  directives d := by rw [Token.count_append, Directive.dueTo_append, h.directives, h'.directives]
  known := List.forall_mem_append.2 ⟨h.known, h'.known⟩
  closed outer := by rw [List.foldl_append, h.closed, h'.closed]
  texts outer ho := by
    rw [Token.kept_append, h.closed, List.map_append]
    exact (h.texts outer ho).append (h'.texts outer ho)

/-- Only the mentions of directives count, and the texts in any order. -/
theorem congr (h : Accounted between T ms xs)
    (hm : ∀ c, ms.count (.directive c) = ns.count (.directive c)) (hx : xs.Perm ys) :
    Accounted between T ns ys where
  directives d := by rw [h.directives, Directive.dueTo_congr hm]
  known := h.known
  closed := h.closed
  texts outer ho := (h.texts outer ho).trans hx

theorem text {t : Token} (ht : t.kind = .text) :
    Accounted false [t] [] [(t.literal, t.pos)] where
  directives d := by
    rw [Directive.dueTo]
    simp [Token.count, ht]
  known := by simp [ht]
  closed outer := by simp [Token.nowOpen, ht]
  texts outer ho := by simp [Token.kept, ht, ho]

theorem blank {t : Token} (ht : t.kind = .text) (hb : Text.isBlank t.literal = true) :
    Accounted true [t] [] [] where
  directives d := by
    rw [Directive.dueTo]
    simp [Token.count, ht]
  known := by simp [ht]
  closed outer := by simp [Token.nowOpen, ht]
  texts outer ho := by simp [Token.kept, ht, ho, hb]

/-- A directive that stands alone. -/
theorem single (between : Bool) {d : Directive} (hd : d ∈ [Directive.otherwise, .check, .define])
    {pos : Position} {ts L : List Token} (hl : d.Yields pos ts L)
    (hts : Token.AllInner ts) : Accounted between L [.directive d] [] where
  directives c := by
    rw [hl.count hts, Directive.dueTo_single]
    exact Directive.count_of_single hd c
  known := hl.known hts
  closed outer := by rw [hl.foldl_nowOpen hts, Directive.nowOpen_of_single hd]
  texts outer _ := by
    rw [hl.kept hts]
    exact .refl []

/-- A row between the line that opens a block or a branch and the line that closes it. -/
theorem around (between : Bool) {d e : Directive} (hp : (d, e) ∈ Directive.pairs)
    {pos stop : Position} {ts us L M : List Token} (hl : d.Yields pos ts L)
    (hts : Token.AllInner ts) (hm : e.Yields stop us M) (hus : Token.AllInner us)
    (h : Accounted d.selects T ms xs) :
    Accounted between (L ++ T ++ M) (.directive d :: ms) xs where
  directives c := by
    have hpair := Directive.count_of_pair hp c
    have hdue : c.dueTo (.directive d :: ms) = c.openers.count d + c.dueTo ms := by
      rw [← List.singleton_append, Directive.dueTo_append, Directive.dueTo_single]
    rw [Token.count_append, Token.count_append, hl.count hts, hm.count hus, h.directives, hdue]
    omega
  known := List.forall_mem_append.2
    ⟨List.forall_mem_append.2 ⟨hl.known hts, h.known⟩, hm.known hus⟩
  closed outer := by
    obtain ⟨hopen, hclose⟩ := Directive.nowOpen_of_pair hp outer
    rw [List.foldl_append, List.foldl_append, hl.foldl_nowOpen hts, hopen, h.closed,
      hm.foldl_nowOpen hus, hclose]
  texts outer _ := by
    obtain ⟨hopen, -⟩ := Directive.nowOpen_of_pair hp outer
    have hrow := h.texts (d :: outer) rfl
    rw [Token.kept_append, Token.kept_append, hl.kept hts, hm.kept hus, hl.foldl_nowOpen hts,
      hopen, List.nil_append, List.append_nil]
    exact hrow

end Accounted

/-! ### The grammar -/

namespace Phrase

def between : Phrase → Bool
  | .block _ | .blocks _ => false
  | .cases _ _ | .whens _ _ => true

def mentions (inLoop : Bool) : Phrase → List Mention
  | .block b => Mention.ofBlock inLoop b
  | .blocks bs => Mention.ofBlocks inLoop bs
  | .cases cs default => Mention.ofCases inLoop cs ++ Mention.ofOption inLoop .default default
  | .whens ws default => Mention.ofWhens inLoop ws ++ Mention.ofOption inLoop .default default

def texts : Phrase → List (String × Position)
  | .block b => b.texts
  | .blocks bs => Block.textsAll bs
  | .cases cs default => Block.textsCases cs ++ Block.textsOption default
  | .whens ws default => Block.textsWhens ws ++ Block.textsOption default

open Token (allInner_nil)

/-- What the grammar derives from a phrase is accounted for by the phrase. -/
theorem Yields.accounted {phrase : Phrase} {T : List Token} (h : phrase.Yields T)
    (inLoop : Bool) : Accounted phrase.between T (phrase.mentions inLoop) phrase.texts := by
  induction h generalizing inLoop with
  | text ht =>
    refine (Accounted.text ht).congr (fun c => ?_) (.refl _)
    cases inLoop with
    | false => rfl
    | true => exact (Mention.count_ofLine _ c).symm
  | condition ht hl _ he ih =>
    have h := Accounted.around false (by decide) hl ht.inner he allInner_nil (ih inLoop)
    refine h.congr (fun c => ?_) ?_
    · simp [mentions, Mention.ofBlock, Mention.ofOption, Mention.count_ofExpr, List.count_cons]
    · simp [texts, Block.texts, Block.textsOption]
  | alternative ht hl _ hm _ he ih ihMore =>
    have hmid := Accounted.single false (by decide) hm allInner_nil
    have hrow := ((ih inLoop).append hmid).append (ihMore inLoop)
    have h := Accounted.around false (by decide) hl ht.inner he allInner_nil hrow
    rw [← List.append_assoc, ← List.append_assoc] at h
    refine h.congr (fun c => ?_) ?_
    · simp [mentions, Mention.ofBlock, Mention.ofOption, Mention.count_ofExpr, List.count_cons]
    · simp [texts, Block.texts, Block.textsOption]
  | switch ho hl _ he ih =>
    have h := Accounted.around false (by decide) hl ho.inner he allInner_nil (ih inLoop)
    refine h.congr (fun c => ?_) (.refl _)
    simp [mentions, Mention.ofBlock, Mention.count_ofOperand, List.count_cons]
  | choose hl _ he ih =>
    exact Accounted.around false (by decide) hl allInner_nil he allInner_nil (ih inLoop)
  | loop hh hl _ he ih =>
    have h := Accounted.around false (by decide) hl hh.inner he allInner_nil (ih true)
    refine h.congr (fun c => ?_) (.refl _)
    simp [mentions, Mention.ofBlock, Mention.count_ofLoop, List.count_cons]
  | guard ht hl _ hm he ih =>
    have h := Accounted.around false (by decide) hl ht.inner he hm.inner (ih inLoop)
    refine h.congr (fun c => ?_) (.refl _)
    simp [mentions, Mention.ofBlock, Mention.count_ofExpr, List.count_cons]
  | check hc hl =>
    refine (Accounted.single false (by decide) hl hc.inner).congr (fun c => ?_) (.refl _)
    simp [mentions, Mention.ofBlock, Mention.count_ofExpr, List.count_cons]
  | define hd hl =>
    refine (Accounted.single false (by decide) hl hd.inner).congr (fun c => ?_) (.refl _)
    simp [mentions, Mention.ofBlock, Mention.count_ofExpr, List.count_cons]
  | nil => exact .nil
  | snoc _ _ ih ihLast =>
    refine ((ih inLoop).append (ihLast inLoop)).congr (fun c => ?_) ?_
    · simp [mentions, Mention.ofBlocks_append, Mention.ofBlocks]
    · simp [texts, Block.textsAll_append, Block.textsAll]
  | noCases | noWhens => exact .nil
  | casesBlank _ ht hb ih | whensBlank _ ht hb ih =>
    refine ((ih inLoop).append (.blank ht hb)).congr (fun c => ?_) ?_
    · rw [List.append_nil]
    · rw [List.append_nil]
  | case _ hv hl _ he ih ihBody =>
    have hbranch := Accounted.around true (by decide) hl hv.inner he allInner_nil (ihBody inLoop)
    refine ((ih inLoop).append hbranch).congr (fun c => ?_) ?_
    · simp only [mentions, Mention.ofCases_append, Mention.ofCases, List.count_append,
        List.count_cons, List.append_nil]
      omega
    · simp only [texts, Block.textsCases_append, Block.textsCases, List.append_nil]
      rw [List.append_assoc, List.append_assoc]
      exact List.perm_append_comm.append_left _
  | casesDefault _ hl _ he ih ihBody =>
    have hbranch := Accounted.around true (by decide) hl allInner_nil he allInner_nil
      (ihBody inLoop)
    refine ((ih inLoop).append hbranch).congr (fun c => ?_) ?_
    · simp [mentions, Mention.ofOption]
    · simp [texts, Block.textsOption]
  | when _ ht hl _ he ih ihBody =>
    have hbranch := Accounted.around true (by decide) hl ht.inner he allInner_nil (ihBody inLoop)
    refine ((ih inLoop).append hbranch).congr (fun c => ?_) ?_
    · simp only [mentions, Mention.ofWhens_append, Mention.ofWhens, List.count_append,
        List.count_cons, List.append_nil, Mention.count_ofExpr]
      omega
    · simp only [texts, Block.textsWhens_append, Block.textsWhens, List.append_nil]
      rw [List.append_assoc, List.append_assoc]
      exact List.perm_append_comm.append_left _
  | whensDefault _ hl _ he ih ihBody =>
    have hbranch := Accounted.around true (by decide) hl allInner_nil he allInner_nil
      (ihBody inLoop)
    refine ((ih inLoop).append hbranch).congr (fun c => ?_) ?_
    · simp [mentions, Mention.ofOption]
    · simp [texts, Block.textsOption]

end Phrase

/-! ### Texts in the order of their places -/

/-- In the order of reading. -/
def Position.upTo (p q : Position) : Bool :=
  p.line < q.line || (p.line = q.line && p.column ≤ q.column)

namespace Line

theorem le_line_of_mem {n : Nat} {pieces : List (List Char)} {t : Token}
    (h : t ∈ (ofCut n pieces).flatMap tokens) : n ≤ t.pos.line := by
  induction pieces generalizing n with
  | nil => cases h
  | cons cs more ih =>
    rw [ofCut, List.flatMap_cons] at h
    rcases List.mem_append.1 h with h | h
    · rw [line_of_mem_tokens h]
    · have hmore := ih h
      omega

theorem filter_text_of_wordy {line : Line} (h : line.Wordy) :
    line.tokens.filter (·.kind = .text) = [] ∨ ∃ t, line.tokens.filter (·.kind = .text) = [t] := by
  cases line with
  | text content pos => exact .inr ⟨⟨.text, content, pos⟩, rfl⟩
  | directive words stop =>
    refine .inl (List.filter_eq_nil_iff.2 fun t ht => ?_)
    rcases List.mem_append.1 ht with ht | ht
    · have hw := h t ht
      intro hk
      rw [of_decide_eq_true hk] at hw
      cases hw
    · cases List.mem_singleton.1 ht
      exact Bool.false_ne_true

/-- Every line has at most one text token, so these stand on lines further and further down. -/
theorem pairwise_texts (n : Nat) (pieces : List (List Char)) :
    (((ofCut n pieces).flatMap tokens).filter (·.kind = .text)).Pairwise
      fun t u => t.pos.line < u.pos.line := by
  induction pieces generalizing n with
  | nil => exact .nil
  | cons cs more ih =>
    rw [ofCut, List.flatMap_cons, List.filter_append]
    refine List.pairwise_append.2 ⟨?_, ih (n + 1), fun t ht u hu => ?_⟩
    · rcases filter_text_of_wordy (wordy_ofChars n cs) with h | ⟨t, h⟩
      · rw [h]
        exact .nil
      · rw [h]
        exact List.pairwise_singleton _ t
    · have hline := line_of_mem_tokens (List.mem_of_mem_filter ht)
      have hbelow := le_line_of_mem (List.mem_of_mem_filter hu)
      omega

end Line

theorem Position.upTo_iff {p q : Position} :
    p.upTo q = true ↔ p.line < q.line ∨ p.line = q.line ∧ p.column ≤ q.column := by
  simp [upTo]

/-- The texts of tokens on lines further and further down, in any order, are put in the order of
the tokens by sorting. -/
theorem Block.mergeSort_texts {T : List Token} {xs : List (String × Position)}
    (hT : T.Pairwise fun t u => t.pos.line < u.pos.line)
    (hx : (T.map fun t => (t.literal, t.pos)).Perm xs) :
    xs.mergeSort (fun a b => a.2.upTo b.2) = T.map fun t => (t.literal, t.pos) := by
  have hperm := (List.mergeSort_perm xs fun a b => a.2.upTo b.2).trans hx.symm
  have hlines : (T.map fun t => (t.literal, t.pos)).Pairwise fun a b => a.2.line < b.2.line :=
    List.pairwise_map.2 hT
  have hsorted : (xs.mergeSort fun a b => a.2.upTo b.2).Pairwise
      fun a b => a.2.upTo b.2 = true := by
    refine List.pairwise_mergeSort (fun a b c => ?_) (fun a b => ?_) xs
    · simp only [Position.upTo_iff]
      omega
    · simp only [Bool.or_eq_true, Position.upTo_iff]
      omega
  have hdistinct : ((T.map fun t => (t.literal, t.pos)).map (·.2.line)).Nodup :=
    List.pairwise_map.2 (hlines.imp Nat.ne_of_lt)
  refine List.Perm.eq_of_pairwise (fun a b ha hb hab hba => ?_) hsorted
    (hlines.imp fun hlt => Position.upTo_iff.2 (.inl hlt)) hperm
  -- two places that are up to each other are on one line, and no line has two texts
  rw [Position.upTo_iff] at hab hba
  have hline : a.2.line = b.2.line := by omega
  exact List.inj_on_of_nodup_map hdistinct (hperm.mem_iff.1 ha) hb hline

/-! ### Whole templates -/

namespace Template

/-- The tokens of a text that can be read are those that its outline counts and the words that
close these, together with its blocks of text; no token is unknown, and no text is lost but for
the blank lines between the branches of selections. -/
theorem inventory_of_ofText {text : String} {t : Template} (h : ofText text = .ok t) :
    ∃ o, Outline.ofText text = .ok o ∧
      (∀ d : Directive, d ∉ Directive.closers →
        Token.count d (Token.tokenize text) = o.count d) ∧
      Token.count .endCondition (Token.tokenize text) =
        Token.count .condition (Token.tokenize text) ∧
      Token.count .endLoop (Token.tokenize text) = Token.count .loop (Token.tokenize text) ∧
      Token.count .endGuard (Token.tokenize text) = Token.count .guard (Token.tokenize text) ∧
      Token.count .endSelection (Token.tokenize text) =
        Token.count .switch (Token.tokenize text) + Token.count .choose (Token.tokenize text) ∧
      Token.count .endBranch (Token.tokenize text) =
        Token.count .case (Token.tokenize text) + Token.count .when (Token.tokenize text) +
          Token.count .default (Token.tokenize text) ∧
      (∀ token ∈ Token.tokenize text, token.kind ≠ .unknown) ∧
      (Block.textsAll t.blocks).mergeSort (fun a b => a.2.upTo b.2) =
        (Token.kept [] (Token.tokenize text)).map fun token => (token.literal, token.pos) := by
  have hlines := (yields_of_ofText h).accounted false
  -- behind the lines stands the end of the template, and nothing depends on it
  have hend : ∀ u ∈ [(⟨.endOfTemplate, "", Token.endOf 0 (Text.cutLines text.toList)⟩ : Token)],
      u.Quiet := by simp [Token.Quiet]
  have hcount : ∀ d, Token.count d (Token.tokenize text) =
      Token.count d ((Line.ofText text).flatMap Line.tokens) := by
    intro d
    rw [Token.tokenize, Token.count_append, Token.count_of_quiet hend, Nat.add_zero]
  have hkept : Token.kept [] (Token.tokenize text) =
      Token.kept [] ((Line.ofText text).flatMap Line.tokens) := by
    rw [Token.tokenize, Token.kept_append, Token.kept_of_quiet hend, List.append_nil]
  have hdue : ∀ d : Directive, Token.count d (Token.tokenize text) =
      (d.openers.map fun c => (Outline.ofBlocks t.blocks).count c).sum := by
    intro d
    rw [hcount, hlines.directives, Directive.dueTo]
    simp only [Outline.ofBlocks, Outline.count_ofMentions, Phrase.mentions]
  have hself : ∀ d : Directive, d ∉ Directive.closers →
      Token.count d (Token.tokenize text) = (Outline.ofBlocks t.blocks).count d := by
    intro d hd
    rw [hdue, Directive.openers_of_notMem hd, List.map_singleton, List.sum_singleton]
  have hclose : ∀ d ∈ Directive.closers, Token.count d (Token.tokenize text) =
      (d.openers.map fun c => Token.count c (Token.tokenize text)).sum := by
    intro d hd
    have hopeners : ∀ e ∈ Directive.closers, ∀ c ∈ e.openers, c ∉ Directive.closers := by decide
    rw [hdue]
    exact congrArg List.sum (List.map_congr_left fun c hc => (hself c (hopeners d hd c hc)).symm)
  refine ⟨_, bind_eq_ok.2 ⟨t, h, rfl⟩, hself, ?_, ?_, ?_, ?_, ?_, ?_, ?_⟩
  · simpa [Directive.openers] using hclose .endCondition (by decide)
  · simpa [Directive.openers] using hclose .endLoop (by decide)
  · simpa [Directive.openers] using hclose .endGuard (by decide)
  · simpa [Directive.openers] using hclose .endSelection (by decide)
  · simpa [Directive.openers, Nat.add_assoc] using hclose .endBranch (by decide)
  · exact List.forall_mem_append.2 ⟨hlines.known, fun u hu => (hend u hu).2.1⟩
  · rw [hkept]
    refine Block.mergeSort_texts ?_ (hlines.texts [] rfl)
    exact (Line.pairwise_texts 0 _).sublist (Token.kept_sublist [])

/-- A selection whose default branch comes first: the blank line in front of it is dropped, the one
in it stays, and the tree has the texts in another order than the lines. -/
theorem inventory_of_ofText_switch :
    let text := "#switch :a\n\n#default\n\n#break\n#case b\none\n#break\n#end"
    ∃ t o, ofText text = .ok t ∧ Outline.ofText text = .ok o ∧
      Block.textsAll t.blocks = [("one", ⟨6, 0⟩), ("", ⟨3, 0⟩)] ∧
      (Block.textsAll t.blocks).mergeSort (fun a b => a.2.upTo b.2) =
        [("", ⟨3, 0⟩), ("one", ⟨6, 0⟩)] ∧
      Token.count .endBranch (Token.tokenize text) = o.count .case + o.count .default := by
  intro text
  have hblocks : Block.ofText text = .ok [.switch ⟨.variable ⟨"a", []⟩, [], ⟨0, 8⟩⟩
      [⟨[.string "b"], [.text "one" ⟨6, 0⟩], ⟨5, 0⟩⟩] (some [.text "" ⟨3, 0⟩]) ⟨0, 0⟩] := by cbv
  have ht := ofText_of_blocks hblocks
  obtain ⟨o, ho, hcount, -, -, -, -, hbranch, -, htexts⟩ := inventory_of_ofText ht
  have hkept : (Token.kept [] (Token.tokenize text)).map (fun t => (t.literal, t.pos)) =
      [("", ⟨3, 0⟩), ("one", ⟨6, 0⟩)] := by cbv
  have hwhen : Token.count .when (Token.tokenize text) = 0 := by cbv
  refine ⟨_, o, ht, ho, rfl, htexts.trans hkept, ?_⟩
  rw [hbranch, hwhen, hcount .case (by decide), hcount .default (by decide)]
  rfl

end Template

end LineTemplate
