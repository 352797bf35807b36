import LineTemplate.Proofs.Headers

/-!
# How a draft grows

`Adds` says which draft a line makes of another one, with the grammar for the words of the line in
place of the readers. A draft takes a line exactly when `Adds` holds.
-/

namespace LineTemplate

/-- The line is that of the directive `d`, whose word is at `pos` and has `words` behind it. -/
inductive Line.Says (d : Directive) (pos : Position) (words : List Token) : Line → Prop
  | mk {w : Token} {stop : Position} :
      w.kind = .directive d → w.pos = pos → Says d pos words (.directive (w :: words) stop)

namespace Selection

variable {Head : Type}

/-- What a line between the branches does, where `d` opens a branch. -/
inductive Steps (d : Directive) (Yields : Head → List Token → Prop) (s : Selection Head) :
    Line → Step Head → Prop
  | skip {content : String} {pos : Position} :
      Text.isBlank content = true → Steps d Yields s (.text content pos) .skip
  | branch {line : Line} {head : Head} {pos : Position} {ts : List Token} :
      line.Says d pos ts → Yields head ts → Steps d Yields s line (.branch (some head) pos)
  | default {line : Line} {pos : Position} :
      line.Says .default pos [] → s.default = none → Steps d Yields s line (.branch none pos)
  | done {line : Line} {pos : Position} :
      line.Says .endSelection pos [] → Steps d Yields s line .done

theorem step_eq_ok {opener d : Directive} {reader : Reader Head}
    {Yields : Head → List Token → Prop} {goesOn : Token.Kind → Bool}
    (hr : Reader.Reads reader Yields goesOn) (hd : d ≠ .default) (he : d ≠ .endSelection)
    {s : Selection Head} {line : Line} {next : Step Head} :
    s.step opener d reader line = .ok next ↔ s.Steps d Yields line next := by
  -- `hd` and `he` keep the tests for the three directives apart, which are made one by one.
  constructor
  · intro h
    unfold step at h
    split at h
    · next content pos =>
      split at h
      · next hb => cases h; exact .skip hb
      · cases h
    · cases h
    · next w rest stop =>
      split at h
      · next hk =>
        obtain ⟨x, hx, hn⟩ := bind_eq_ok.1 h
        cases hn
        exact .branch (.mk hk rfl) (hr.all_eq_ok.1 hx)
      · split at h
        · next hk =>
          split at h
          · cases h
          · next hs =>
            obtain ⟨_, hx, hn⟩ := bind_eq_ok.1 h
            cases hn
            cases Reader.reads_nothing.all_eq_ok.1 hx
            exact .default (.mk hk rfl) (by simpa using hs)
        · split at h
          · next hk =>
            obtain ⟨_, hx, hn⟩ := bind_eq_ok.1 h
            cases hn
            cases Reader.reads_nothing.all_eq_ok.1 hx
            exact .done (.mk hk rfl)
          · cases h
  · intro h
    cases h with
    | skip hb => simp only [step, hb, if_true]
    | @branch _ head _ ts hl hx =>
      cases hl with
      | @mk w stop hk hp =>
        have ha : Reader.all reader ts stop = .ok head := hr.all_eq_ok.2 hx
        simp only [step, hk, if_true, ha, hp, bind, Except.bind]
        rfl
    | default hl hs =>
      cases hl with
      | @mk w stop hk hp =>
        have hne : Token.Kind.directive .default ≠ .directive d := fun h => hd (by cases h; rfl)
        simp only [step, hk, hne, if_true, if_false, hs, Option.isSome_none, Bool.false_eq_true, hp]
        rfl
    | done hl =>
      cases hl with
      | @mk w stop hk hp =>
        have hne : Token.Kind.directive .endSelection ≠ .directive d :=
          fun h => he (by cases h; rfl)
        simp only [step, hk, hne, if_true, if_false, Token.Kind.directive.injEq, reduceCtorEq]
        rfl

end Selection

namespace Draft

/-- The line makes the second draft of the first one. -/
inductive Adds : Draft → Line → Draft → Prop
  | text {bs : List Block} {fs : List Frame} {content : String} {pos : Position} :
      Adds ⟨.body bs, fs⟩ (.text content pos) ⟨.body (.text content pos :: bs), fs⟩
  | condition {bs : List Block} {fs : List Frame} {line : Line} {pos : Position}
      {ts : List Token} {test : Expr} :
      line.Says .condition pos ts → test.Yields .disjunction ts →
      Adds ⟨.body bs, fs⟩ line ⟨.body [], .block (.consequence test) pos bs :: fs⟩
  | switch {bs : List Block} {fs : List Frame} {line : Line} {pos : Position}
      {ts : List Token} {subject : Operand} :
      line.Says .switch pos ts → subject.Yields ts →
      Adds ⟨.body bs, fs⟩ line ⟨.inSwitch subject (.start pos bs), fs⟩
  | choose {bs : List Block} {fs : List Frame} {line : Line} {pos : Position} :
      line.Says .choose pos [] → Adds ⟨.body bs, fs⟩ line ⟨.inChoose (.start pos bs), fs⟩
  | loop {bs : List Block} {fs : List Frame} {line : Line} {pos : Position}
      {ts : List Token} {header : Loop} :
      line.Says .loop pos ts → header.Yields ts →
      Adds ⟨.body bs, fs⟩ line ⟨.body [], .block (.loop header) pos bs :: fs⟩
  | guard {bs : List Block} {fs : List Frame} {line : Line} {pos : Position}
      {ts : List Token} {test : Expr} :
      line.Says .guard pos ts → test.Yields .disjunction ts →
      Adds ⟨.body bs, fs⟩ line ⟨.body [], .block (.guard test) pos bs :: fs⟩
  | check {bs : List Block} {fs : List Frame} {line : Line} {pos : Position}
      {ts : List Token} {test : Expr} {message : String} :
      line.Says .check pos ts → Block.YieldsCheck (test, message) ts →
      Adds ⟨.body bs, fs⟩ line ⟨.body (.check test message pos :: bs), fs⟩
  | define {bs : List Block} {fs : List Frame} {line : Line} {pos : Position}
      {ts : List Token} {name : Binding} {value : Expr} :
      line.Says .define pos ts → Block.YieldsDefinition (name, value) ts →
      Adds ⟨.body bs, fs⟩ line ⟨.body (.define name value pos :: bs), fs⟩
  | otherwise {bs before : List Block} {fs : List Frame} {line : Line} {pos at' : Position}
      {test : Expr} :
      line.Says .otherwise at' [] →
      Adds ⟨.body bs, .block (.consequence test) pos before :: fs⟩ line
        ⟨.body [], .block (.alternative test bs.reverse) pos before :: fs⟩
  | endConsequence {bs before : List Block} {fs : List Frame} {line : Line} {pos at' : Position}
      {test : Expr} :
      line.Says .endCondition at' [] →
      Adds ⟨.body bs, .block (.consequence test) pos before :: fs⟩ line
        ⟨.body (.condition test bs.reverse none pos :: before), fs⟩
  | endAlternative {bs before body : List Block} {fs : List Frame} {line : Line}
      {pos at' : Position} {test : Expr} :
      line.Says .endCondition at' [] →
      Adds ⟨.body bs, .block (.alternative test body) pos before :: fs⟩ line
        ⟨.body (.condition test body (some bs.reverse) pos :: before), fs⟩
  | endLoop {bs before : List Block} {fs : List Frame} {line : Line} {pos at' : Position}
      {header : Loop} :
      line.Says .endLoop at' [] →
      Adds ⟨.body bs, .block (.loop header) pos before :: fs⟩ line
        ⟨.body (.loop header bs.reverse pos :: before), fs⟩
  | endGuard {bs before : List Block} {fs : List Frame} {line : Line} {pos at' : Position}
      {ts : List Token} {test : Expr} {message : Option String} :
      line.Says .endGuard at' ts → Block.YieldsMessage message ts →
      Adds ⟨.body bs, .block (.guard test) pos before :: fs⟩ line
        ⟨.body (.guard test bs.reverse message pos :: before), fs⟩
  | endCase {bs : List Block} {fs : List Frame} {line : Line} {pos at' : Position}
      {subject : Operand} {s : Selection (List Literal)} {head : Option (List Literal)} :
      line.Says .endBranch at' [] →
      Adds ⟨.body bs, .switchBranch subject s head pos :: fs⟩ line
        ⟨.inSwitch subject (s.close head pos bs.reverse), fs⟩
  | endWhen {bs : List Block} {fs : List Frame} {line : Line} {pos at' : Position}
      {s : Selection Expr} {head : Option Expr} :
      line.Says .endBranch at' [] →
      Adds ⟨.body bs, .chooseBranch s head pos :: fs⟩ line
        ⟨.inChoose (s.close head pos bs.reverse), fs⟩
  | betweenCases {fs : List Frame} {line : Line} {subject : Operand}
      {s : Selection (List Literal)} :
      s.Steps .case Literal.YieldsList line .skip →
      Adds ⟨.inSwitch subject s, fs⟩ line ⟨.inSwitch subject s, fs⟩
  | case {fs : List Frame} {line : Line} {subject : Operand} {s : Selection (List Literal)}
      {head : Option (List Literal)} {pos : Position} :
      s.Steps .case Literal.YieldsList line (.branch head pos) →
      Adds ⟨.inSwitch subject s, fs⟩ line ⟨.body [], .switchBranch subject s head pos :: fs⟩
  | endSwitch {fs : List Frame} {line : Line} {subject : Operand}
      {s : Selection (List Literal)} :
      s.Steps .case Literal.YieldsList line .done →
      Adds ⟨.inSwitch subject s, fs⟩ line
        ⟨.body (.switch subject s.branches.reverse s.default s.pos :: s.before), fs⟩
  | betweenWhens {fs : List Frame} {line : Line} {s : Selection Expr} :
      s.Steps .when (Expr.Yields .disjunction) line .skip →
      Adds ⟨.inChoose s, fs⟩ line ⟨.inChoose s, fs⟩
  | when {fs : List Frame} {line : Line} {s : Selection Expr} {head : Option Expr}
      {pos : Position} :
      s.Steps .when (Expr.Yields .disjunction) line (.branch head pos) →
      Adds ⟨.inChoose s, fs⟩ line ⟨.body [], .chooseBranch s head pos :: fs⟩
  | endChoose {fs : List Frame} {line : Line} {s : Selection Expr} :
      s.Steps .when (Expr.Yields .disjunction) line .done →
      Adds ⟨.inChoose s, fs⟩ line
        ⟨.body (.choose s.branches.reverse s.default s.pos :: s.before), fs⟩

theorem switchStep_eq_ok {s : Selection (List Literal)} {line : Line}
    {next : Selection.Step (List Literal)} :
    s.step .switch .case Reader.literals line = .ok next ↔
      s.Steps .case Literal.YieldsList line next :=
  Selection.step_eq_ok Reader.reads_literals (by decide) (by decide)

theorem chooseStep_eq_ok {s : Selection Expr} {line : Line} {next : Selection.Step Expr} :
    s.step .choose .when Reader.expression line = .ok next ↔
      s.Steps .when (Expr.Yields .disjunction) line next :=
  Selection.step_eq_ok Reader.reads_expression (by decide) (by decide)

theorem adds_of_addDirective {bs : List Block} {fs : List Frame} {d : Directive}
    {pos : Position} {ts : List Token} {stop : Position} {next : Draft} {line : Line}
    (hl : line.Says d pos ts) (h : addDirective bs fs d pos ts stop = .ok next) :
    Adds ⟨.body bs, fs⟩ line next := by
  unfold addDirective at h
  split at h
  all_goals first | cases h | obtain ⟨x, hx, hn⟩ := bind_eq_ok.1 h; cases hn
  · exact .condition hl (Reader.reads_expression.all_eq_ok.1 hx)
  · exact .switch hl (Reader.reads_operand.all_eq_ok.1 hx)
  · cases Reader.reads_nothing.all_eq_ok.1 hx
    exact .choose hl
  · exact .loop hl (Reader.reads_loop.all_eq_ok.1 hx)
  · exact .guard hl (Reader.reads_expression.all_eq_ok.1 hx)
  · exact .check hl (Reader.reads_check.all_eq_ok.1 hx)
  · exact .define hl (Reader.reads_definition.all_eq_ok.1 hx)
  · cases Reader.reads_nothing.all_eq_ok.1 hx
    exact .otherwise hl
  · cases Reader.reads_nothing.all_eq_ok.1 hx
    exact .endConsequence hl
  · cases Reader.reads_nothing.all_eq_ok.1 hx
    exact .endAlternative hl
  · cases Reader.reads_nothing.all_eq_ok.1 hx
    exact .endLoop hl
  · exact .endGuard hl (Reader.reads_message?.all_eq_ok.1 hx)
  · cases Reader.reads_nothing.all_eq_ok.1 hx
    exact .endCase hl
  · cases Reader.reads_nothing.all_eq_ok.1 hx
    exact .endWhen hl

theorem adds_of_add {draft next : Draft} {line : Line} (h : draft.add line = .ok next) :
    draft.Adds line next := by
  obtain ⟨place, fs⟩ := draft
  cases place with
  | body bs =>
    cases line with
    | text content pos =>
      cases h
      exact .text
    | directive words stop =>
      cases words with
      | nil => cases h
      | cons w rest =>
        cases hk : w.kind with
        | directive d =>
          simp only [add, addToBody, hk] at h
          exact adds_of_addDirective (.mk hk rfl) h
        | _ => simp only [add, addToBody, hk, reduceCtorEq] at h
  | inSwitch subject s =>
    obtain ⟨step, hs, hn⟩ := bind_eq_ok.1 h
    have hstep := switchStep_eq_ok.1 hs
    cases step with
    | skip => cases hn; exact .betweenCases hstep
    | branch head pos => cases hn; exact .case hstep
    | done => cases hn; exact .endSwitch hstep
  | inChoose s =>
    obtain ⟨step, hs, hn⟩ := bind_eq_ok.1 h
    have hstep := chooseStep_eq_ok.1 hs
    cases step with
    | skip => cases hn; exact .betweenWhens hstep
    | branch head pos => cases hn; exact .when hstep
    | done => cases hn; exact .endChoose hstep

/-- A directive whose words are read by `reader` and go on to make a draft. -/
theorem add_of_says {α : Type} {reader : Reader α} {Yields : α → List Token → Prop}
    {goesOn : Token.Kind → Bool} {bs : List Block} {fs : List Frame} {d : Directive}
    {pos : Position} {ts : List Token} {line : Line} {x : α} {next : Draft}
    {more : α → Except SyntaxError Draft} (hl : line.Says d pos ts)
    (hr : Reader.Reads reader Yields goesOn) (hx : Yields x ts)
    (h : ∀ stop, addDirective bs fs d pos ts stop = Reader.all reader ts stop >>= more)
    (hn : more x = .ok next) : add ⟨.body bs, fs⟩ line = .ok next := by
  cases hl with
  | @mk w stop hk hp =>
    simp only [add, addToBody, hk, hp, h]
    rw [hr.all_eq_ok.2 hx]
    exact hn

theorem add_of_adds {draft next : Draft} {line : Line} (h : draft.Adds line next) :
    draft.add line = .ok next := by
  cases h with
  | text => rfl
  | condition hl ht => exact add_of_says hl Reader.reads_expression ht (fun _ => rfl) rfl
  | switch hl ho => exact add_of_says hl Reader.reads_operand ho (fun _ => rfl) rfl
  | choose hl => exact add_of_says (x := ()) hl Reader.reads_nothing rfl (fun _ => rfl) rfl
  | loop hl hh => exact add_of_says hl Reader.reads_loop hh (fun _ => rfl) rfl
  | guard hl ht => exact add_of_says hl Reader.reads_expression ht (fun _ => rfl) rfl
  | check hl hc => exact add_of_says hl Reader.reads_check hc (fun _ => rfl) rfl
  | define hl hd => exact add_of_says hl Reader.reads_definition hd (fun _ => rfl) rfl
  | otherwise hl | endConsequence hl | endAlternative hl | endLoop hl | endCase hl | endWhen hl =>
    exact add_of_says (x := ()) hl Reader.reads_nothing rfl (fun _ => rfl) rfl
  | endGuard hl hm => exact add_of_says hl Reader.reads_message? hm (fun _ => rfl) rfl
  | betweenCases hs | case hs | endSwitch hs =>
    have hstep := switchStep_eq_ok.2 hs
    simp only [add, hstep, bind, Except.bind]
    rfl
  | betweenWhens hs | when hs | endChoose hs =>
    have hstep := chooseStep_eq_ok.2 hs
    simp only [add, hstep, bind, Except.bind]
    rfl

theorem add_eq_ok {draft next : Draft} {line : Line} :
    draft.add line = .ok next ↔ draft.Adds line next :=
  ⟨adds_of_add, add_of_adds⟩

theorem addAll_of_adds {draft next : Draft} {line : Line} {more : List Line}
    (h : draft.Adds line next) : draft.addAll (line :: more) = next.addAll more := by
  rw [addAll, add_eq_ok.2 h]

theorem addAll_of_eq_ok {draft next : Draft} {ls more : List Line}
    (h : draft.addAll ls = .ok next) : draft.addAll (ls ++ more) = next.addAll more := by
  rw [addAll_append, h]
  rfl

end Draft

end LineTemplate
