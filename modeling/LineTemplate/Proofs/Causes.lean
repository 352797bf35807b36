import Mathlib
import LineTemplate.Proofs.Failures
import LineTemplate.Proofs.Parsing
import LineTemplate.Proofs.SyntaxErrors

/-!
# What errors point at

An error with a position points at a token of the template, the one that caused it: the word that
makes no sense where it stands, the opener of the block that is never closed, the name that is
bound already, the name of the pipe that is missing, the sign of the comparison that cannot be
made, the number that is none.

For what a rendering fails with this is a fact about the grammar: `PointsInto` holds between the
tokens that a part of a template yields and the errors that the part can raise, and it is carried
from the parts to the whole, since the tokens of a part stand together in those of the whole.
-/

namespace LineTemplate

/-- The token is at fault, or it is the opener of the block that is never closed. -/
def SyntaxError.CausedBy (e : SyntaxError) (t : Token) : Prop :=
  match e.fault with
  | .unterminated opener _ => t.kind = .directive opener
  | fault => fault.Blames t

namespace Error

/-- Among the tokens `T` the token `t` is what the error is about: it has the kind that the error
blames, and the name or the number that the error reports. -/
def CausedBy (T : List Token) (t : Token) : Error → Prop
  | .grammar e => e.CausedBy t
  | .guardViolation _ _ => t.kind = .directive .guard
  | .checkViolation _ _ => t.kind = .directive .check
  | .pipeNotFound name _ =>
    t.kind = .identifier ∧ t.literal = name ∧ ∃ bar : Token, bar.kind = .pipe ∧ [bar, t] <:+: T
  | .operandType (.malformed text) _ => t.kind = .number ∧ t.literal = text
  | .operandType (.notNumeric _) _ => ∃ c : Comparator, c.orders = true ∧ t.kind = .comparison c
  | .duplicateBinding name _ => t.kind = .identifier ∧ t.literal = name
  | .invalidPattern _ _ => ∃ c : Comparator, c.searches = true ∧ t.kind = .comparison c
  | .file .. | .notJson _ | .notAnObject _ | .pipeInput .. => False

/-- If the error has a position, one of the tokens is there and caused it. -/
def PointsInto (T : List Token) (e : Error) : Prop :=
  ∀ pos, e.position? = some pos → ∃ t ∈ T, t.pos = pos ∧ e.CausedBy T t

variable {T U : List Token} {e : Error}

theorem CausedBy.mono {t : Token} (h : e.CausedBy T t) (hs : T <:+: U) : e.CausedBy U t := by
  cases e with
  | pipeNotFound name pos =>
    obtain ⟨hk, hn, bar, hbar, hnext⟩ := h
    exact ⟨hk, hn, bar, hbar, hnext.trans hs⟩
  | operandType fault pos => cases fault <;> exact h
  | _ => exact h

theorem PointsInto.mono (h : e.PointsInto T) (hs : T <:+: U) : e.PointsInto U := by
  intro pos hpos
  obtain ⟨t, ht, hp, hc⟩ := h pos hpos
  exact ⟨t, hs.subset ht, hp, hc.mono hs⟩

theorem PointsInto.left (h : e.PointsInto T) : e.PointsInto (T ++ U) :=
  h.mono (List.prefix_append T U).isInfix

theorem PointsInto.right (h : e.PointsInto U) : e.PointsInto (T ++ U) :=
  h.mono (List.suffix_append T U).isInfix

theorem PointsInto.cons {t : Token} (h : e.PointsInto T) : e.PointsInto (t :: T) :=
  h.mono (List.suffix_cons t T).isInfix

theorem pointsInto_of_mem {t : Token} (ht : t ∈ T) (hp : e.position? = some t.pos)
    (hc : e.CausedBy T t) : e.PointsInto T := by
  intro pos hpos
  rw [hp] at hpos
  cases hpos
  exact ⟨t, ht, rfl, hc⟩

variable {L M : List Token}

/-- Of a block between two lines, the first one is pointed at. -/
theorem PointsInto.opening (h : e.PointsInto L) : e.PointsInto (L ++ T ++ M) := h.left.left

/-- Of a block between two lines, something between them is pointed at. -/
theorem PointsInto.between (h : e.PointsInto T) : e.PointsInto (L ++ T ++ M) := h.right.left

/-- An error of an input has no position. -/
theorem pointsInto_of_ofInput (h : Pipe.OfInput e) : e.PointsInto T := by
  obtain ⟨pipe, fault, rfl⟩ := h
  intro pos hpos
  cases hpos

end Error

/-! ### Literals -/

theorem Reader.numeral_eq_malformed {text shown : String} {pos place : Position}
    (h : Reader.numeral text pos = .malformed shown place) : shown = text ∧ place = pos := by
  unfold Reader.numeral at h
  split at h
  · cases h
    exact ⟨rfl, rfl⟩
  · split at h
    · cases h
    · split at h
      · cases h
      · cases h
        exact ⟨rfl, rfl⟩

theorem Reader.bareWord_ne_malformed (word text : String) (pos : Position) :
    Reader.bareWord word ≠ .malformed text pos := by
  unfold Reader.bareWord
  split_ifs <;> exact Literal.noConfusion

/-- A malformed literal is a number token of the same text and position. -/
theorem Literal.Yields.malformed {text : String} {pos : Position} {ts : List Token}
    (h : (Literal.malformed text pos).Yields ts) :
    ∃ t ∈ ts, t.pos = pos ∧ t.kind = .number ∧ t.literal = text := by
  generalize hl : Literal.malformed text pos = l at h
  cases h with
  | string hk => cases hl
  | @number t hk =>
    obtain ⟨rfl, rfl⟩ := Reader.numeral_eq_malformed hl.symm
    exact ⟨t, List.mem_singleton_self t, rfl, hk, rfl⟩
  | word hk => exact absurd hl.symm (Reader.bareWord_ne_malformed _ _ _)

theorem Literal.Yields.pointsInto {l : Literal} {ts : List Token} (h : l.Yields ts) {e : Error}
    (hr : Literal.Raises [l] e) : e.PointsInto ts := by
  cases hr with
  | malformed hm =>
    cases List.mem_singleton.1 hm
    obtain ⟨t, ht, rfl, hk, hl⟩ := h.malformed
    exact Error.pointsInto_of_mem ht rfl ⟨hk, hl⟩

theorem Literal.YieldsList.pointsInto {ls : List Literal} {ts : List Token}
    (h : Literal.YieldsList ls ts) {e : Error} (hr : Literal.Raises ls e) : e.PointsInto ts := by
  induction h with
  | one hl => exact hl.pointsInto hr
  | more hl _ _ ih =>
    cases hr with
    | malformed hm =>
      rcases List.mem_cons.1 hm with hm | hm
      · exact (hl.pointsInto (.malformed (List.mem_singleton.2 hm))).left
      · exact (ih (.malformed hm)).cons.right

section

variable {g : Engine} (hg : g.FailsAtInput)

include hg

/-! ### Operands and expressions -/

theorem PipeCall.YieldsList.pointsInto {calls : List PipeCall} {ts : List Token}
    (h : PipeCall.YieldsList calls ts) {call : PipeCall} (hc : call ∈ calls) {e : Error}
    (hr : call.Raises g e) : e.PointsInto ts := by
  induction h with
  | nil => cases hc
  | @cons bar name args more ts us hbar hname hargs _ ih =>
    rcases List.mem_cons.1 hc with rfl | hc
    · -- the call that has just been read: its name, an argument, or the pipe itself
      cases hr with
      | missing =>
        refine Error.pointsInto_of_mem (t := name) (by simp) rfl ⟨hname, rfl, bar, hbar, ?_⟩
        exact (List.prefix_append [bar, name] (ts ++ us)).isInfix
      | argument ha =>
        cases hargs with
        | bare | empty =>
          cases ha with
          | malformed hm => cases hm
        | some _ hls _ => exact (hls.pointsInto ha).left.cons.cons.cons.left
      | pipe hp he => exact Error.pointsInto_of_ofInput (hg.pipe hp he)
    · exact (ih hc).right

theorem Operand.Yields.pointsInto {o : Operand} {ts : List Token} (h : o.Yields ts) {e : Error}
    (hr : o.Raises g e) : e.PointsInto ts := by
  cases h with
  | mk hterm hpipes =>
    cases hr with
    | literal ht hl =>
      cases hterm with
      | literal h =>
        cases ht
        exact (h.pointsInto hl).left
      | path => cases ht
    | pipe hc hp => exact (hpipes.pointsInto hg hc hp).right

theorem Expr.Yields.pointsInto {level : Expr.Level} {x : Expr} {ts : List Token}
    (h : x.Yields level ts) {e : Error} (hr : x.Raises g e) : e.PointsInto ts := by
  induction h with
  | operand ho =>
    cases hr with
    | operand hr => exact ho.pointsInto hg hr
    | part hx => cases hx
  | not _ _ ih =>
    cases hr with
    | part hx hr =>
      cases List.mem_singleton.1 hx
      exact (ih hr).cons
  | group _ _ _ ih => exact (ih hr).cons.left
  | side _ ih | conjunct _ ih | disjunct _ ih => exact ih hr
  | @compare c left right t ts us _ ht _ ihl ihr =>
    have hmem : t ∈ ts ++ t :: us := List.mem_append_right ts List.mem_cons_self
    cases hr with
    | order hc => exact Error.pointsInto_of_mem hmem rfl ⟨c, hc, ht⟩
    | pattern hc => exact Error.pointsInto_of_mem hmem rfl ⟨c, hc, ht⟩
    | part hx hr =>
      rcases List.mem_cons.1 hx with rfl | hx
      · exact (ihl hr).left
      · cases List.mem_singleton.1 hx
        exact (ihr hr).cons.right
  | and _ _ _ ihl ihr | or _ _ _ ihl ihr =>
    cases hr with
    | part hx hr =>
      rcases List.mem_cons.1 hx with rfl | hx
      · exact (ihl hr).left
      · cases List.mem_singleton.1 hx
        exact (ihr hr).cons.right

/-! ### Directive lines -/

omit hg in
theorem Binding.Yields.pointsInto {b : Binding} {ts : List Token} (h : b.Yields ts) :
    Error.PointsInto ts (.duplicateBinding b.name b.pos) := by
  cases h with
  | @mk t hk => exact Error.pointsInto_of_mem (List.mem_singleton_self t) rfl ⟨hk, rfl⟩

theorem Loop.Yields.pointsInto {l : Loop} {ts : List Token} (h : l.Yields ts) {e : Error}
    (hr : l.source.Raises g e ∨
      ∃ b : Binding, (b = l.item ∨ b ∈ l.index) ∧ e = .duplicateBinding b.name b.pos) :
    e.PointsInto ts := by
  induction h with
  | bare hitem hindex _ _ hsource =>
    rcases hr with hr | ⟨b, rfl | hb, rfl⟩
    · exact (hsource.pointsInto hg hr).cons.right
    · exact hitem.pointsInto.left.left
    · cases hindex with
      | none => cases hb
      | some _ hi =>
        cases hb
        exact hi.pointsInto.cons.right.left
  | delimiter _ _ _ _ _ ih | opening _ _ _ _ _ ih | closing _ _ _ _ _ ih => exact (ih hr).left

omit hg in
theorem Directive.Yields.pointsInto {d : Directive} {pos : Position} {ts L : List Token}
    (h : d.Yields pos ts L) {e : Error} (he : e.PointsInto ts) : e.PointsInto L := by
  cases h with
  | mk => exact he.cons.left

omit hg in
/-- An error that is about the directive itself. -/
theorem Directive.Yields.pointsInto_word {d : Directive} {pos : Position} {ts L : List Token}
    (h : d.Yields pos ts L) {e : Error} (hp : e.position? = some pos)
    (hc : ∀ t : Token, t.kind = .directive d → e.CausedBy L t) : e.PointsInto L := by
  cases h with
  | @mk w n hk hpos _ =>
    rw [← hpos] at hp
    exact Error.pointsInto_of_mem List.mem_cons_self hp (hc w hk)

end

/-! ### Branches -/

section

variable {g : Engine} {Head : Type} {R : Head → Error → Prop} {cs : List (Branch Head Block)}
  {body : List Block} {T L U M : List Token} {e : Error}

/-- One of the branches raises the error, in its head or in its body, or the body of the one
without a head does. -/
def Branch.AnyRaises (g : Engine) (R : Head → Error → Prop) (cs : List (Branch Head Block))
    (default : Option (List Block)) (e : Error) : Prop :=
  (∃ c ∈ cs, R c.head e ∨ Block.AnyRaises g c.body e) ∨
    ∃ body ∈ default, Block.AnyRaises g body e

namespace Branch.AnyRaises

theorem of_body {default : Option (List Block)} (hb : body ∈ cs.map (·.body) ++ default.toList)
    (h : Block.AnyRaises g body e) : AnyRaises g R cs default e := by
  rcases List.mem_append.1 hb with hb | hb
  · obtain ⟨c, hm, rfl⟩ := List.mem_map.1 hb
    exact .inl ⟨c, hm, .inr h⟩
  · exact .inr ⟨body, Option.mem_toList.1 hb, h⟩

theorem not_nil : ¬ AnyRaises g R [] none e := by
  rintro (⟨_, hm, _⟩ | ⟨_, hm, _⟩)
  · cases hm
  · cases hm

/-- Behind other branches stands one with a head. -/
theorem pointsInto_branch {c : Branch Head Block} {default : Option (List Block)}
    (h : AnyRaises g R (cs ++ [c]) default e)
    (hmore : AnyRaises g R cs default e → e.PointsInto T) (hhead : R c.head e → e.PointsInto L)
    (hbody : Block.AnyRaises g c.body e → e.PointsInto U) :
    e.PointsInto (T ++ (L ++ U ++ M)) := by
  rcases h with ⟨d, hd, h⟩ | h
  · rcases List.mem_append.1 hd with hd | hd
    · exact (hmore (.inl ⟨d, hd, h⟩)).left
    · cases List.mem_singleton.1 hd
      rcases h with h | h
      · exact (hhead h).left.left.right
      · exact (hbody h).right.left.right
  · exact (hmore (.inr h)).left

/-- Behind other branches stands the one without a head. -/
theorem pointsInto_default (h : AnyRaises g R cs (some body) e)
    (hmore : AnyRaises g R cs none e → e.PointsInto T)
    (hbody : Block.AnyRaises g body e → e.PointsInto U) : e.PointsInto (T ++ (L ++ U ++ M)) := by
  rcases h with h | ⟨_, hb, h⟩
  · exact (hmore (.inl h)).left
  · cases hb
    exact (hbody h).right.left.right

end Branch.AnyRaises

end

/-! ### Blocks

What a block raises comes of the line that opens it or of what stands between its lines.
-/

namespace Block.Raises

variable {g : Engine} {body : List Block} {pos : Position} {e : Error}

theorem of_text {content : String} (h : (Block.text content pos).Raises g e) :
    ∃ lookup, g.formatter.format content lookup = .error e := by
  cases h with
  | format hf => exact ⟨_, hf⟩
  | expression hx => cases hx
  | operand ho => cases ho
  | inner hb => cases hb

theorem of_condition {test : Expr} {otherwise : Option (List Block)}
    (h : (Block.condition test body otherwise pos).Raises g e) :
    test.Raises g e ∨ AnyRaises g body e ∨ ∃ more ∈ otherwise, AnyRaises g more e := by
  cases h with
  | expression hx hr =>
    cases List.mem_singleton.1 hx
    exact .inl hr
  | operand ho => cases ho
  | inner hb hc hr =>
    rcases List.mem_cons.1 hb with rfl | hb
    · exact .inr (.inl ⟨_, hc, hr⟩)
    · exact .inr (.inr ⟨_, Option.mem_toList.1 hb, _, hc, hr⟩)

theorem of_switch {subject : Operand} {cs : List (Branch (List Literal) Block)}
    {default : Option (List Block)} (h : (Block.switch subject cs default pos).Raises g e) :
    subject.Raises g e ∨ Branch.AnyRaises g Literal.Raises cs default e := by
  cases h with
  | expression hx => cases hx
  | operand ho hr =>
    cases List.mem_singleton.1 ho
    exact .inl hr
  | case hc hr => exact .inr (.inl ⟨_, hc, .inl hr⟩)
  | inner hb hc hr => exact .inr (.of_body hb ⟨_, hc, hr⟩)

theorem of_choose {ws : List (Branch Expr Block)} {default : Option (List Block)}
    (h : (Block.choose ws default pos).Raises g e) :
    Branch.AnyRaises g (Expr.Raises g) ws default e := by
  cases h with
  | expression hx hr =>
    obtain ⟨w, hw, rfl⟩ := List.mem_map.1 hx
    exact .inl ⟨w, hw, .inl hr⟩
  | operand ho => cases ho
  | inner hb hc hr => exact .of_body hb ⟨_, hc, hr⟩

theorem of_loop {header : Loop} (h : (Block.loop header body pos).Raises g e) :
    (header.source.Raises g e ∨ ∃ b : Binding, (b = header.item ∨ b ∈ header.index) ∧
      e = .duplicateBinding b.name b.pos) ∨ AnyRaises g body e := by
  cases h with
  | expression hx => cases hx
  | operand ho hr =>
    cases List.mem_singleton.1 ho
    exact .inl (.inl hr)
  | item => exact .inl (.inr ⟨_, .inl rfl, rfl⟩)
  | index hi => exact .inl (.inr ⟨_, .inr hi, rfl⟩)
  | inner hb hc hr =>
    cases List.mem_singleton.1 hb
    exact .inr ⟨_, hc, hr⟩

theorem of_guard {test : Expr} {message : Option String}
    (h : (Block.guard test body message pos).Raises g e) :
    test.Raises g e ∨ e = .guardViolation (message.getD Engine.guardMessage) pos ∨
      AnyRaises g body e := by
  cases h with
  | expression hx hr =>
    cases List.mem_singleton.1 hx
    exact .inl hr
  | operand ho => cases ho
  | guard => exact .inr (.inl rfl)
  | inner hb hc hr =>
    cases List.mem_singleton.1 hb
    exact .inr (.inr ⟨_, hc, hr⟩)

theorem of_check {test : Expr} {message : String} (h : (Block.check test message pos).Raises g e) :
    test.Raises g e ∨ e = .checkViolation message pos := by
  cases h with
  | expression hx hr =>
    cases List.mem_singleton.1 hx
    exact .inl hr
  | operand ho => cases ho
  | check => exact .inr rfl
  | inner hb => cases hb

theorem of_define {name : Binding} {value : Expr} (h : (Block.define name value pos).Raises g e) :
    value.Raises g e ∨ e = .duplicateBinding name.name name.pos := by
  cases h with
  | expression hx hr =>
    cases List.mem_singleton.1 hx
    exact .inl hr
  | operand ho => cases ho
  | definition => exact .inr rfl
  | inner hb => cases hb

end Block.Raises

/-- Something in the phrase raises the error. -/
def Phrase.Raises (g : Engine) (e : Error) : Phrase → Prop
  | .block b => b.Raises g e
  | .blocks bs => Block.AnyRaises g bs e
  | .cases cs default => Branch.AnyRaises g Literal.Raises cs default e
  | .whens ws default => Branch.AnyRaises g (Expr.Raises g) ws default e

/-- The errors that a phrase raises point into the tokens that yield it. -/
theorem Phrase.Yields.pointsInto {g : Engine} (hg : g.FailsAtInput) {phrase : Phrase}
    {T : List Token} (h : phrase.Yields T) {e : Error} (hr : phrase.Raises g e) :
    e.PointsInto T := by
  induction h with
  | text =>
    obtain ⟨_, hf⟩ := hr.of_text
    exact Error.pointsInto_of_ofInput (hg.formatter hf)
  | condition ht hl _ _ ih =>
    rcases hr.of_condition with hr | hr | ⟨_, hm, _⟩
    · exact (hl.pointsInto (ht.pointsInto hg hr)).opening
    · exact (ih hr).between
    · cases hm
  | alternative ht hl _ _ _ _ ih ihMore =>
    rcases hr.of_condition with hr | hr | ⟨_, hm, hr⟩
    · exact (hl.pointsInto (ht.pointsInto hg hr)).opening.opening
    · exact (ih hr).between.opening
    · cases hm
      exact (ihMore hr).between
  | switch ho hl _ _ ih =>
    rcases hr.of_switch with hr | hr
    · exact (hl.pointsInto (ho.pointsInto hg hr)).opening
    · exact (ih hr).between
  | choose _ _ _ ih => exact (ih hr.of_choose).between
  | loop hh hl _ _ ih =>
    rcases hr.of_loop with hr | hr
    · exact (hl.pointsInto (hh.pointsInto hg hr)).opening
    · exact (ih hr).between
  | guard ht hl _ _ _ ih =>
    rcases hr.of_guard with hr | rfl | hr
    · exact (hl.pointsInto (ht.pointsInto hg hr)).opening
    · refine Error.PointsInto.opening ?_
      exact hl.pointsInto_word rfl fun _ hk => hk
    · exact (ih hr).between
  | check hc hl =>
    rcases hr.of_check with hx | rfl
    · cases hc with
      | mk ht => exact hl.pointsInto (ht.pointsInto hg hx).left
    · exact hl.pointsInto_word rfl fun _ hk => hk
  | define hd hl =>
    cases hd with
    | mk hname _ hv =>
      rcases hr.of_define with hr | rfl
      · exact hl.pointsInto (hv.pointsInto hg hr).cons.right
      · exact hl.pointsInto hname.pointsInto.left
  | nil =>
    obtain ⟨_, hm, _⟩ := hr
    cases hm
  | snoc _ _ ih ihLast =>
    obtain ⟨c, hm, hr⟩ := hr
    rcases List.mem_append.1 hm with hm | hm
    · exact (ih ⟨c, hm, hr⟩).left
    · cases List.mem_singleton.1 hm
      exact (ihLast hr).right
  | noCases | noWhens => exact absurd hr Branch.AnyRaises.not_nil
  | casesBlank _ _ _ ih | whensBlank _ _ _ ih => exact (ih hr).left
  | case _ hv hl _ _ ih ihBody =>
    exact Branch.AnyRaises.pointsInto_branch hr ih (fun h => hl.pointsInto (hv.pointsInto h)) ihBody
  | when _ ht hl _ _ ih ihBody =>
    exact Branch.AnyRaises.pointsInto_branch hr ih (fun h => hl.pointsInto (ht.pointsInto hg h))
      ihBody
  | casesDefault _ _ _ _ ih ihBody | whensDefault _ _ _ _ ih ihBody =>
    exact Branch.AnyRaises.pointsInto_default hr ih ihBody

/-! ### Lines -/

namespace Line

theorem exists_of_directive? {line : Line} {d : Directive} {pos : Position}
    (h : line.directive? = some (d, pos)) :
    ∃ t ∈ line.tokens, t.kind = .directive d ∧ t.pos = pos := by
  unfold directive? at h
  split at h
  · next w words stop =>
    split at h
    · next hk =>
      cases h
      exact ⟨w, List.mem_cons_self, hk, rfl⟩
    · cases h
  · cases h

/-- What is open behind lines was open before them or is one of them. -/
theorem mem_foldl_nowOpen {ls : List Line} {outer : List (Directive × Position)}
    {entry : Directive × Position} (h : entry ∈ ls.foldl nowOpen outer) :
    entry ∈ outer ∨ ∃ line ∈ ls, line.directive? = some entry := by
  induction ls generalizing outer with
  | nil => exact .inl h
  | cons line more ih =>
    rcases ih h with h | ⟨l, hl, hd⟩
    · unfold nowOpen at h
      split at h
      · next d pos hd =>
        split_ifs at h
        · rcases List.mem_cons.1 h with rfl | h
          · exact .inr ⟨line, List.mem_cons_self, hd⟩
          · exact .inl h
        · exact .inl (List.mem_of_mem_tail h)
        · exact .inl h
      · exact .inl h
    · exact .inr ⟨l, List.mem_cons_of_mem line hl, hd⟩

theorem mem_ofText_of_cutLines {text : String} {before after : List (List Char)}
    {cs : List Char} (h : Text.cutLines text.toList = before ++ cs :: after) :
    ofChars before.length cs ∈ ofText text := by
  rw [ofText, h, ofCut_append, Nat.zero_add]
  exact List.mem_append_right _ List.mem_cons_self

end Line

theorem SyntaxError.Blames.causedBy {e : SyntaxError} {t : Token} (h : e.Blames t) :
    e.CausedBy t := by
  unfold CausedBy
  split
  · next hf =>
    have hb := h.2
    rw [hf] at hb
    cases hb
  · exact h.2

/-- A text that cannot be read has a line with a token that caused it. -/
theorem Block.caused_of_ofText {text : String} {e : SyntaxError}
    (h : Block.ofText text = .error e) :
    ∃ line ∈ Line.ofText text, ∃ t ∈ line.tokens, t.pos = e.pos ∧ e.CausedBy t := by
  rw [Block.ofText, Block.ofLines] at h
  split at h
  · next draft hd =>
    -- All lines have been taken, and a block is left open.
    obtain ⟨opener, closers, hfault, hopen⟩ := Draft.finish_eq_error h
    rw [Draft.addAll_opened hd] at hopen
    rcases Line.mem_foldl_nowOpen (List.mem_of_mem_head? hopen) with hm | ⟨line, hl, hdir⟩
    · cases hm
    · obtain ⟨t, ht, hk, hp⟩ := Line.exists_of_directive? hdir
      refine ⟨line, hl, t, ht, hp, ?_⟩
      simp only [SyntaxError.CausedBy, hfault, hk]
  · next e' hd =>
    cases h
    obtain ⟨before, cs, after, t, hpieces, ht, hb, -⟩ := Draft.addAll_blames hd
    rw [Nat.zero_add] at ht
    exact ⟨_, Line.mem_ofText_of_cutLines hpieces, t, ht, hb.1.symm, hb.causedBy⟩

/-! ### Evaluations -/

namespace Engine

/-- An evaluation that fails fails with an error of the template, or with one that a block of the
template raises. -/
theorem evaluateText_eq_error {g : Engine} {text : String} {context : Fields Value} {e : Error}
    (h : g.evaluateText text context = .error e) :
    (∃ fault, Block.ofText text = .error fault ∧ e = .grammar fault) ∨
      ∃ t, Template.ofText text = .ok t ∧ Block.AnyRaises g t.blocks e := by
  rcases bind_eq_error.1 h with ht | ⟨t, ht, h⟩
  · unfold Template.ofText at ht
    split at ht
    · cases ht
    · next fault hf =>
      cases ht
      exact .inl ⟨fault, hf, rfl⟩
  · rcases bind_eq_error.1 h with hr | ⟨r, -, hr⟩
    · exact .inr ⟨t, ht, raises_of_renderBlocks hr⟩
    · cases hr

/-- An evaluation that fails with an error that has a position fails because of a token there,
which stands on one of the lines of the text. -/
theorem position_of_error {g : Engine} (hg : g.FailsAtInput) {text : String}
    {context : Fields Value} {e : Error} (h : g.evaluateText text context = .error e)
    {pos : Position} (hpos : e.position? = some pos) :
    ∃ line ∈ Line.ofText text, ∃ t ∈ line.tokens, t ∈ Token.tokenize text ∧
      t.kind ≠ .endOfTemplate ∧ t.pos = pos ∧ e.CausedBy (Token.tokenize text) t := by
  have hcaused : ∃ line ∈ Line.ofText text, ∃ t ∈ line.tokens,
      t.pos = pos ∧ e.CausedBy (Token.tokenize text) t := by
    rcases evaluateText_eq_error h with ⟨fault, hf, rfl⟩ | ⟨template, ht, hr⟩
    · cases hpos
      exact Block.caused_of_ofText hf
    · have hpoints : e.PointsInto ((Line.ofText text).flatMap Line.tokens) :=
        (Template.yields_of_ofText ht).pointsInto hg hr
      obtain ⟨t, ht, hp, hc⟩ := hpoints pos hpos
      obtain ⟨line, hl, ht⟩ := List.mem_flatMap.1 ht
      exact ⟨line, hl, t, ht, hp, hc.mono (List.prefix_append _ _).isInfix⟩
  obtain ⟨line, hl, t, ht, hp, hc⟩ := hcaused
  have hmem : t ∈ Token.tokenize text :=
    List.mem_append_left _ (List.mem_flatMap.2 ⟨line, hl, ht⟩)
  have hkind : t.kind ≠ .endOfTemplate := (Line.wordy_ofCut 0 _ line hl).kind_ne ht
  exact ⟨line, hl, t, ht, hmem, hkind, hp, hc⟩

/-- In a loop, a pipe that is missing: the error points at the name behind the bar. -/
theorem position_of_error_missing_pipe :
    let text := "#for x of :xs\n#var v = :x | nope\n#done"
    let context : Fields Value := [("xs", .array [.null])]
    standard.FailsAtInput ∧
      standard.evaluateText text context = .error (.pipeNotFound "nope" ⟨1, 14⟩) ∧
      ∃ t ∈ Token.tokenize text, t.pos = ⟨1, 14⟩ ∧ t.kind = .identifier ∧ t.literal = "nope" ∧
        ∃ bar : Token, bar.kind = .pipe ∧ [bar, t] <:+: Token.tokenize text := by
  intro text context
  have h : standard.evaluateText text context = .error (.pipeNotFound "nope" ⟨1, 14⟩) := by cbv
  obtain ⟨line, -, t, -, ht, -, hp, hc⟩ := position_of_error failsAtInput_standard h rfl
  exact ⟨failsAtInput_standard, h, t, ht, hp, hc⟩

end Engine

end LineTemplate
