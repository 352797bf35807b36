import Mathlib
import LineTemplate.Proofs.DescentLines

/-!
# Routines at the lines of a template

What a block routine makes of the next lines is measured by a draft: whatever the rest of the
template makes of the draft in front of these lines, it makes of the draft with the block behind
them. Where a draft has an error in the rest of the template, a routine may go on for a while, but
has the same error in the end.
-/

namespace LineTemplate

open Token (AllWords)

namespace Draft

/-- What comes of the draft when the template goes on with these lines and ends there. -/
def readAll (draft : Draft) (ls : List Line) : Except SyntaxError (List Block) :=
  match draft.addAll ls with
  | .ok last => last.finish
  | .error e => .error e

theorem readAll_cons (draft : Draft) (line : Line) (more : List Line) :
    draft.readAll (line :: more) = draft.add line >>= fun next => next.readAll more := by
  rw [readAll, addAll]
  cases draft.add line <;> rfl

theorem readAll_directive {blocks : List Block} {frames : List Frame} {w : Token} {d : Directive}
    (hk : w.kind = .directive d) (ws : List Token) (stop : Position) (ls : List Line) :
    (⟨.body blocks, frames⟩ : Draft).readAll (.directive (w :: ws) stop :: ls) =
      addDirective blocks frames d w.pos ws stop >>= fun next => next.readAll ls := by
  rw [readAll_cons]
  simp only [add, addToBody, hk]

end Draft

namespace Descent

/-! ### The tokens of lines -/

/-- The tokens of the last lines of a template, with the one that ends it. -/
def stream (eof : Token) (ls : List Line) : List Token := ls.flatMap Line.tokens ++ [eof]

/-- The first of these tokens. -/
def lead (eof : Token) : List Line → Token
  | [] => eof
  | .text content pos :: _ => ⟨.text, content, pos⟩
  | .directive ws stop :: _ => front stop ws

section Stream

variable {eof : Token} {ls : List Line}

theorem stream_directive (ws : List Token) (stop : Position) :
    stream eof (.directive ws stop :: ls) = ws ++ lineEnd stop :: stream eof ls := by
  simp [stream, Line.tokens, lineEnd]

theorem stream_text (content : String) (pos : Position) :
    stream eof (.text content pos :: ls) = ⟨.text, content, pos⟩ :: stream eof ls := rfl

theorem exists_lead (eof : Token) (ls : List Line) :
    ∃ more, stream eof ls = lead eof ls :: more := by
  match ls with
  | [] => exact ⟨[], rfl⟩
  | .text content pos :: ls => exact ⟨_, stream_text content pos⟩
  | .directive ws stop :: ls =>
    rw [stream_directive]
    exact exists_front stop ws (stream eof ls)

theorem length_stream_lt (line : Line) :
    (stream eof ls).length < (stream eof (line :: ls)).length := by
  cases line with
  | text content pos => exact Nat.lt_succ_self _
  | directive ws stop =>
    rw [stream_directive]
    simp only [List.length_append, List.length_cons]
    omega

theorem length_stream_of_suffix {more : List Line} (h : more <:+ ls) :
    (stream eof more).length ≤ (stream eof ls).length := by
  obtain ⟨front, rfl⟩ := h
  simp only [stream, List.flatMap_append, List.length_append]
  omega

theorem length_stream_of_lt {more : List Line} (h : more <:+ ls) (hl : more.length < ls.length) :
    (stream eof more).length < (stream eof ls).length := by
  obtain ⟨front, rfl⟩ := h
  cases front with
  | nil => exact absurd hl (Nat.lt_irrefl _)
  | cons line front =>
    exact Nat.lt_of_le_of_lt (length_stream_of_suffix (List.suffix_append front more))
      (length_stream_lt line)

end Stream

namespace Cursor

/-- The cursor is in front of the lines `ls`, which are the last ones of the template and have less
than `limit` tokens. -/
structure Before (tokens : List Token) (eof : Token) (limit : Nat) (ls : List Line) (c : Cursor) :
    Prop where
  at_lines : c.At tokens (stream eof ls)
  wordy : ∀ line ∈ ls, line.Wordy
  room : (stream eof ls).length < limit

section Before

variable {tokens ws : List Token} {eof w : Token} {limit : Nat} {ls left : List Line} {c d : Cursor}
  {stop : Position}

theorem Before.looked (h : c.Before tokens eof limit ls) :
    (c.noting (.looked c.place)).Before tokens eof limit ls :=
  ⟨h.at_lines.looked, h.wordy, h.room⟩

theorem Before.later (h : c.Before tokens eof limit ls) (hd : d.At tokens (stream eof left))
    (hs : left <:+ ls) : d.Before tokens eof limit left :=
  ⟨hd, fun line hl => h.wordy line (hs.subset hl),
    Nat.lt_of_le_of_lt (length_stream_of_suffix hs) h.room⟩

/-- Behind a line there is room for one call more. -/
theorem Before.inside (h : c.Before tokens eof (limit + 1) ls) (hd : d.At tokens (stream eof left))
    (hs : left <:+ ls) (hl : left.length < ls.length) : d.Before tokens eof limit left :=
  ⟨hd, fun line hl => h.wordy line (hs.subset hl),
    Nat.lt_of_lt_of_le (length_stream_of_lt hs hl) (Nat.le_of_lt_succ h.room)⟩

theorem Before.lead_eq (h : c.Before tokens eof limit ls) :
    tokenAt tokens c.place = lead eof ls := by
  obtain ⟨more, he⟩ := exists_lead eof ls
  have hat := h.at_lines
  rw [he] at hat
  exact hat.tokenAt_eq

theorem Before.words (h : c.Before tokens eof limit (.directive ws stop :: left)) : AllWords ws :=
  h.wordy _ List.mem_cons_self

theorem Before.words_lt (h : c.Before tokens eof limit (.directive ws stop :: left)) :
    ws.length < limit := by
  have hroom := h.room
  rw [stream_directive] at hroom
  simp only [List.length_append, List.length_cons] at hroom
  omega

theorem Before.exists_take_text {content : String} {pos : Position}
    (h : c.Before tokens eof limit (.text content pos :: left)) :
    ∃ d, take tokens c = some (.ok ⟨.text, content, pos⟩, d) ∧ d.At tokens (stream eof left) := by
  obtain ⟨more, he⟩ := exists_lead eof left
  have hat := h.at_lines
  rw [stream_text, he] at hat
  rw [he]
  exact hat.exists_take (by simp)

theorem Before.exists_take_word
    (h : c.Before tokens eof limit (.directive (w :: ws) stop :: left)) :
    ∃ d, take tokens c = some (.ok w, d) ∧
      d.At tokens (ws ++ lineEnd stop :: stream eof left) := by
  obtain ⟨more, he⟩ := exists_front stop ws (stream eof left)
  have hat := h.at_lines
  rw [stream_directive, List.cons_append, he] at hat
  rw [he]
  exact hat.exists_take (kind_ne_of_word (h.words w List.mem_cons_self)).2

end Before

end Cursor

section Blocks

variable {tokens : List Token} {eof : Token} {α β σ : Type}

/-! ### What a routine builds -/

/-- The run ends at the beginning of a later line with something behind which the rest of the
template makes `goal` of the draft `after`, or with an error that `goal` is. -/
inductive Builds (tokens : List Token) (eof : Token) (ls : List Line)
    (goal : Except SyntaxError (List Block)) (after : α → Draft) :
    Option (Except SyntaxError α × Cursor) → Prop
  | ok {x : α} {d : Cursor} {left : List Line} :
      d.At tokens (stream eof left) → left <:+ ls → left.length < ls.length →
      goal = (after x).readAll left → Builds tokens eof ls goal after (some (.ok x, d))
  | error {e : SyntaxError} {d : Cursor} :
      d.Sound tokens → goal = .error e → Builds tokens eof ls goal after (some (.error e, d))

section Builds

variable {ls left : List Line} {goal : Except SyntaxError (List Block)} {after : α → Draft}
  {after' : β → Draft} {c : Cursor} {ws : List Token} {stop : Position} {w : Token}

theorem Builds.bind {m : Run α} {f : α → Run β} (h : Builds tokens eof ls goal after (m tokens c))
    (hf : ∀ x d left, d.At tokens (stream eof left) → left <:+ ls → left.length < ls.length →
      Builds tokens eof ls ((after x).readAll left) after' (f x tokens d)) :
    Builds tokens eof ls goal after' ((m >>= f) tokens c) := by
  generalize he : m tokens c = run at h
  cases h with
  | error hd hgoal =>
    rw [bind_of_error he]
    exact .error hd hgoal
  | ok hd hs hl hgoal =>
    rw [bind_of_ok he, hgoal]
    exact hf _ _ _ hd hs hl

theorem Builds.mono {run : Option (Except SyntaxError α × Cursor)}
    (h : Builds tokens eof left goal after run) (hs : left <:+ ls) :
    Builds tokens eof ls goal after run := by
  cases h with
  | error hd hgoal => exact .error hd hgoal
  | ok hd hs' hl' hgoal =>
    exact .ok hd (hs'.trans hs) (Nat.lt_of_lt_of_le hl' hs.length_le) hgoal

/-- Which part of the first line it was does not matter behind it. -/
theorem Builds.behind {line line' : Line} {run : Option (Except SyntaxError α × Cursor)}
    (h : Builds tokens eof (line :: left) goal after run) :
    Builds tokens eof (line' :: left) goal after run := by
  cases h with
  | error hd hgoal => exact .error hd hgoal
  | ok hd hs hl hgoal =>
    rcases List.suffix_cons_iff.1 hs with rfl | hs
    · exact absurd hl (Nat.lt_irrefl _)
    · exact .ok hd (hs.trans (List.suffix_cons _ _)) hl hgoal

theorem Builds.routine {m : Run α} (name : Routine) (hc : c.At tokens (stream eof ls))
    (h : Builds tokens eof ls goal after (m tokens c)) :
    Builds tokens eof ls goal after (routine name m tokens c) := by
  rw [Descent.routine]
  generalize he : m tokens c = run at h
  cases h with
  | error hd hgoal =>
    rw [noted_of_error he]
    exact .error hd hgoal
  | ok hd hs hl hgoal =>
    rw [noted_of_ok he]
    have hlt := hc.lt_place hd (length_stream_of_lt hs hl)
    exact .ok (hd.noting ⟨hd.sound.place_lt, .inl hlt⟩ rfl) hs hl hgoal

/-- At words the run does what `reader` says, and goes on. -/
theorem Builds.words {m : Run α} {reader : Reader α} {F : α → Run β} {least : Nat}
    {next : α → Except SyntaxError (List Block)} (hw : AllWords ws)
    (hc : c.At tokens (ws ++ lineEnd stop :: stream eof left))
    (h : Follows stop least m ws (reader ws))
    (hgoal : goal = Reader.all reader ws stop >>= next)
    (hnext : ∀ x rest d, AllWords rest → d.At tokens (rest ++ lineEnd stop :: stream eof left) →
      Builds tokens eof ls (Reader.all Reader.nothing rest stop >>= fun _ => next x) after'
        (F x tokens d)) :
    Builds tokens eof ls goal after' ((m >>= F) tokens c) := by
  have hm := h hw tokens _ c hc
  generalize he : m tokens c = run at hm
  generalize hread : reader ws = out at hm
  cases hm with
  | @error r d hd =>
    rw [bind_of_error he, hgoal]
    refine .error hd ?_
    simp only [Reader.all, hread]
    rfl
  | @ok x rest d hd hs hl =>
    rw [bind_of_ok he, hgoal]
    have hall : Reader.all reader ws stop >>= next =
        Reader.all Reader.nothing rest stop >>= fun _ => next x := by
      simp only [Reader.all, hread, Reader.nothing]
      cases rest <;> rfl
    rw [hall]
    exact hnext x rest d (fun t ht => hw t (hs.subset ht)) hd

theorem exists_endOfLine {t : Token} {more : List Token}
    (hc : c.At tokens (lineEnd stop :: t :: more)) :
    ∃ d, endOfLine tokens c = some (.ok (), d) ∧ d.At tokens (t :: more) := by
  have htoken := hc.tokenAt_eq
  obtain ⟨d, htake, hd⟩ := hc.looked.exists_take (show (lineEnd stop).kind ≠ .endOfTemplate by
    simp [lineEnd])
  refine ⟨d, ?_, hd⟩
  have hexpect : expect .endOfLine .endOfLine tokens c = some (.ok (lineEnd stop), d) := by
    rw [expect, look_bind, htoken, if_pos (show (lineEnd stop).kind = .endOfLine from rfl)]
    exact htake
  rw [endOfLine, bind_of_ok hexpect]
  rfl

theorem endOfLine_of_word {more : List Token} (hc : c.At tokens (w :: more))
    (hw : w.kind ≠ .endOfLine) : ∃ d, d.Sound tokens ∧ endOfLine tokens c =
      some (.error ⟨.unexpected w.kind w.literal .endOfLine, w.pos⟩, d) := by
  refine ⟨_, hc.looked.looked.sound, ?_⟩
  refine bind_of_error ?_
  rw [expect, look_bind, hc.tokenAt_eq, if_neg hw]
  exact hc.looked.unexpected_eq .endOfLine

theorem Builds.endOfLine {f : Unit → Run β} {next : Except SyntaxError (List Block)}
    (hw : AllWords ws) (hc : c.At tokens (ws ++ lineEnd stop :: stream eof left))
    (hgoal : goal = Reader.all Reader.nothing ws stop >>= fun _ => next)
    (hnext : ∀ d, d.At tokens (stream eof left) →
      Builds tokens eof ls next after' (f () tokens d)) :
    Builds tokens eof ls goal after' ((endOfLine >>= f) tokens c) := by
  rw [hgoal]
  cases ws with
  | nil =>
    obtain ⟨more, he⟩ := exists_lead eof left
    rw [List.nil_append, he] at hc
    obtain ⟨d, hend, hd⟩ := exists_endOfLine hc
    rw [← he] at hd
    rw [bind_of_ok hend]
    exact hnext d hd
  | cons w ws =>
    obtain ⟨d, hd, hend⟩ := endOfLine_of_word hc (kind_ne_of_word (hw w List.mem_cons_self)).1
    rw [bind_of_error hend]
    exact .error hd rfl

/-- The line ends, and the cursor goes to the next one. -/
theorem Builds.last {x : β} (hw : AllWords ws)
    (hc : c.At tokens (ws ++ lineEnd stop :: stream eof left))
    (hgoal : goal = Reader.all Reader.nothing ws stop >>= fun _ => (after' x).readAll left)
    (hs : left <:+ ls) (hl : left.length < ls.length) :
    Builds tokens eof ls goal after' ((do
      Descent.endOfLine
      return x : Run β) tokens c) :=
  .endOfLine hw hc hgoal fun _ hd => .ok hd hs hl rfl

end Builds

theorem builds_unexpected {ls : List Line} {goal : Except SyntaxError (List Block)}
    {after : α → Draft} {c : Cursor} {limit : Nat} {expected : Expectation}
    (hc : c.Before tokens eof limit ls)
    (hgoal : goal = .error ⟨.unexpected (lead eof ls).kind (lead eof ls).literal expected,
      (lead eof ls).pos⟩) : Builds tokens eof ls goal after (unexpected expected tokens c) := by
  rw [unexpected, look_bind, hc.lead_eq]
  exact .error hc.at_lines.looked.sound hgoal

/-! ### Bodies -/

/-- The frames are open around blocks that stand inside of it. -/
inductive Inside.Fits : Inside → List Frame → Prop
  | template : Fits .template []
  | body {frame : Frame} {outer : List Frame} :
      Fits (.body frame.words.1 frame.pos frame.words.2) (frame :: outer)

/-- The run ends behind the word that closes the body, or at the end of the template, with blocks
behind which the rest of the template makes `goal` of a draft with these blocks, or with an error
that `goal` is. -/
inductive Closes (tokens : List Token) (eof : Token) (ls : List Line) (inside : Inside)
    (frames : List Frame) (goal : Except SyntaxError (List Block)) :
    Option (Except SyntaxError (List Block × Token) × Cursor) → Prop
  | body {opener e : Directive} {pos stop : Position} {closers : List Directive}
      {blocks : List Block} {closer : Token} {ws : List Token} {left : List Line} {d : Cursor} :
      inside = .body opener pos closers → closer.kind = .directive e → e ∈ closers →
      .directive (closer :: ws) stop :: left <:+ ls →
      d.At tokens (ws ++ lineEnd stop :: stream eof left) →
      goal = (⟨.body blocks.reverse, frames⟩ : Draft).readAll
        (.directive (closer :: ws) stop :: left) →
      Closes tokens eof ls inside frames goal (some (.ok (blocks, closer), d))
  | template {blocks : List Block} {d : Cursor} :
      inside = .template → d.At tokens [eof] → goal = .ok blocks →
      Closes tokens eof ls inside frames goal (some (.ok (blocks, eof), d))
  | error {e : SyntaxError} {d : Cursor} :
      d.Sound tokens → goal = .error e →
      Closes tokens eof ls inside frames goal (some (.error e, d))

theorem Closes.mono {ls left : List Line} {inside : Inside} {frames : List Frame}
    {goal : Except SyntaxError (List Block)}
    {run : Option (Except SyntaxError (List Block × Token) × Cursor)}
    (h : Closes tokens eof left inside frames goal run) (hs : left <:+ ls) :
    Closes tokens eof ls inside frames goal run := by
  cases h with
  | body hi hk he hs' hd hgoal => exact .body hi hk he (hs'.trans hs) hd hgoal
  | template hi hd hgoal => exact .template hi hd hgoal
  | error hd hgoal => exact .error hd hgoal

/-- The bodies of less than `limit` tokens are read as a draft reads them. -/
def ReadsBodies (tokens : List Token) (eof : Token) (limit : Nat)
    (bodies : Inside → Run (List Block × Token)) : Prop :=
  ∀ inside frames ls c, c.Before tokens eof limit ls → inside.Fits frames →
    Closes tokens eof ls inside frames ((⟨.body [], frames⟩ : Draft).readAll ls)
      (bodies inside tokens c)

theorem Builds.body {bodies : Inside → Run (List Block × Token)} {limit : Nat} {ls left : List Line}
    {c : Cursor} {outer : List Frame} {after : β → Draft} {f : List Block × Token → Run β}
    {opener : Directive} {pos : Position} {closers : List Directive} (frame : Frame)
    (h : ReadsBodies tokens eof limit bodies) (hwords : frame.words = (opener, closers))
    (hpos : frame.pos = pos) (hc : c.Before tokens eof limit left)
    (hnext : ∀ blocks closer e ws stop more d, closer.kind = .directive e → e ∈ closers →
      AllWords ws → more <:+ left → more.length < left.length →
      d.At tokens (ws ++ lineEnd stop :: stream eof more) →
      Builds tokens eof ls
        (Draft.addDirective blocks (frame :: outer) e closer.pos ws stop >>= fun next =>
          next.readAll more) after (f (blocks.reverse, closer) tokens d)) :
    Builds tokens eof ls ((⟨.body [], frame :: outer⟩ : Draft).readAll left) after
      ((bodies (.body opener pos closers) >>= f) tokens c) := by
  have hfits : (Inside.body opener pos closers).Fits (frame :: outer) := by
    have hfits : (Inside.body frame.words.1 frame.pos frame.words.2).Fits (frame :: outer) := .body
    rw [hwords, hpos] at hfits
    exact hfits
  have hm := h _ _ left c hc hfits
  generalize he : bodies _ tokens c = run at hm
  cases hm with
  | error hd hgoal =>
    rw [bind_of_error he]
    exact .error hd hgoal
  | template hi => cases hi
  | @body _ e _ stop _ blocks closer ws more d hi hk hmem hs hd hgoal =>
    cases hi
    rw [bind_of_ok he, hgoal, Draft.readAll_directive hk]
    have hline : AllWords (closer :: ws) := hc.wordy _ (hs.subset List.mem_cons_self)
    have hn := hnext blocks.reverse closer e ws stop more d hk hmem (Token.allWords_cons.1 hline).2
      ((List.suffix_cons _ _).trans hs) (Nat.lt_of_lt_of_le (Nat.lt_succ_self _) hs.length_le) hd
    rw [List.reverse_reverse] at hn
    exact hn

/-! ### Blocks -/

/-- The run ends with the block that a draft has read behind these lines. -/
abbrev BuildsBlock (tokens : List Token) (eof : Token) (ls : List Line) (blocks : List Block)
    (frames : List Frame) (run : Option (Except SyntaxError Block × Cursor)) : Prop :=
  Builds tokens eof ls ((⟨.body blocks, frames⟩ : Draft).readAll ls)
    (fun b => ⟨.body (b :: blocks), frames⟩) run

section Lines

variable {limit : Nat} {dir : Directive} {w : Token} {ws : List Token} {stop : Position}
  {left : List Line} {c : Cursor} {blocks : List Block} {frames : List Frame} {after : α → Draft}
  {bodies : Inside → Run (List Block × Token)}

theorem builds_text {content : String} {pos : Position}
    (hc : c.Before tokens eof limit (.text content pos :: left)) :
    BuildsBlock tokens eof (.text content pos :: left) blocks frames (text tokens c) := by
  refine .routine .text hc.at_lines ?_
  obtain ⟨d, htake, hd⟩ := hc.exists_take_text
  rw [bind_of_ok htake]
  exact .ok hd (List.suffix_cons _ _) (Nat.lt_succ_self _) rfl

/-- Behind the word of a directive the run goes on as the draft does. -/
theorem Builds.directive {f : Token → Run α} (name : Routine)
    (hc : c.Before tokens eof limit (.directive (w :: ws) stop :: left))
    (hk : w.kind = .directive dir)
    (h : ∀ d, AllWords ws → d.At tokens (ws ++ lineEnd stop :: stream eof left) →
      Builds tokens eof (.directive (w :: ws) stop :: left)
        (Draft.addDirective blocks frames dir w.pos ws stop >>= fun next => next.readAll left)
        after (f w tokens d)) :
    Builds tokens eof (.directive (w :: ws) stop :: left)
      ((⟨.body blocks, frames⟩ : Draft).readAll (.directive (w :: ws) stop :: left)) after
      (Descent.routine name (take >>= f) tokens c) := by
  refine .routine name hc.at_lines ?_
  obtain ⟨d, htake, hd⟩ := hc.exists_take_word
  rw [Draft.readAll_directive hk, bind_of_ok htake]
  exact h d (Token.allWords_cons.1 hc.words).2 hd

theorem builds_check (hc : c.Before tokens eof limit (.directive (w :: ws) stop :: left))
    (hk : w.kind = .directive .check) :
    BuildsBlock tokens eof (.directive (w :: ws) stop :: left) blocks frames
      (check limit tokens c) := by
  refine .directive _ hc hk fun d hw hd => ?_
  refine .words hw hd (follows_test (Nat.lt_of_succ_lt hc.words_lt)) (bind_assoc ..)
    fun x rest d hw hd => ?_
  exact .last hw hd rfl (List.suffix_cons _ _) (Nat.lt_succ_self _)

theorem builds_define (hc : c.Before tokens eof limit (.directive (w :: ws) stop :: left))
    (hk : w.kind = .directive .define) :
    BuildsBlock tokens eof (.directive (w :: ws) stop :: left) blocks frames
      (define limit tokens c) := by
  refine .directive _ hc hk fun d hw hd => ?_
  refine .words hw hd (follows_definition (Nat.lt_of_succ_lt hc.words_lt)) (bind_assoc ..)
    fun x rest d hw hd => ?_
  exact .last hw hd rfl (List.suffix_cons _ _) (Nat.lt_succ_self _)

theorem builds_loop (hb : ReadsBodies tokens eof limit bodies)
    (hc : c.Before tokens eof (limit + 1) (.directive (w :: ws) stop :: left))
    (hk : w.kind = .directive .loop) :
    BuildsBlock tokens eof (.directive (w :: ws) stop :: left) blocks frames
      (loop bodies (limit + 1) tokens c) := by
  refine .directive _ hc hk fun d hw hd => ?_
  refine .words hw hd (follows_header (Nat.lt_of_succ_lt hc.words_lt)) (bind_assoc ..)
    fun header rest d hw hd => ?_
  refine .endOfLine hw hd rfl fun d hd => ?_
  have hbody := hc.inside hd (List.suffix_cons _ _) (Nat.lt_succ_self _)
  refine .body (.block (.loop header) w.pos blocks) hb rfl rfl hbody
    fun body closer e ws stop more d _ he hw hs hl hd => ?_
  cases List.mem_singleton.1 he
  exact .last hw hd (bind_assoc ..) (hs.trans (List.suffix_cons _ _)) (Nat.lt_succ_of_lt hl)

theorem builds_guard (hb : ReadsBodies tokens eof limit bodies)
    (hc : c.Before tokens eof (limit + 1) (.directive (w :: ws) stop :: left))
    (hk : w.kind = .directive .guard) :
    BuildsBlock tokens eof (.directive (w :: ws) stop :: left) blocks frames
      (guard bodies (limit + 1) tokens c) := by
  refine .directive _ hc hk fun d hw hd => ?_
  refine .words hw hd (follows_expression (Nat.lt_of_succ_lt hc.words_lt)) (bind_assoc ..)
    fun test rest d hw hd => ?_
  refine .endOfLine hw hd rfl fun d hd => ?_
  have hbody := hc.inside hd (List.suffix_cons _ _) (Nat.lt_succ_self _)
  refine .body (.block (.guard test) w.pos blocks) hb rfl rfl hbody
    fun body closer e ws stop more d _ he hw hs hl hd => ?_
  cases List.mem_singleton.1 he
  refine .words hw hd follows_message? (bind_assoc ..) fun message rest d hw hd => ?_
  exact .last hw hd rfl (hs.trans (List.suffix_cons _ _)) (Nat.lt_succ_of_lt hl)

theorem builds_condition (hb : ReadsBodies tokens eof limit bodies)
    (hc : c.Before tokens eof (limit + 1) (.directive (w :: ws) stop :: left))
    (hk : w.kind = .directive .condition) :
    BuildsBlock tokens eof (.directive (w :: ws) stop :: left) blocks frames
      (condition bodies (limit + 1) tokens c) := by
  refine .directive _ hc hk fun d hw hd => ?_
  refine .words hw hd (follows_expression (Nat.lt_of_succ_lt hc.words_lt)) (bind_assoc ..)
    fun test rest d hw hd => ?_
  refine .endOfLine hw hd rfl fun d hd => ?_
  have hbody := hc.inside hd (List.suffix_cons _ _) (Nat.lt_succ_self _)
  refine .body (.block (.consequence test) w.pos blocks) hb rfl rfl hbody
    fun body closer e ws stop more d hk he hw hs hl hd => ?_
  rcases List.mem_pair.1 he with rfl | rfl
  · refine .endOfLine hw hd (bind_assoc ..) fun d hd => ?_
    rw [if_pos hk]
    refine .body (.block (.alternative test body.reverse) w.pos blocks) hb rfl rfl
      (hbody.later hd hs) fun otherwise closer e ws stop last d _ he hw hs' hl' hd => ?_
    cases List.mem_singleton.1 he
    exact .last hw hd (bind_assoc ..) ((hs'.trans hs).trans (List.suffix_cons _ _))
      (Nat.lt_succ_of_lt (hl'.trans hl))
  · refine .endOfLine hw hd (bind_assoc ..) fun d hd => ?_
    rw [if_neg (by rw [hk]; decide)]
    exact .ok hd (hs.trans (List.suffix_cons _ _)) (Nat.lt_succ_of_lt hl) rfl

end Lines

/-! ### Loops over lines -/

/-- What comes of one round at lines `ls`, where `Ends ls s` is to hold of what the whole loop comes
to. A round that goes on has gone past a line. -/
inductive Turns (tokens : List Token) (eof : Token)
    (Ends : List Line → σ → Option (Except SyntaxError α × Cursor) → Prop) (ls : List Line)
    (s : σ) : Option (Except SyntaxError (σ ⊕ α) × Cursor) → Prop
  | leaves {x : α} {d : Cursor} :
      Ends ls s (some (.ok x, d)) → Turns tokens eof Ends ls s (some (.ok (.inr x), d))
  | fails {e : SyntaxError} {d : Cursor} :
      Ends ls s (some (.error e, d)) → Turns tokens eof Ends ls s (some (.error e, d))
  | goesOn {next : σ} {left : List Line} {d : Cursor} :
      d.At tokens (stream eof left) → left <:+ ls → left.length < ls.length →
      (∀ run, Ends left next run → Ends ls s run) →
      Turns tokens eof Ends ls s (some (.ok (.inl next), d))

theorem rounds_end {loop : Round} {body : σ → Run (σ ⊕ α)} {limit : Nat}
    {Ends : List Line → σ → Option (Except SyntaxError α × Cursor) → Prop}
    (hbody : ∀ ls s c, c.Before tokens eof limit ls →
      Turns tokens eof Ends ls s (body s tokens c))
    {n : Nat} {ls : List Line} {s : σ} {c : Cursor} (hc : c.Before tokens eof limit ls)
    (hn : (stream eof ls).length < n) : Ends ls s (rounds loop body n s tokens c) := by
  -- Each round that goes on leaves fewer tokens, so the bound is above them all the way.
  induction n generalizing ls s c with
  | zero => exact absurd hn (Nat.not_lt_zero _)
  | succ n ih =>
    have hround := hbody ls s c hc
    generalize he : body s tokens c = run at hround
    cases hround with
    | leaves h =>
      rw [rounds_of_inr he]
      exact h
    | fails h =>
      rw [rounds_of_error he]
      exact h
    | @goesOn next left d hd hs hless h =>
      rw [rounds_of_inl he]
      have hlt : (stream eof left).length < (stream eof ls).length := length_stream_of_lt hs hless
      have hnote : (Note.round loop c.place d.place).Sound tokens.length :=
        ⟨hd.sound.place_lt, hc.at_lines.lt_place hd hlt⟩
      exact h _ (ih (hc.later (hd.noting hnote rfl) hs) (by omega))

end Blocks

end Descent

end LineTemplate
