import Mathlib
import LineTemplate.Proofs.Blame
import LineTemplate.Proofs.Displacement
import LineTemplate.Template

/-!
# Templates one below the other

Where a template has been read to its end, no block is open, and a draft knows of the lines that
it has read no more than the blocks in front. So the lines of another template below it are read
as they are alone, further down and with these blocks in front.
-/

namespace LineTemplate

/-! ### Blocks further down -/

def Branch.down {Head : Type} (n : Nat) (move : Head → Head) (b : Branch Head Block) :
    Branch Head Block :=
  ⟨move b.head, Block.downAll n b.body, b.pos.down n⟩

namespace Block

variable (n : Nat)

theorem downAll_eq_map (bs : List Block) : downAll n bs = bs.map (down n) := by
  induction bs with
  | nil => rfl
  | cons b more ih => rw [downAll, ih, List.map_cons]

theorem downAll_reverse (bs : List Block) : downAll n bs.reverse = (downAll n bs).reverse := by
  simp only [downAll_eq_map, List.map_reverse]

theorem downOption_eq_map (body : Option (List Block)) :
    downOption n body = body.map (downAll n) := by
  cases body <;> rfl

theorem downCases_eq_map (cases : List (Branch (List Literal) Block)) :
    downCases n cases = cases.map (Branch.down n (List.map (Literal.down n))) := by
  induction cases with
  | nil => rfl
  | cons c more ih =>
    rw [downCases, ih]
    rfl

theorem downWhens_eq_map (whens : List (Branch Expr Block)) :
    downWhens n whens = whens.map (Branch.down n (Expr.down n)) := by
  induction whens with
  | nil => rfl
  | cons w more ih =>
    rw [downWhens, ih]
    rfl

end Block

/-! ### Drafts further down -/

def Opening.down (n : Nat) : Opening → Opening
  | .consequence test => .consequence (test.down n)
  | .alternative test body => .alternative (test.down n) (Block.downAll n body)
  | .loop header => .loop (header.down n)
  | .guard test => .guard (test.down n)

namespace Selection

variable {Head : Type}

/-- The selection `n` lines further down, with the blocks of `base` in front of it. -/
def below (n : Nat) (move : Head → Head) (base : List Block) (s : Selection Head) :
    Selection Head where
  branches := s.branches.map (Branch.down n move)
  default := s.default.map (Block.downAll n)
  pos := s.pos.down n
  before := Block.downAll n s.before ++ base

def Step.down (n : Nat) (move : Head → Head) : Step Head → Step Head
  | .skip => .skip
  | .branch head pos => .branch (head.map move) (pos.down n)
  | .done => .done

end Selection

def Frame.below (n : Nat) (base : List Block) : Frame → Frame
  | .block opening pos before =>
    .block (opening.down n) (pos.down n) (Block.downAll n before ++ base)
  | .switchBranch subject s head pos =>
    .switchBranch (subject.down n) (s.below n (List.map (Literal.down n)) base)
      (head.map (List.map (Literal.down n))) (pos.down n)
  | .chooseBranch s head pos =>
    .chooseBranch (s.below n (Expr.down n) base) (head.map (Expr.down n)) (pos.down n)

def Place.below (n : Nat) (base : List Block) : Place → Place
  | .body blocks => .body (Block.downAll n blocks ++ base)
  | .inSwitch subject s => .inSwitch (subject.down n) (s.below n (List.map (Literal.down n)) base)
  | .inChoose s => .inChoose (s.below n (Expr.down n) base)

namespace Draft

/-- What is in front of a body with these frames around it: only what is inside no frame has the
blocks of `base` in front. -/
def ground (base : List Block) : List Frame → List Block
  | [] => base
  | _ :: _ => []

def framesBelow (n : Nat) (base : List Block) : List Frame → List Frame
  | [] => []
  | f :: outer => f.below n (ground base outer) :: framesBelow n base outer

/-- The draft `n` lines further down, with the blocks of `base`, newest first, in front of it. -/
def below (n : Nat) (base : List Block) (draft : Draft) : Draft :=
  ⟨draft.place.below n (ground base draft.frames), framesBelow n base draft.frames⟩

end Draft

namespace Selection

variable {Head : Type} {n : Nat} {move : Head → Head} {reader : Reader Head}

theorem step_below (hr : reader.Moves n move) (opener d : Directive) (base : List Block)
    (s : Selection Head) (line : Line) : Moved (SyntaxError.down n) (Step.down n move)
      (s.step opener d reader line) ((s.below n move base).step opener d reader (line.down n)) := by
  cases line with
  | text content pos => exact .ite (fun _ => .ok _) fun _ => .error _
  | directive words stop =>
    cases words with
    | nil => exact .error _
    | cons w rest =>
      refine .ite (fun _ => ?branch) fun _ => .ite (fun _ => ?default) fun _ =>
        .ite (fun _ => ?done) fun _ => .error _
      case branch =>
        refine (hr.all rest stop).bind fun head => ?_
        exact .ok (Step.branch (some head) w.pos)
      case default =>
        have hd : (s.below n move base).default.isSome = s.default.isSome := Option.isSome_map
        rw [hd]
        refine .ite (fun _ => .error _) fun _ => ?_
        refine ((Reader.moves_nothing n).all rest stop).bind fun _ => ?_
        exact .ok (Step.branch none w.pos)
      case done =>
        refine ((Reader.moves_nothing n).all rest stop).bind fun _ => ?_
        exact .ok Step.done

theorem close_below (base : List Block) (s : Selection Head) (head : Option Head)
    (pos : Position) (body : List Block) :
    (s.below n move base).close (head.map move) (pos.down n) (Block.downAll n body) =
      (s.close head pos body).below n move base := by
  cases head <;> rfl

end Selection

namespace Draft

variable {n : Nat}

theorem words_below (base : List Block) (f : Frame) : (f.below n base).words = f.words := by
  cases f with
  | block opening pos before => cases opening <;> rfl
  | switchBranch subject s head pos => cases head <;> rfl
  | chooseBranch s head pos => cases head <;> rfl

theorem pos_below (base : List Block) (f : Frame) : (f.below n base).pos = f.pos.down n := by
  cases f <;> rfl

theorem stray_below (base : List Block) (frames : List Frame) (kind : Token.Kind) :
    stray (framesBelow n base frames) kind = stray frames kind := by
  cases frames with
  | nil => rfl
  | cons f outer => rw [framesBelow, stray, stray, words_below]

theorem moved_stray (base : List Block) (frames : List Frame) (kind : Token.Kind)
    (pos : Position) : Moved (SyntaxError.down n) (below n base)
      (.error ⟨stray frames kind, pos⟩)
      (.error ⟨stray (framesBelow n base frames) kind, pos.down n⟩) := by
  rw [stray_below]
  exact .error _

/-- The blocks of a body that is inside a frame have nothing in front that is not in it. -/
theorem reverse_inner (blocks : List Block) :
    (Block.downAll n blocks ++ []).reverse = Block.downAll n blocks.reverse := by
  rw [List.append_nil, Block.downAll_reverse]

theorem addDirective_below (base blocks : List Block) (frames : List Frame) (d : Directive)
    (pos : Position) (rest : List Token) (stop : Position) :
    Moved (SyntaxError.down n) (below n base) (addDirective blocks frames d pos rest stop)
      (addDirective (Block.downAll n blocks ++ ground base frames) (framesBelow n base frames) d
        (pos.down n) (rest.map (Token.down n)) (stop.down n)) := by
  have hnothing := (Reader.moves_nothing n).all rest stop
  -- A directive that opens a block takes the blocks in front of it into a frame, `base` included;
  -- one that closes a body looks at the innermost frame, and such a body has no `base` in front.
  cases d with
  | condition =>
    refine ((Reader.moves_expression n).all rest stop).bind fun test => ?_
    exact .ok (Draft.mk (.body []) (.block (.consequence test) pos blocks :: frames))
  | switch =>
    refine ((Reader.moves_operand n).all rest stop).bind fun subject => ?_
    exact .ok (Draft.mk (.inSwitch subject (.start pos blocks)) frames)
  | choose =>
    refine hnothing.bind fun _ => ?_
    exact .ok (Draft.mk (.inChoose (.start pos blocks)) frames)
  | loop =>
    refine ((Reader.moves_loop n).all rest stop).bind fun header => ?_
    exact .ok (Draft.mk (.body []) (.block (.loop header) pos blocks :: frames))
  | guard =>
    refine ((Reader.moves_expression n).all rest stop).bind fun test => ?_
    exact .ok (Draft.mk (.body []) (.block (.guard test) pos blocks :: frames))
  | check =>
    refine ((Reader.moves_check n).all rest stop).bind fun check => ?_
    exact .ok (Draft.mk (.body (.check check.1 check.2 pos :: blocks)) frames)
  | define =>
    refine ((Reader.moves_definition n).all rest stop).bind fun definition => ?_
    exact .ok (Draft.mk (.body (.define definition.1 definition.2 pos :: blocks)) frames)
  | case | default | endSelection | when => exact moved_stray base frames _ pos
  | otherwise =>
    rcases frames with _ | ⟨_ | _ | _, outer⟩
    case cons.block opening at' before =>
      cases opening with
      | consequence test =>
        simp only [framesBelow, Frame.below, Opening.down, ground, addDirective, reverse_inner]
        refine hnothing.bind fun _ => ?_
        exact .ok (Draft.mk (.body [])
          (.block (.alternative test blocks.reverse) at' before :: outer))
      | _ => exact moved_stray base _ _ pos
    all_goals exact moved_stray base _ _ pos
  | endCondition =>
    rcases frames with _ | ⟨_ | _ | _, outer⟩
    case cons.block opening at' before =>
      cases opening with
      | consequence test =>
        simp only [framesBelow, Frame.below, Opening.down, ground, addDirective, reverse_inner]
        refine hnothing.bind fun _ => ?_
        exact .ok (Draft.mk (.body (.condition test blocks.reverse none at' :: before)) outer)
      | alternative test body =>
        simp only [framesBelow, Frame.below, Opening.down, ground, addDirective, reverse_inner]
        refine hnothing.bind fun _ => ?_
        exact .ok
          (Draft.mk (.body (.condition test body (some blocks.reverse) at' :: before)) outer)
      | _ => exact moved_stray base _ _ pos
    all_goals exact moved_stray base _ _ pos
  | endLoop =>
    rcases frames with _ | ⟨_ | _ | _, outer⟩
    case cons.block opening at' before =>
      cases opening with
      | loop header =>
        simp only [framesBelow, Frame.below, Opening.down, ground, addDirective, reverse_inner]
        refine hnothing.bind fun _ => ?_
        exact .ok (Draft.mk (.body (.loop header blocks.reverse at' :: before)) outer)
      | _ => exact moved_stray base _ _ pos
    all_goals exact moved_stray base _ _ pos
  | endGuard =>
    rcases frames with _ | ⟨_ | _ | _, outer⟩
    case cons.block opening at' before =>
      cases opening with
      | guard test =>
        simp only [framesBelow, Frame.below, Opening.down, ground, addDirective, reverse_inner]
        refine ((Reader.moves_message? n).all rest stop).bind fun message => ?_
        exact .ok (Draft.mk (.body (.guard test blocks.reverse message at' :: before)) outer)
      | _ => exact moved_stray base _ _ pos
    all_goals exact moved_stray base _ _ pos
  | endBranch =>
    rcases frames with _ | ⟨_ | _ | _, outer⟩
    case cons.switchBranch subject s head at' =>
      simp only [framesBelow, Frame.below, ground, addDirective, reverse_inner]
      refine hnothing.bind fun _ => ?_
      rw [Selection.close_below]
      exact .ok (Draft.mk (.inSwitch subject (s.close head at' blocks.reverse)) outer)
    case cons.chooseBranch s head at' =>
      simp only [framesBelow, Frame.below, ground, addDirective, reverse_inner]
      refine hnothing.bind fun _ => ?_
      rw [Selection.close_below]
      exact .ok (Draft.mk (.inChoose (s.close head at' blocks.reverse)) outer)
    all_goals exact moved_stray base _ _ pos

theorem switch_below (base : List Block) (subject : Operand) (s : Selection (List Literal)) :
    Block.switch (subject.down n)
      (s.below n (List.map (Literal.down n)) base).branches.reverse
      (s.below n (List.map (Literal.down n)) base).default (s.pos.down n) =
    (Block.switch subject s.branches.reverse s.default s.pos).down n := by
  rw [Block.down, Block.downCases_eq_map, Block.downOption_eq_map, List.map_reverse]
  rfl

theorem choose_below (base : List Block) (s : Selection Expr) :
    Block.choose (s.below n (Expr.down n) base).branches.reverse
      (s.below n (Expr.down n) base).default (s.pos.down n) =
    (Block.choose s.branches.reverse s.default s.pos).down n := by
  rw [Block.down, Block.downWhens_eq_map, Block.downOption_eq_map, List.map_reverse]
  rfl

theorem addToBody_below (base blocks : List Block) (frames : List Frame) (line : Line) :
    Moved (SyntaxError.down n) (below n base) (addToBody blocks frames line)
      (addToBody (Block.downAll n blocks ++ ground base frames) (framesBelow n base frames)
        (line.down n)) := by
  cases line with
  | text content pos => exact .ok (Draft.mk (.body (.text content pos :: blocks)) frames)
  | directive words stop =>
    cases words with
    | nil => exact moved_stray base frames .endOfLine stop
    | cons w rest =>
      obtain ⟨kind, literal, pos⟩ := w
      cases kind with
      | directive d => exact addDirective_below base blocks frames d pos rest stop
      | unknown => exact .error _
      | _ => exact moved_stray base frames _ pos

theorem add_below (base : List Block) (draft : Draft) (line : Line) :
    Moved (SyntaxError.down n) (below n base) (draft.add line)
      ((draft.below n base).add (line.down n)) := by
  obtain ⟨place, frames⟩ := draft
  cases place with
  | body blocks => exact addToBody_below base blocks frames line
  | inSwitch subject s =>
    refine (Selection.step_below (Reader.moves_literals n) _ _ _ s line).bind fun step => ?_
    cases step with
    | skip => exact .ok (Draft.mk (.inSwitch subject s) frames)
    | branch head pos =>
      exact .ok (Draft.mk (.body []) (.switchBranch subject s head pos :: frames))
    | done =>
      have hmoved : Moved (SyntaxError.down n) (below n base) _ _ := .ok (Draft.mk
        (.body (.switch subject s.branches.reverse s.default s.pos :: s.before)) frames)
      rw [below, Place.below, Block.downAll, ← switch_below] at hmoved
      exact hmoved
  | inChoose s =>
    refine (Selection.step_below (Reader.moves_expression n) _ _ _ s line).bind fun step => ?_
    cases step with
    | skip => exact .ok (Draft.mk (.inChoose s) frames)
    | branch head pos => exact .ok (Draft.mk (.body []) (.chooseBranch s head pos :: frames))
    | done =>
      have hmoved : Moved (SyntaxError.down n) (below n base) _ _ := .ok (Draft.mk
        (.body (.choose s.branches.reverse s.default s.pos :: s.before)) frames)
      rw [below, Place.below, Block.downAll, ← choose_below] at hmoved
      exact hmoved

theorem addAll_below (base : List Block) (draft : Draft) (ls : List Line) :
    Moved (SyntaxError.down n) (below n base) (draft.addAll ls)
      ((draft.below n base).addAll (ls.map (Line.down n))) := by
  induction ls generalizing draft with
  | nil => exact .ok draft
  | cons line more ih =>
    have hline := add_below (n := n) base draft line
    rw [List.map_cons, addAll, addAll]
    generalize draft.add line = x, (draft.below n base).add (line.down n) = y at hline
    cases hline with
    | ok next => exact ih next
    | error e => exact .error e

theorem finish_below (base : List Block) (draft : Draft) :
    Moved (SyntaxError.down n) (base.reverse ++ Block.downAll n ·) draft.finish
      (draft.below n base).finish := by
  obtain ⟨place, frames⟩ := draft
  cases place with
  | body blocks =>
    cases frames with
    | nil =>
      have hblocks : (Block.downAll n blocks ++ base).reverse =
          base.reverse ++ Block.downAll n blocks.reverse := by
        rw [List.reverse_append, Block.downAll_reverse]
      show Moved _ _ (.ok blocks.reverse) (.ok (Block.downAll n blocks ++ base).reverse)
      rw [hblocks]
      exact .ok _
    | cons f outer =>
      simp only [below, framesBelow, Place.below, finish, words_below, pos_below]
      exact .error _
  | inSwitch subject s => exact .error _
  | inChoose s => exact .error _

end Draft

/-! ### Lines further down -/

theorem Line.ofChars_down (m n : Nat) (cs : List Char) :
    Line.ofChars (m + n) cs = (Line.ofChars m cs).down n := by
  unfold Line.ofChars
  split
  · simp only [Line.down, List.map_map]
    rfl
  · rfl

theorem Line.ofCut_down (m n : Nat) (pieces : List (List Char)) :
    Line.ofCut (m + n) pieces = (Line.ofCut m pieces).map (Line.down n) := by
  induction pieces generalizing m with
  | nil => rfl
  | cons cs more ih => rw [ofCut, ofCut, List.map_cons, ofChars_down, Nat.add_right_comm, ih]

theorem Line.tokens_down (n : Nat) (line : Line) :
    (line.down n).tokens = line.tokens.map (Token.down n) := by
  cases line with
  | text content pos => rfl
  | directive words stop => rw [down, tokens, tokens, List.map_append, List.map_singleton]; rfl

section Append

variable (a b : String)

theorem Text.cutLines_toList_append :
    Text.cutLines (a ++ "\n" ++ b).toList =
      Text.cutLines a.toList ++ Text.cutLines b.toList := by
  simp [String.toList_append, Text.cutLines_append]

/-- The lines of a text below another one are its own, further down. -/
theorem Line.ofText_append : Line.ofText (a ++ "\n" ++ b) =
    Line.ofText a ++ (Line.ofText b).map (Line.down (Text.lines a).length) := by
  rw [ofText, Text.cutLines_toList_append, ofCut_append, ofCut_down, Text.lines, List.length_map]
  rfl

theorem Token.endOf_down (m n : Nat) (pieces : List (List Char)) :
    endOf (m + n) pieces = (endOf m pieces).down n := by
  fun_induction endOf m pieces with
  | case1 m | case2 m cs => rfl
  | case3 m cs more hne ih =>
    rw [endOf.eq_3 _ _ _ hne, Nat.add_right_comm]
    exact ih

theorem Token.endOf_append (x : List (List Char)) {y : List (List Char)} (hy : y ≠ []) (m : Nat) :
    endOf m (x ++ y) = endOf (m + x.length) y := by
  induction x generalizing m with
  | nil => rfl
  | cons cs more ih =>
    have hne : more ++ y = [] → False := fun h => hy (List.append_eq_nil_iff.1 h).2
    rw [List.cons_append, endOf.eq_3 _ _ _ hne, ih, List.length_cons, Nat.add_right_comm]
    rfl

/-- The tokens of a text below another one are its own, further down; the end of the template is
only behind both. -/
theorem Token.tokenize_append : tokenize (a ++ "\n" ++ b) =
    (tokenize a).dropLast ++ (tokenize b).map (Token.down (Text.lines a).length) := by
  have hend := endOf_append (Text.cutLines a.toList) (Text.cutLines_ne_nil b.toList) 0
  rw [endOf_down, ← List.length_map (f := String.ofList)] at hend
  unfold tokenize
  rw [Line.ofText_append, Text.cutLines_toList_append, hend, List.dropLast_concat, List.map_append,
    List.flatMap_append, List.append_assoc, List.flatMap_map, List.map_flatMap]
  simp only [Line.tokens_down]
  rfl

end Append

/-! ### Whole templates -/

theorem Draft.addAll_of_ofText {text : String} {bs : List Block} (h : Block.ofText text = .ok bs) :
    Draft.empty.addAll (Line.ofText text) = .ok ⟨.body bs.reverse, []⟩ := by
  unfold Block.ofText Block.ofLines at h
  split at h
  · next draft hd =>
    rw [hd]
    obtain ⟨place, frames⟩ := draft
    cases place with
    | body blocks =>
      cases frames with
      | nil =>
        cases h
        rw [List.reverse_reverse]
      | cons f outer => cases h
    | inSwitch subject s => cases h
    | inChoose s => cases h
  · cases h

/-- Behind a text that can be read, the blocks of another one are its own, further down. -/
theorem Block.ofText_append {a : String} {bs : List Block} (h : ofText a = .ok bs) (b : String) :
    Moved (SyntaxError.down (Text.lines a).length)
      (bs ++ downAll (Text.lines a).length ·) (ofText b) (ofText (a ++ "\n" ++ b)) := by
  have hempty : (⟨.body bs.reverse, []⟩ : Draft) =
      Draft.empty.below (Text.lines a).length bs.reverse := rfl
  have hlines := Draft.addAll_below (n := (Text.lines a).length) bs.reverse .empty (Line.ofText b)
  rw [ofText, ofText, Line.ofText_append, ofLines, ofLines,
    Draft.addAll_of_eq_ok (Draft.addAll_of_ofText h), hempty]
  generalize Draft.empty.addAll (Line.ofText b) = x at hlines ⊢
  generalize (Draft.empty.below _ bs.reverse).addAll _ = y at hlines ⊢
  cases hlines with
  | error e => exact .error e
  | ok draft =>
    have hfinish := Draft.finish_below (n := (Text.lines a).length) bs.reverse draft
    rw [List.reverse_reverse] at hfinish
    exact hfinish

namespace Template

section Concatenation

variable {a b : String} {first : Template} (h : ofText a = .ok first)

include h

theorem ofText_append_of_ok {second : Template} (hs : ofText b = .ok second) :
    ofText (a ++ "\n" ++ b) = .ok
      ⟨first.tokens.dropLast ++ second.tokens.map (Token.down (Text.lines a).length),
        first.blocks ++ Block.downAll (Text.lines a).length second.blocks⟩ := by
  obtain ⟨hfirst, htokens⟩ := eq_of_ofText h
  obtain ⟨hsecond, htokens'⟩ := eq_of_ofText hs
  have hboth := Block.ofText_append hfirst b
  rw [hsecond] at hboth
  generalize hy : Block.ofText (a ++ "\n" ++ b) = y at hboth
  cases hboth
  rw [ofText_of_blocks hy, Token.tokenize_append, htokens, htokens']

theorem ofText_append_of_error {e : Error} (he : ofText b = .error e) :
    ∃ fault pos, e = .grammar ⟨fault, pos⟩ ∧ ofText (a ++ "\n" ++ b) =
      .error (.grammar ⟨fault, pos.down (Text.lines a).length⟩) := by
  have hboth := Block.ofText_append (eq_of_ofText h).1 b
  cases hb : Block.ofText b with
  | ok bs =>
    rw [ofText_of_blocks hb] at he
    cases he
  | error s =>
    rw [ofText_eq_error hb] at he
    cases he
    rw [hb] at hboth
    generalize hy : Block.ofText (a ++ "\n" ++ b) = y at hboth
    cases hboth
    exact ⟨s.fault, s.pos, rfl, ofText_eq_error hy⟩

end Concatenation

/-- Where a text can be read as a template, another text below it can be read exactly when it can
be read alone. Its blocks then stand behind those of the first text, and all their positions are
further down by the number of lines of that text; so is the place of its error if it has one. -/
theorem ofText_concatenation {a : String} {first : Template} (h : ofText a = .ok first)
    (b : String) :
    ((∃ whole, ofText (a ++ "\n" ++ b) = .ok whole) ↔ ∃ second, ofText b = .ok second) ∧
    (∀ second, ofText b = .ok second → ofText (a ++ "\n" ++ b) = .ok
      ⟨first.tokens.dropLast ++ second.tokens.map (Token.down (Text.lines a).length),
        first.blocks ++ Block.downAll (Text.lines a).length second.blocks⟩) ∧
    ∀ e, ofText b = .error e → ∃ fault pos, e = .grammar ⟨fault, pos⟩ ∧
      ofText (a ++ "\n" ++ b) =
        .error (.grammar ⟨fault, pos.down (Text.lines a).length⟩) := by
  refine ⟨⟨?_, ?_⟩, fun second hs => ofText_append_of_ok h hs,
    fun e he => ofText_append_of_error h he⟩
  · rintro ⟨whole, hw⟩
    cases hb : ofText b with
    | ok second => exact ⟨second, rfl⟩
    | error e =>
      obtain ⟨fault, pos, -, hwhole⟩ := ofText_append_of_error h hb
      rw [hwhole] at hw
      cases hw
  · rintro ⟨second, hs⟩
    exact ⟨_, ofText_append_of_ok h hs⟩

/-- A check on the fourth line, and a closing directive there that nothing is open for. -/
theorem ofText_concatenation_condition :
    (ofText ("#if :a\n yes\n#fi" ++ "\n" ++ "#check :b throw 'm'")).map (·.blocks) = .ok
      [.condition (.operand ⟨.variable ⟨"a", []⟩, [], ⟨0, 4⟩⟩) [.text " yes" ⟨1, 0⟩] none ⟨0, 0⟩,
        .check (.operand ⟨.variable ⟨"b", []⟩, [], ⟨3, 7⟩⟩) "m" ⟨3, 0⟩] ∧
    ofText ("#if :a\n yes\n#fi" ++ "\n" ++ "#done") =
      .error (.grammar ⟨.unmatched (.directive .endLoop), ⟨3, 0⟩⟩) := by
  have hfirst : ofText "#if :a\n yes\n#fi" = .ok ⟨Token.tokenize "#if :a\n yes\n#fi",
      [.condition (.operand ⟨.variable ⟨"a", []⟩, [], ⟨0, 4⟩⟩) [.text " yes" ⟨1, 0⟩] none
        ⟨0, 0⟩]⟩ := ofText_of_blocks (by cbv)
  have hsecond : ofText "#check :b throw 'm'" = .ok ⟨Token.tokenize "#check :b throw 'm'",
      [.check (.operand ⟨.variable ⟨"b", []⟩, [], ⟨0, 7⟩⟩) "m" ⟨0, 0⟩]⟩ := ofText_of_blocks (by cbv)
  have herror : ofText "#done" = .error (.grammar ⟨.unmatched (.directive .endLoop), ⟨0, 0⟩⟩) :=
    ofText_eq_error (by cbv)
  have hlines : (Text.lines "#if :a\n yes\n#fi").length = 3 := by cbv
  constructor
  · rw [(ofText_concatenation hfirst _).2.1 _ hsecond, hlines]
    rfl
  · obtain ⟨fault, pos, he, hwhole⟩ := (ofText_concatenation hfirst _).2.2 _ herror
    cases he
    rw [hwhole, hlines]
    rfl

end Template

end LineTemplate
