import LineTemplate.Proofs.Visits

/-!
# The log of a rendering

What a rendering does to the names of a template, in the order in which it does it: it enters a
loop, under a number, or it executes a definition, in some iteration of the innermost loop around
or outside of loops. `Task.log` has the events of a task from its beginning in some state up to
its end, or up to the place where it fails.
-/

namespace LineTemplate

inductive Event where
  /-- The loop with this number is entered, also when no iteration of it will run. -/
  | enter (occurrence : Nat)
  /-- The name is bound to the value, in this iteration of the loop with this number. -/
  | defineInside (name : String) (occurrence iteration : Nat) (v : Value)
  | defineOutside (name : String) (v : Value)

namespace Event

def entered? : Event → Option Nat
  | .enter occurrence => some occurrence
  | _ => none

def recorded? : Event → Option (LoopKey × Value)
  | .defineInside name occurrence iteration v => some (⟨name, occurrence, iteration⟩, v)
  | _ => none

def defined? : Event → Option (String × Value)
  | .defineOutside name v => some (name, v)
  | _ => none

/-- The definition in the innermost of these frames. -/
def define (name : String) (v : Value) : List Iteration → Event
  | [] => .defineOutside name v
  | f :: _ => .defineInside name f.occurrence f.number v

end Event

namespace Engine

variable (g : Engine)

/-- The events of the iterations from `number` on, where `events` has those of the body. -/
def iterateLog (body : State → Except Error (String × State)) (events : State → List Event)
    (l : Loop) (occurrence : Nat) : Nat → List Value → State → List Event
  | _, [], _ => []
  | number, item :: more, s =>
    let s := { s with scope := s.scope.push (iteration l occurrence number item) }
    events s ++ match body s with
      | .ok (_, t) =>
        iterateLog body events l occurrence (number + 1) more { t with scope := t.scope.pop }
      | .error _ => []

mutual

def blockLog : Block → State → List Event
  | .text _ _, _ => []
  | .condition test body otherwise _, s =>
    match g.holds test s with
    | .ok (true, t) => blocksLog body t
    | .ok (false, t) => optionalLog otherwise t
    | .error _ => []
  | .switch subject cases default _, s =>
    match g.operand s.scope subject with
    | .ok v => casesLog v cases s ++ match g.selected v cases s with
      | .ok none => optionalLog default s
      | _ => []
    | .error _ => []
  | .choose whens default _, s =>
    whensLog whens s ++ match g.chosen whens s with
      | .ok (none, t) => optionalLog default t
      | _ => []
  | .loop header body _, s =>
    let t := { s with loops := s.loops + 1 }
    .enter s.loops :: match checkLoop t header, g.operand s.scope header.source with
      | .ok _, .ok v => iterateLog (fun s => joinLines (g.blocks body s)) (blocksLog body) header
          s.loops 0 v.items t
      | _, _ => []
  | .guard test body _ _, s =>
    match g.holds test s with
    | .ok (true, t) => blocksLog body t
    | _ => []
  | .check _ _ _, _ => []
  | .define name value _, s =>
    match checkFree s name, g.evaluate value s with
    | .ok _, .ok (v, _) => [.define name.name v s.scope.frames]
    | _, _ => []

def blocksLog : List Block → State → List Event
  | [], _ => []
  | b :: more, s => blockLog b s ++ match g.block b s with
    | .ok (_, t) => blocksLog more t
    | .error _ => []

def optionalLog : Option (List Block) → State → List Event
  | none, _ => []
  | some body, s => blocksLog body s

def casesLog (v : Value) : List (Branch (List Literal) Block) → State → List Event
  | [], _ => []
  | ⟨values, body, _⟩ :: more, s =>
    match Literal.anyEq v values with
    | .ok true => blocksLog body s
    | .ok false => casesLog v more s
    | .error _ => []

def whensLog : List (Branch Expr Block) → State → List Event
  | [], _ => []
  | ⟨test, body, _⟩ :: more, s =>
    match g.holds test s with
    | .ok (true, t) => blocksLog body t
    | .ok (false, t) => whensLog more t
    | .error _ => []

end

end Engine

def Task.log (g : Engine) (s : State) : Task → List Event
  | .block b => g.blockLog b s
  | .blocks bs => g.blocksLog bs s
  | .optional body => g.optionalLog body s
  | .cases v branches => g.casesLog v branches s
  | .whens branches => g.whensLog branches s
  | .iterations body header occurrence number items =>
    Engine.iterateLog (fun s => Engine.joinLines (g.blocks body s)) (g.blocksLog body) header
      occurrence number items s

end LineTemplate
