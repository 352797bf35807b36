/-!
# Directives

The words that a directive line may begin with. Some of them open a block, some stand between
its parts, and some close it; `check` and `define` stand alone.
-/

namespace LineTemplate

inductive Directive where
  /-- Written `#if`. -/
  | condition
  /-- Written `#else`. -/
  | otherwise
  /-- Written `#fi`. -/
  | endCondition
  | switch
  | case
  | default
  /-- Written `#break`. -/
  | endBranch
  /-- Written `#end`. -/
  | endSelection
  | choose
  | when
  /-- Written `#for`. -/
  | loop
  /-- Written `#done`. -/
  | endLoop
  | guard
  /-- Written `#throw`. -/
  | endGuard
  | check
  /-- Written `#var`. -/
  | define
  deriving DecidableEq, Repr

namespace Directive

/-- The word without its sigil. -/
def word : Directive → String
  | .condition => "if"
  | .otherwise => "else"
  | .endCondition => "fi"
  | .switch => "switch"
  | .case => "case"
  | .default => "default"
  | .endBranch => "break"
  | .endSelection => "end"
  | .choose => "choose"
  | .when => "when"
  | .loop => "for"
  | .endLoop => "done"
  | .guard => "guard"
  | .endGuard => "throw"
  | .check => "check"
  | .define => "var"

def text (d : Directive) : String := "#" ++ d.word

def all : List Directive :=
  [.condition, .otherwise, .endCondition, .switch, .case, .default, .endBranch, .endSelection,
    .choose, .when, .loop, .endLoop, .guard, .endGuard, .check, .define]

def ofWord? (w : String) : Option Directive := all.find? (·.word = w)

theorem mem_all (d : Directive) : d ∈ all := by cases d <;> simp [all]

theorem ofWord?_word (d : Directive) : ofWord? d.word = some d := by cases d <;> rfl

theorem word_of_ofWord? {w : String} {d : Directive} (h : ofWord? w = some d) : d.word = w := by
  have := List.find?_some h
  simpa using this

theorem text_inj {c d : Directive} : c.text = d.text ↔ c = d := by
  constructor
  · intro h
    have hw : c.word = d.word := (String.append_right_inj "#").1 h
    rw [← Option.some.injEq, ← ofWord?_word c, hw, ofWord?_word]
  · exact congrArg text

end Directive

end LineTemplate
