import LineTemplate.Block.Draft
import LineTemplate.Outline
import LineTemplate.Rendering

/-!
# Templates

A text that has been read once can be rendered any number of times. Reading fails only with
errors of the template itself, and everything that can be read has an outline.
-/

namespace LineTemplate

structure Template where
  tokens : List Token
  blocks : List Block

namespace Template

def ofText (text : String) : Except Error Template :=
  match Block.ofText text with
  | .ok blocks => .ok ⟨Token.tokenize text, blocks⟩
  | .error e => .error (.grammar e)

theorem ofText_of_blocks {text : String} {bs : List Block} (h : Block.ofText text = .ok bs) :
    ofText text = .ok ⟨Token.tokenize text, bs⟩ := by
  simp only [ofText, h]

theorem ofText_eq_error {text : String} {e : SyntaxError} (h : Block.ofText text = .error e) :
    ofText text = .error (.grammar e) := by
  simp only [ofText, h]

theorem eq_of_ofText {text : String} {t : Template} (h : ofText text = .ok t) :
    Block.ofText text = .ok t.blocks ∧ t.tokens = Token.tokenize text := by
  unfold ofText at h
  split at h
  · next bs hbs =>
    cases h
    exact ⟨hbs, rfl⟩
  · cases h

end Template

namespace Outline

def ofText (text : String) : Except Error Outline := do
  let t ← Template.ofText text
  return ofBlocks t.blocks

end Outline

namespace Engine

def render (g : Engine) (t : Template) (context : Fields Value) : Except Error Rendering :=
  g.renderBlocks t.blocks context

/-- What a text becomes when it is read as a template and rendered against the data. -/
def evaluateText (g : Engine) (text : String) (context : Fields Value) : Except Error String := do
  let t ← Template.ofText text
  let r ← g.render t context
  return r.output

end Engine

end LineTemplate
