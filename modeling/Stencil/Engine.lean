import Stencil.Model
import Stencil.Template.Error

namespace Stencil

/-- What becomes of the white space around the tags of a template. -/
structure Whitespace where
  trimBlocks : Bool := true
  lstripBlocks : Bool := true
  keepTrailingNewline : Bool := true
deriving DecidableEq, Repr

/-- A computation that stops to ask for templates by name and goes on with what it is given. -/
inductive Rendering (τ α : Type) where
  | done (result : α)
  | load (name : String) (resume : Except Template.Error τ → Rendering τ α)

namespace Rendering

variable {τ α β : Type}

def bind : Rendering τ α → (α → Rendering τ β) → Rendering τ β
  | done result, next => next result
  | load name resume, next => load name fun answer => (resume answer).bind next

end Rendering

/-- What the expansion of directives needs to know of a template language: how a source is
compiled, and which other templates a rendering asks for on the way to its result. -/
structure Engine (τ : Type) where
  compile : Whitespace → (name source : String) → Except Template.Error τ
  render : τ → Model → Rendering τ (Except Template.Error String)

end Stencil
