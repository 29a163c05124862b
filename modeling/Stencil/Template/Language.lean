import Stencil.Template.Context
import Stencil.Template.Evaluator
import Stencil.Template.Parser

namespace Stencil.Template

/-- The state in which a template begins to be rendered against a model. -/
def State.initial (template : Template) (model : Model) : State :=
  State.addBlocks
    { frames := [{ base := .model (Value.ofEntries model.properties) }]
      template := template.name
      loaded := [template.name] }
    template

/-- The text of a template. Every body that is run inside of another one adds to the depth, so
the nesting of bodies is bounded by the depth's limit. -/
def render (template : Template) (model : Model) : Rendering Template (Except Error String) :=
  ((Bodies.upTo (State.maxDepth + 10)).template template (State.initial template model)).bind fun
    | .ok ((), state) => .done (.ok state.output)
    | .error error => .done (.error error)

def engine : Engine Template where
  compile := parse
  render := render

end Stencil.Template
