import Stencil.Task
import Stencil.Registry

namespace Stencil.Catalog

/-- Sources named alike, one for each kind. The kind's name stands between two texts; in the name
of the template that they share, the word `Primitive` stands there. -/
structure Family where
  before : String
  after : String
deriving DecidableEq, Repr

namespace Family

def outputName (family : Family) (kind : Kind) : String :=
  family.before ++ kind.name ++ family.after

def templateName (family : Family) : String :=
  family.before ++ "Primitive" ++ family.after

def directive (family : Family) (kind : Kind) (model : Model) : Directive :=
  ⟨family.outputName kind, model, family.templateName⟩

end Family

/-- The members of some families for one kind, all with the same model. -/
def membersWith (model : Kind → Model) (families : List Family) (kind : Kind) : List Directive :=
  families.map fun family => family.directive kind (model kind)

def members : List Family → Kind → List Directive :=
  membersWith Model.single

def kinds : List Kind :=
  Registry.all.map (·.kind)

def kindsWithoutBoolean : List Kind :=
  Registry.allWithoutBoolean.map (·.kind)

end Stencil.Catalog
