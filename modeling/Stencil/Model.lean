import Stencil.Property

namespace Stencil

/-- A model has one descriptor, or two numbered ones. -/
inductive Shape where
  | single (descriptor : Descriptor)
  | pair (first second : Descriptor)
deriving DecidableEq, Repr

namespace Shape

def isHomogeneous : Shape → Bool
  | single _ => true
  | pair first second => first.kind == second.kind

/-- The keys of a pair are those of its descriptors, numbered `1` and `2`. -/
def properties : Shape → Entries Property
  | single descriptor => descriptor.properties ""
  | pair first second => (first.properties "1").insertAll (second.properties "2")

end Shape

/-- What a template is rendered against. Extra keys hide the derived ones. -/
structure Model where
  shape : Shape
  extras : Entries Property := []
deriving DecidableEq, Repr

namespace Model

def single (kind : Kind) : Model where
  shape := .single kind

def pair (first second : Kind) : Model where
  shape := .pair first second

/-- Adds an extra key, or replaces its value. -/
def insert (model : Model) (key : String) (value : Property) : Model where
  shape := model.shape
  extras := model.extras.insert key value

def insertText (model : Model) (key value : String) : Model :=
  model.insert key (.text value)

def properties (model : Model) : Entries Property :=
  model.shape.properties.insertAll model.extras

end Stencil.Model
