import Stencil.Property
import Stencil.Template.Value

namespace Stencil.Template.Value

mutual
/-- A property as a value, given the values that stand for descriptors. A null is undefined and
not none, so that printing it is an error. -/
def ofPropertyWith (descriptor : Kind → Value) : Property → Value
  | .text value => .text value
  | .flag value => .flag value
  | .null => .undefined false
  | .map entries => .map (ofEntriesWith descriptor entries)
  | .descriptor kind => descriptor kind
  | .helper called => .helper called

def ofEntriesWith (descriptor : Kind → Value) : List (String × Property) → List (Value × Value)
  | [] => []
  | (key, property) :: rest =>
    (.text key, ofPropertyWith descriptor property) :: ofEntriesWith descriptor rest
end

/-- A descriptor whose kind has no bits, so that no other descriptor is found in it. -/
def ofPlainDescriptor (kind : Kind) : Value :=
  .map (ofEntriesWith (fun _ => .undefined false) ((Descriptor.ofKind kind).properties ""))

/-- All properties of a kind; the only descriptor in it is that of the kind's bits. -/
def ofDescriptor (kind : Kind) : Value :=
  .map (ofEntriesWith ofPlainDescriptor ((Descriptor.ofKind kind).properties ""))

def ofProperty : Property → Value :=
  ofPropertyWith ofDescriptor

def ofEntries : List (String × Property) → List (Value × Value) :=
  ofEntriesWith ofDescriptor

/-- Descriptors unfold at every depth: inside of a descriptor too, each property has the value
that it has outside. -/
theorem ofDescriptor_eq (kind : Kind) :
    ofDescriptor kind = .map (ofEntries ((Descriptor.ofKind kind).properties "")) := by
  cases kind <;> rfl

end Stencil.Template.Value
