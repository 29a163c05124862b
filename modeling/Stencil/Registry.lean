import Stencil.Model

namespace Stencil.Registry

/-- The descriptors of all kinds, in index order. -/
def all : List Descriptor :=
  Kind.all.map Descriptor.ofKind

def allWithoutBoolean : List Descriptor :=
  all.filter fun descriptor => descriptor.kind != .boolean

def specialized : List Descriptor :=
  all.filter (·.isSpecialized)

/-- All ordered pairs of kinds from a list, the first component changing slowest. -/
def cross (kinds : List Kind) : List (Kind × Kind) :=
  kinds.flatMap fun first => kinds.map fun second => (first, second)

def specializedPairs : List (Kind × Kind) :=
  cross (specialized.map (·.kind))

/-- Pairs of booleans have no sources, whatever list the pairs come from. -/
def withoutBooleanPair (pairs : List (Kind × Kind)) : List (Kind × Kind) :=
  pairs.filter (· != (.boolean, .boolean))

def specializedAndBooleanPairs : List (Kind × Kind) :=
  withoutBooleanPair (cross (.boolean :: specialized.map (·.kind)))

def allPairs : List (Kind × Kind) :=
  withoutBooleanPair (cross Kind.all)

end Stencil.Registry
