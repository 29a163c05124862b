import Stencil.Catalog.Base
import Stencil.Catalog.Collections

namespace Stencil

/-- A part of the catalogue that can be asked for by name. -/
inductive Plan where
  | base
  | collectionPrimitive
  | all
deriving DecidableEq, Repr

namespace Plan

def parse? : String → Option Plan
  | "base" => some base
  | "collection-primitive" => some collectionPrimitive
  | "all" => some all
  | _ => none

/-- The name by which messages call a plan. -/
def title : Plan → String
  | base => "Base"
  | collectionPrimitive => "CollectionPrimitive"
  | all => "All"

def task : Plan → Task
  | base => Catalog.base
  | collectionPrimitive => Catalog.collectionPrimitive
  | all => Catalog.base ++ Catalog.collectionPrimitive

end Stencil.Plan
