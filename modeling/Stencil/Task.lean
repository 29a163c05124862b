import Stencil.Directive

namespace Stencil

/-- The namespaces of one pass, in the order of their declaration. A name may be declared again. -/
structure Task where
  namespaces : List Namespace := []
deriving DecidableEq, Repr

/-- An output that is declared several times in one namespace. -/
structure DuplicateOutput where
  namespaceName : String
  outputName : String
  occurrences : Nat
deriving DecidableEq, Repr

/-- One more occurrence of a key, which takes its place at its first occurrence. -/
def tally {κ : Type} [DecidableEq κ] (key : κ) : List (κ × Nat) → List (κ × Nat)
  | [] => [(key, 1)]
  | (counted, n) :: rest =>
    if counted = key then (counted, n + 1) :: rest else (counted, n) :: tally key rest

namespace Task

def push (task : Task) (ns : Namespace) : Task :=
  ⟨task.namespaces ++ [ns]⟩

def append (task other : Task) : Task :=
  ⟨task.namespaces ++ other.namespaces⟩

instance : Append Task := ⟨append⟩

/-- All directives in the order in which a pass takes them. -/
def declarations (task : Task) : List Declaration :=
  task.namespaces.flatMap Namespace.declarations

def directiveCount (task : Task) : Nat :=
  task.namespaces.foldr (fun ns count => ns.directives.length + count) 0

def isEmpty (task : Task) : Bool :=
  task.directiveCount == 0

def inputFiles (task : Task) (templateRoot : Path) : List Path :=
  Path.listing <| task.declarations.map (·.templateFile templateRoot)

def outputFiles (task : Task) (outputRoot : Path) : List Path :=
  Path.listing <| task.declarations.map (·.outputFile outputRoot)

/-- The outputs declared more than once, in the order of their first declarations. -/
def duplicateOutputs (task : Task) : List DuplicateOutput :=
  let counts := task.declarations.foldl
    (fun counts declaration => tally (declaration.namespaceName, declaration.directive.outputName) counts) []
  counts.filterMap fun ((namespaceName, outputName), occurrences) =>
    if occurrences > 1 then some ⟨namespaceName, outputName, occurrences⟩ else none

theorem declarations_append (task other : Task) :
    (task ++ other).declarations = task.declarations ++ other.declarations := by
  show (task.namespaces ++ other.namespaces).flatMap _ = _
  rw [List.flatMap_append]
  rfl

theorem length_declarations (task : Task) : task.declarations.length = task.directiveCount := by
  unfold declarations directiveCount
  induction task.namespaces with
  | nil => rfl
  | cons ns rest ih =>
    rw [List.flatMap_cons, List.length_append, ih, List.foldr_cons, ns.length_declarations]

end Stencil.Task
