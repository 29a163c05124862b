import Stencil.Task

namespace Stencil.Expansion

inductive State where
  | pending
  | written
  | aborted
deriving DecidableEq, Repr

/-- What became of one directive. -/
structure Entry where
  namespaceName : String
  output : Path
  state : State
deriving DecidableEq, Repr

/-- One entry for each directive of a task, in order. -/
structure Report where
  entries : List Entry := []
deriving DecidableEq, Repr

namespace Report

def pending (task : Task) (outputRoot : Path) : Report where
  entries := task.declarations.map fun declaration =>
    ⟨declaration.namespaceName, declaration.outputFile outputRoot, .pending⟩

def written (report : Report) : List Path :=
  (report.entries.filter (·.state == .written)).map (·.output)

def count (report : Report) (state : State) : Nat :=
  (report.entries.filter (·.state == state)).length

def isComplete (report : Report) : Bool :=
  report.entries.all (·.state == .written)

/-- Sets the state of an entry by position. A report may belong to a shorter task; positions
past its end are skipped. -/
def mark (report : Report) (index : Nat) (state : State) : Report where
  entries := report.entries.modify index fun entry => { entry with state := state }

theorem length_mark (report : Report) (index : Nat) (state : State) :
    (report.mark index state).entries.length = report.entries.length := by
  simp [mark]

theorem getElem?_mark (report : Report) (index other : Nat) (state : State) :
    (report.mark index state).entries[other]? =
      if index = other then report.entries[other]?.map ({ · with state := state })
      else report.entries[other]? := by
  simp [mark, List.getElem?_modify]
  split <;> simp_all

theorem length_pending (task : Task) (outputRoot : Path) :
    (pending task outputRoot).entries.length = task.directiveCount := by
  simp [pending, task.length_declarations]

end Stencil.Expansion.Report
