import Stencil.Proofs.DirectiveSteps

namespace Stencil.Expansion

variable {τ : Type} {links : Linkage}

/-- What an expander can be asked for. The files are those that it finds at the time. -/
inductive Request (links : Linkage) where
  | render (files : FileSystem links) (declaration : Declaration)
  | expand (files : FileSystem links) (task : Task)
  | expandInto (files : FileSystem links) (task : Task) (report : Report)

namespace Expander

variable {expander other : Expander τ}

/-- The expander as it is left by a request, whether that succeeds or fails. -/
def after (expander : Expander τ) : Request links → Expander τ
  | .render files declaration => (expander.render files declaration).2
  | .expand files task => (expander.expand files task).expander
  | .expandInto files task report => (expander.expandInto files task report).expander

theorem expandInto_alike (expander : Expander τ) (files : FileSystem links) (task : Task)
    (report : Report) : expander.Alike (expander.expandInto files task report).expander := by
  have course := expander.course files task report
  generalize expander.expandInto files task report = pass at course
  have cleared : expander.Alike expander.clear := ⟨rfl, rfl⟩
  cases course with
  | blocked roots => exact cleared
  | finished roots reach => exact cleared.trans reach.alike
  | @stopped ready done declaration rest current tree cause after left log roots split reach fails =>
    have last := current.expandDirective_alike tree declaration
    rw [fails] at last
    exact (cleared.trans reach.alike).trans last

theorem after_alike (expander : Expander τ) (request : Request links) :
    expander.Alike (expander.after request) := by
  cases request with
  | render files declaration => exact expander.render_alike files declaration
  | expand files task => exact expander.expandInto_alike files task _
  | expandInto files task report => exact expander.expandInto_alike files task report

/-- Nothing but what is loaded is remembered from one request to the next. -/
theorem history_alike (expander : Expander τ) (history : List (Request links)) :
    expander.Alike (history.foldl after expander) := by
  induction history generalizing expander with
  | nil => exact ⟨rfl, rfl⟩
  | cons request rest ih => exact (expander.after_alike request).trans (ih _)

theorem Alike.clear (alike : expander.Alike other) : other.clear = expander.clear := by
  unfold Expander.clear
  rw [alike.engine, alike.config]

/-- What is loaded when a pass starts is forgotten before anything is asked for. -/
theorem Alike.expandInto (alike : expander.Alike other) (files : FileSystem links) (task : Task)
    (report : Report) :
    other.expandInto files task report = expander.expandInto files task report := by
  unfold Expander.expandInto
  rw [alike.clear, alike.config]

theorem Alike.expand (alike : expander.Alike other) (files : FileSystem links) (task : Task) :
    other.expand files task = expander.expand files task := by
  unfold Expander.expand
  rw [alike.expandInto, alike.config]

/-- A pass by an expander that has been in use, with whatever files and whatever success, is the pass
of a new one from the same files: it has the same result and report, tells the same, and leaves the
same files and the same templates loaded. -/
theorem expand_after_history (engine : Engine τ) (config : Config) (history : List (Request links))
    (files : FileSystem links) (task : Task) :
    (history.foldl after ⟨engine, config, []⟩).expand files task =
      Expansion.expand engine config files task := by
  exact (history_alike ⟨engine, config, []⟩ history).expand files task

end Expander

end Stencil.Expansion
