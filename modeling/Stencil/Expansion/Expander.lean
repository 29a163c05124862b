import Stencil.Directive
import Stencil.Expansion.Config
import Stencil.Expansion.Error
import Stencil.FileSystem

namespace Stencil.Expansion

variable {links : Linkage}

/-- Reads the source of a template below a root. A name with a `..` step is not found, and so is
one that leads nowhere; other faults are errors of their own. -/
def loadSource (files : FileSystem links) (root : Path) (name : String) : Except Template.Error String :=
  if (Text.pieces '/' name).contains ".." then .error (.ofKind .templateNotFound)
  else
    match files.readText (root.join ⟨name⟩) with
    | .ok source => .ok source
    | .error .notFound => .error (.ofKind .templateNotFound)
    | .error _ => .error (.ofKind .invalidOperation)

/-- An engine with its configuration and the templates loaded so far. -/
structure Expander (τ : Type) where
  engine : Engine τ
  config : Config
  cache : Entries τ := []

namespace Expander

variable {τ α : Type}

def clear (expander : Expander τ) : Expander τ :=
  { expander with cache := [] }

def load (expander : Expander τ) (files : FileSystem links) (name : String) : Except Template.Error τ :=
  match loadSource files expander.config.templateRoot name with
  | .ok source => expander.engine.compile expander.config.whitespace name source
  | .error cause => .error cause

/-- A template by name. One that loads and compiles is kept; failures are not. -/
def fetch (expander : Expander τ) (files : FileSystem links) (name : String) :
    Except Template.Error τ × Expander τ :=
  match expander.cache.find? name with
  | some template => (.ok template, expander)
  | none =>
    match expander.load files name with
    | .ok template => (.ok template, { expander with cache := expander.cache.insert name template })
    | .error cause => (.error cause, expander)

/-- Answers the requests of a rendering one after the other. -/
def run (files : FileSystem links) : Rendering τ α → Expander τ → α × Expander τ
  | .done result, expander => (result, expander)
  | .load name resume, expander =>
    let (answer, expander) := expander.fetch files name
    run files (resume answer) expander

/-- The text of a directive. Its template file has to exist, whatever was loaded before. -/
def render (expander : Expander τ) (files : FileSystem links) (declaration : Declaration) :
    Except Error String × Expander τ :=
  let templateFile := declaration.templateFile expander.config.templateRoot
  if files.isFile templateFile then
    let key := declaration.templateKey
    match expander.fetch files key with
    | (.error cause, expander) =>
      if cause.kind = .templateNotFound then (.error (.templateNotFound templateFile), expander)
      else (.error (.ofTemplate key cause), expander)
    | (.ok template, expander) =>
      match expander.run files (expander.engine.render template declaration.directive.model) with
      | (.ok text, expander) => (.ok text, expander)
      | (.error cause, expander) => (.error (.ofTemplate key cause), expander)
  else (.error (.templateNotFound templateFile), expander)

end Stencil.Expansion.Expander
