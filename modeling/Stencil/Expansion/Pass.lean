import Stencil.Expansion.Event
import Stencil.Expansion.Expander
import Stencil.Expansion.Report

namespace Stencil.Expansion

variable {τ : Type} {links : Linkage}

/-- Creates directories, naming the path that was asked for in the error. -/
def createDirectories (files : FileSystem links) (path : Path) : Except Error Unit × FileSystem links :=
  match files.createDirectories path with
  | (.ok (), files) => (.ok (), files)
  | (.error fault, files) => (.error (.createDirectory path fault.message), files)

/-- Puts a rendered text in its place, creating the directories on the way. -/
def store (files : FileSystem links) (output : Path) (text : String) :
    Except Error Unit × FileSystem links :=
  let (created, files) :=
    match output.parent? with
    | some directory => createDirectories files directory
    | none => (.ok (), files)
  match created with
  | .error cause => (.error cause, files)
  | .ok () =>
    match files.write output (.text text) with
    | .ok files => (.ok (), files)
    | .error fault => (.error (.write output fault.message), files)

/-- Expands one directive: its name is checked, its text rendered, and only then is anything
written. -/
def Expander.expandDirective (expander : Expander τ) (files : FileSystem links) (declaration : Declaration) :
    Except Error Path × Expander τ × FileSystem links :=
  if declaration.isContained then
    match expander.render files declaration with
    | (.error cause, expander) => (.error cause, expander, files)
    | (.ok text, expander) =>
      let output := declaration.outputFile expander.config.outputRoot
      match store files output text with
      | (.ok (), files) => (.ok output, expander, files)
      | (.error cause, files) => (.error cause, expander, files)
  else
    (.error (.invalidOutputName declaration.namespaceName declaration.directive.outputName), expander, files)

/-- An expander at work on a file tree, with its report, what it told, and why it stopped early. -/
structure Pass (τ : Type) (links : Linkage) where
  expander : Expander τ
  files : FileSystem links
  report : Report
  log : List Event := []
  failure : Option Error := none

namespace Pass

def tell (pass : Pass τ links) (event : Event) : Pass τ links :=
  { pass with log := pass.log ++ [event] }

/-- Expands directives in order, counting on from a position; the first error ends the pass. -/
def expandFrom (pass : Pass τ links) (index : Nat) : List Declaration → Pass τ links × Nat
  | [] => (pass, index)
  | declaration :: rest =>
    match pass.expander.expandDirective pass.files declaration with
    | (.ok path, expander, files) =>
      (Pass.mk expander files (pass.report.mark index .written)
        (pass.log ++ [.wrote path]) none).expandFrom (index + 1) rest
    | (.error cause, expander, files) =>
      (⟨expander, files, pass.report.mark index .aborted,
        pass.log ++ [.aborted declaration cause], some cause⟩, index)

/-- Expands namespaces in order. The position runs on from one namespace to the next. -/
def expandNamespaces (pass : Pass τ links) (index : Nat) : List Namespace → Pass τ links
  | [] => pass.tell (.completed index)
  | ns :: rest =>
    match pass.expandFrom index ns.declarations with
    | (pass, index) =>
      match pass.failure with
      | none => pass.expandNamespaces index rest
      | some _ => pass

def createRoots (files : FileSystem links) (config : Config) : Except Error Unit × FileSystem links :=
  match createDirectories files config.templateRoot with
  | (.ok (), files) => createDirectories files config.outputRoot
  | (.error cause, files) => (.error cause, files)

end Pass

/-- Everything that a successful pass writes comes from templates as they are when it starts:
what was loaded earlier is forgotten. The report may be one that earlier passes have marked. -/
def Expander.expandInto (expander : Expander τ) (files : FileSystem links) (task : Task) (report : Report) :
    Pass τ links :=
  let config := expander.config
  match Pass.createRoots files config with
  | (.error cause, files) => ⟨expander.clear, files, report, [], some cause⟩
  | (.ok (), files) =>
    let log := task.duplicateOutputs.map Event.duplicate ++
      [.started task.directiveCount task.namespaces.length config.outputRoot]
    (Pass.mk expander.clear files report log none).expandNamespaces 0 task.namespaces

/-- A pass with a report of its own. -/
def Expander.expand (expander : Expander τ) (files : FileSystem links) (task : Task) : Pass τ links :=
  expander.expandInto files task (.pending task expander.config.outputRoot)

/-- The report of a pass that went through, or the error that ended it. -/
def Pass.result (pass : Pass τ links) : Except Error Report :=
  match pass.failure with
  | none => .ok pass.report
  | some cause => .error cause

/-- A pass by a new expander. -/
def expand (engine : Engine τ) (config : Config) (files : FileSystem links) (task : Task) : Pass τ links :=
  Expander.expand ⟨engine, config, []⟩ files task

end Stencil.Expansion
