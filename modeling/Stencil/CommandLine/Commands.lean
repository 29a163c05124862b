import Stencil.CommandLine.Arguments
import Stencil.Expansion.Pass

namespace Stencil.CommandLine

def unlines (lines : List String) : String :=
  String.join (lines.map (· ++ "\n"))

/-- Printing line by line to a writer that takes every line; one that fails is left out. What goes wrong
otherwise stops the printing, and what was printed before stays printed. -/
abbrev Printing := ExceptT UnknownKind (StateM String)

def printLine (line : String) : Printing Unit :=
  modify (· ++ line ++ "\n")

/-- The descriptors as text, one after the other with an empty line between them, or as data.
A kind that is asked for stands alone; all kinds together are a list. The only thing that can go wrong
here is the name of the kind, as the writer takes every line. -/
def describe (kind : Option String) (json : Bool) : Printing Unit := do
  let selected ←
    match kind with
    | some name => do pure [Descriptor.ofKind (← Kind.parse name)]
    | none => pure Registry.all
  if json then
    match kind, selected with
    | some _, [descriptor] => printLine descriptor.json.pretty
    | _, _ => printLine (Text.Json.list (selected.map (·.json))).pretty
  else
    selected.zipIdx.forM fun (descriptor, i) => do
      if 0 < i then printLine ""
      descriptor.lines.forM printLine

/-- What is printed as the listings of a plan: the inputs, the outputs, or without a choice both. It is
the whole text, as the writer takes every line. -/
def files (roots : Roots) (inputs outputs : Bool) : String :=
  let task := roots.plan.task
  let both := !inputs && !outputs
  unlines <| List.map Path.spelling <|
    (if inputs || both then task.inputFiles roots.templates else []) ++
    (if outputs || both then task.outputFiles roots.output else [])

/-- A pass over a plan, by a new expander; one that goes through tells its end once more. -/
def generate {τ : Type} {links : Linkage} (engine : Engine τ) (files : FileSystem links) (roots : Roots) :
    Expansion.Pass τ links :=
  let pass := Expansion.expand engine ⟨roots.templates, roots.output, {}⟩ files roots.plan.task
  match pass.failure with
  | none => pass.tell (.generated (pass.report.count .written) roots.output)
  | some _ => pass

inductive CommandError where
  | unknownKind (unknown : UnknownKind)
  | expansion (plan : Plan) (cause : Expansion.Error)
deriving DecidableEq, Repr

namespace CommandError

/-- What was being done when an error arose underneath. -/
def context? : CommandError → Option String
  | unknownKind _ => none
  | expansion plan _ => some ("failed to expand plan " ++ plan.title)

def message : CommandError → String
  | unknownKind unknown => unknown.message
  | expansion plan cause => "failed to expand plan " ++ plan.title ++ ": " ++ cause.message

end CommandError

/-- What a command prints or why it failed, with the file tree that it leaves. -/
structure Outcome (links : Linkage) where
  printed : Except CommandError String
  files : FileSystem links
  report : Option Expansion.Report := none
  log : List Expansion.Event := []

def Command.roots? : Command → Option Roots
  | generate roots | files roots _ _ => some roots
  | describe _ _ => none

def Command.run {τ : Type} {links : Linkage} (engine : Engine τ) (tree : FileSystem links) :
    Command → Outcome links
  | .describe kind json =>
    match CommandLine.describe kind json "" with
    | (.ok (), text) => ⟨.ok text, tree, none, []⟩
    | (.error unknown, _) => ⟨.error (.unknownKind unknown), tree, none, []⟩
  | .files roots inputs outputs => ⟨.ok (CommandLine.files roots inputs outputs), tree, none, []⟩
  | .generate roots =>
    let pass := CommandLine.generate engine tree roots
    match pass.failure with
    | none => ⟨.ok "", pass.files, some pass.report, pass.log⟩
    | some cause => ⟨.error (.expansion roots.plan cause), pass.files, none, pass.log⟩

end Stencil.CommandLine
