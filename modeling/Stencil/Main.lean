import Stencil.CommandLine.Commands
import Stencil.Template.Language

namespace Stencil.CommandLine

/-- A directory on disk, as a tree of names and contents. Links on disk are read as what they lead
to. -/
partial def readDirectory (directory : IO.FS.DirEntry) : IO (Node .linked) := do
  let mut children : List (String × Node .linked) := []
  for entry in ← directory.path.readDir do
    let child ←
      if ← entry.path.isDir then readDirectory entry
      else pure (.file (.ofBytes (← IO.FS.readBinFile entry.path)))
    children := Entries.insert entry.fileName child children
  return .directory children

/-- The tree with what a path holds on disk. -/
def readInto (files : FileSystem) (path : Path) : IO FileSystem := do
  let entry : IO.FS.DirEntry := ⟨path.spelling, ""⟩
  if !(← entry.root.pathExists) then return files
  let node ←
    if ← entry.root.isDir then readDirectory entry
    else pure (.file (.ofBytes (← IO.FS.readBinFile entry.root)))
  let files := (files.createDirectories path).2
  match files.resolve path with
  | .ok location => return files.put location node
  | .error _ => return files

/-- Brings the disk up to date with a directory of the tree. -/
def writeBack (before after : FileSystem) (path : Path) : IO Unit := do
  if after.isDirectory path then IO.FS.createDirAll path.spelling
  for (file, content) in after.filesBelow path do
    match content, before.readText file with
    | .binary _, _ => pure ()
    | .text value, .ok held => if value != held then IO.FS.writeFile file.spelling value
    | .text value, .error _ =>
      if let some directory := file.parent? then IO.FS.createDirAll directory.spelling
      IO.FS.writeFile file.spelling value

def readRoots (roots : Roots) : IO FileSystem := do
  let here := (← IO.currentDir).toString
  let names := (Text.pieces '/' here).filter (· != "")
  let files : FileSystem := { workingDirectory := names }
  let files := (files.createDirectories ⟨here⟩).2
  readInto (← readInto files roots.templates) roots.output

def usage : String :=
  "usage: stencil [-v] generate --templates DIR --output DIR [--plan PLAN]\n" ++
  "       stencil [-v] files --templates DIR --output DIR [--plan PLAN] [--inputs | --outputs]\n" ++
  "       stencil [-v] describe [KIND] [--json]\n"

def execute (invocation : Invocation) : IO UInt32 := do
  let before ←
    match invocation.command with
    | .generate roots => readRoots roots
    | _ => pure {}
  let outcome := invocation.command.run Template.engine before
  for event in outcome.log do
    if invocation.verbose || event.level != .debug then
      IO.eprintln (event.level.label ++ " " ++ event.text Expansion.Error.message)
  if let .generate roots := invocation.command then
    writeBack before outcome.files roots.templates
    writeBack before outcome.files roots.output
  match outcome.printed with
  | .ok text => IO.print text; return 0
  | .error error => IO.eprintln ("error: " ++ error.message); return 1

def run (arguments : List String) : IO UInt32 := do
  let environment : Environment :=
    ⟨← IO.getEnv Environment.templatesVariable, ← IO.getEnv Environment.outputVariable⟩
  match parse environment arguments with
  | .ok invocation => execute invocation
  | .error error =>
    if error.exitCode = 0 then IO.print usage else IO.eprint usage
    return UInt32.ofNat error.exitCode

end Stencil.CommandLine

def main (arguments : List String) : IO UInt32 :=
  Stencil.CommandLine.run arguments
