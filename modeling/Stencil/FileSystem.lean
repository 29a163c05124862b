import Stencil.Node
import Stencil.Path

namespace Stencil

/-- Why a path could not be used. -/
inductive AccessError where
  | notFound
  | notADirectory
  | isADirectory
  | alreadyExists
  | tooManyLinks
  | nameTooLong
  | invalidName
  | invalidText
deriving DecidableEq, Repr

def AccessError.message : AccessError → String
  | notFound => "no such file or directory"
  | notADirectory => "not a directory"
  | isADirectory => "is a directory"
  | alreadyExists => "file exists"
  | tooManyLinks => "too many levels of symbolic links"
  | nameTooLong => "file name too long"
  | invalidName => "file name contains a NUL character"
  | invalidText => "content is not valid text"

/-- The tree that a process is started in, apart from all files. Where there are links, two of them
lead it to its working directory, one as a process and one as a thread. -/
def Node.ofProcess : (links : Linkage) → Location → Node links
  | .linkFree, _ => .empty
  | .linked, workingDirectory =>
    let here : Node .linked := .link rfl ⟨"/" ++ "/".intercalate workingDirectory⟩
    .directory [("proc", .directory
      [("self", .directory [("cwd", here)]), ("thread-self", .directory [("cwd", here)])])]

/-- A tree of files, and the directory from which relative paths start. All of it may be read and
changed, and there is room for all that is written: permissions and space are left out, and so are files
that stand in several places otherwise than by symbolic links. -/
structure FileSystem (links : Linkage := .linked) where
  workingDirectory : Location := []
  root : Node links := .ofProcess links workingDirectory

namespace FileSystem

variable {links : Linkage}

/-- Names of more bytes are refused by every directory. -/
def maxNameBytes : Nat := 255

/-- How many links may lead over each other. Links of one path that stand side by side are not counted
together. -/
def maxLinkDepth : Nat := 40

def get? (fs : FileSystem links) (location : Location) : Option (Node links) :=
  fs.root.get? location

def put (fs : FileSystem links) (location : Location) (node : Node links) : FileSystem links :=
  { fs with root := fs.root.put location node }

/-- Where a path starts that is read in a directory. -/
def startIn (here : Location) (path : Path) : Location :=
  if path.isAbsolute then [] else here

def start (fs : FileSystem links) (path : Path) : Location :=
  startIn fs.workingDirectory path

def hasNul (path : Path) : Bool :=
  path.spelling.toList.contains '\x00'

/-- One piece of a path, from a location to the next, where a link may stand. Every piece, also an
idle one, needs a directory to start from; the top is its own parent. -/
def enter (fs : FileSystem links) (here : Location) (piece : String) : Except AccessError Location :=
  match fs.get? here with
  | some (.directory children) =>
    if piece = "" ∨ piece = "." then .ok here
    else if piece = ".." then .ok here.dropLast
    else if piece.utf8ByteSize > maxNameBytes then .error .nameTooLong
    else if (Entries.find? piece children).isSome then .ok (here ++ [piece])
    else .error .notFound
  | none => .error .notFound
  | some _ => .error .notADirectory

/-- One piece of a path, through a link that stands there and those in its target, so many deep. -/
def stepWithin (fs : FileSystem links) (depth : Nat) (here : Location) (piece : String) :
    Except AccessError Location := do
  let next ← fs.enter here piece
  match fs.get? next with
  | some (.link _ target) =>
    match depth with
    | 0 => .error .tooManyLinks
    | depth + 1 => target.pieces.foldlM (fs.stepWithin depth) (startIn here target)
  | _ => .ok next

def step (fs : FileSystem links) (here : Location) (piece : String) : Except AccessError Location :=
  fs.stepWithin maxLinkDepth here piece

def follow (fs : FileSystem links) (here : Location) (pieces : List String) :
    Except AccessError Location :=
  pieces.foldlM fs.step here

/-- The location of the node that a path names, which is no link. -/
def resolve (fs : FileSystem links) (path : Path) : Except AccessError Location :=
  if hasNul path then .error .invalidName
  else if path.spelling.isEmpty then .error .notFound
  else fs.follow (fs.start path) path.pieces

def nodeAt? (fs : FileSystem links) (path : Path) : Option (Node links) :=
  match fs.resolve path with
  | .ok location => fs.get? location
  | .error _ => none

def isFile (fs : FileSystem links) (path : Path) : Bool :=
  match fs.nodeAt? path with
  | some (.file _) => true
  | _ => false

def isDirectory (fs : FileSystem links) (path : Path) : Bool :=
  match fs.nodeAt? path with
  | some (.directory _) => true
  | _ => false

def read (fs : FileSystem links) (path : Path) : Except AccessError Content := do
  match fs.get? (← fs.resolve path) with
  | some (.file content) => .ok content
  | some (.directory _) => .error .isADirectory
  | _ => .error .notFound

def readText (fs : FileSystem links) (path : Path) : Except AccessError String := do
  match ← fs.read path with
  | .text value => .ok value
  | .binary _ => .error .invalidText

/-- Where a file that the pieces of a path name is or would be; its directory has to exist. A link in
its place says where, and whether the file exists or not. -/
def targetWithin (fs : FileSystem links) (depth : Nat) (here : Location) (pieces : List String) :
    Except AccessError Location := do
  let above ← pieces.dropLast.foldlM (fs.stepWithin depth) here
  let name := pieces.getLast?.getD ""
  match fs.enter above name with
  | .ok location =>
    match fs.get? location with
    | some (.directory _) => .error .isADirectory
    | some (.link _ target) =>
      match depth with
      | 0 => .error .tooManyLinks
      | depth + 1 => fs.targetWithin depth (startIn above target) target.pieces
    | _ => .ok location
  | .error .notFound => .ok (above ++ [name])
  | .error fault => .error fault

def target (fs : FileSystem links) (path : Path) : Except AccessError Location :=
  if hasNul path then .error .invalidName
  else if path.spelling.isEmpty then .error .notFound
  else fs.targetWithin maxLinkDepth (fs.start path) path.pieces

/-- Creates a file or replaces its content. -/
def write (fs : FileSystem links) (path : Path) (content : Content) :
    Except AccessError (FileSystem links) := do
  .ok (fs.put (← fs.target path) (.file content))

/-- Pieces that lead nowhere, one of them a `.`, after which a missing name is not created. -/
def endsIdle (pieces : List String) : Bool :=
  pieces.contains "." && pieces.all fun piece => piece == "" || piece == "."

/-- Follows pieces and creates the directories that are missing on the way. What was created
stays when a later piece fails. A link that leads nowhere has its name already. -/
def createFrom (fs : FileSystem links) (here : Location) :
    List String → Except AccessError Unit × FileSystem links
  | [] =>
    match fs.get? here with
    | some (.directory _) => (.ok (), fs)
    | _ => (.error .alreadyExists, fs)
  | piece :: rest =>
    match fs.step here piece with
    | .ok next => fs.createFrom next rest
    | .error .notFound =>
      if endsIdle rest then (.error .notFound, fs)
      else if (fs.enter here piece).isOk then (.error .alreadyExists, fs)
      else (fs.put (here ++ [piece]) .empty).createFrom (here ++ [piece]) rest
    | .error fault => (.error fault, fs)

/-- Creates a directory with all that is missing above it. The empty path needs nothing. -/
def createDirectories (fs : FileSystem links) (path : Path) : Except AccessError Unit × FileSystem links :=
  if hasNul path then (.error .invalidName, fs)
  else if path.spelling.isEmpty then (.ok (), fs)
  else fs.createFrom (fs.start path) path.pieces

/-- Removes what a path names with all that is below it; of a link, the link alone. -/
def remove (fs : FileSystem links) (path : Path) : FileSystem links :=
  if path.spelling.isEmpty then fs
  else
    match (fs.follow (fs.start path) path.pieces.dropLast).bind fun above =>
        fs.enter above (path.pieces.getLast?.getD "") with
    | .ok location => { fs with root := fs.root.remove location }
    | .error _ => fs

/-- The files below a directory, each under the directory's path, in the order of the spellings. -/
def filesBelow (fs : FileSystem links) (path : Path) : List (Path × Content) :=
  match fs.nodeAt? path with
  | some (.directory children) =>
    ((Node.directory children).files.map fun (location, content) =>
      (path.joinAll location, content)).mergeSort fun a b => !(b.1.spelling < a.1.spelling)
  | _ => []

end Stencil.FileSystem
