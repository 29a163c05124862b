import Stencil.Text.Pieces

namespace Stencil

/-- A path as it is written. Different spellings can have the same components. -/
structure Path where
  spelling : String
deriving DecidableEq, Repr

namespace Path

/-- A step of a path. The constructors stand in the order in which listings sort them. -/
inductive Component where
  | root
  | current
  | parent
  | name (text : String)
deriving DecidableEq, Repr

def isAbsolute (path : Path) : Bool :=
  path.spelling.toList.head? == some '/'

/-- The texts between the slashes. -/
def pieces (path : Path) : List String :=
  Text.pieces '/' path.spelling

def Component.ofPiece? : String → Option Component
  | "" | "." => none
  | ".." => some .parent
  | text => some (.name text)

/-- Repeated and trailing slashes and `.` steps do not count, but for a leading `.`. -/
def components (path : Path) : List Component :=
  let steps := path.pieces.filterMap Component.ofPiece?
  if path.isAbsolute then .root :: steps
  else if path.pieces.head? = some "." then .current :: steps
  else steps

/-- An absolute path replaces what it is joined to. Otherwise one slash is put between the two,
unless nothing precedes it or a slash stands there already. -/
def join (base path : Path) : Path :=
  if path.isAbsolute then path
  else if base.spelling.isEmpty || base.spelling.toList.getLast? == some '/' then
    ⟨base.spelling ++ path.spelling⟩
  else ⟨base.spelling ++ "/" ++ path.spelling⟩

def joinAll (base : Path) (steps : List String) : Path :=
  steps.foldl (fun path step => path.join ⟨step⟩) base

/-- Reading a spelling backwards, drops the slashes and the `.` steps it ends in. -/
def dropIdle : List Char → List Char
  | '/' :: rest => if rest.isEmpty then ['/'] else dropIdle rest
  | '.' :: '/' :: rest => if rest.isEmpty then ['/'] else dropIdle rest
  | cs => cs

/-- What is written before the last component, without the slashes between them. The root and
the empty path have no parent. -/
def parent? (path : Path) : Option Path :=
  match path.components.getLast? with
  | none | some .root => none
  | some _ =>
    let reversed := dropIdle path.spelling.toList.reverse
    some ⟨String.ofList (dropIdle (reversed.dropWhile (· != '/'))).reverse⟩

namespace Component

def rank : Component → Nat
  | root => 0
  | current => 1
  | parent => 2
  | name _ => 3

def text : Component → String
  | name text => text
  | _ => ""

/-- Names compare by their bytes, which for Unicode text is by code points. -/
def compare (a b : Component) : Ordering :=
  (Ord.compare a.rank b.rank).then (Ord.compare a.text b.text)

def compareList : List Component → List Component → Ordering
  | [], [] => .eq
  | [], _ :: _ => .lt
  | _ :: _, [] => .gt
  | a :: as, b :: bs => (a.compare b).then (compareList as bs)

end Component

/-- The order of listings. Paths that compare equal have the same components. -/
def compare (a b : Path) : Ordering :=
  Component.compareList a.components b.components

/-- Puts a path into an ordered listing, in place of one with the same components. -/
def insertInto (key : List Component) (path : Path) :
    List (List Component × Path) → List (List Component × Path)
  | [] => [(key, path)]
  | (held, other) :: rest =>
    match Component.compareList key held with
    | .lt => (key, path) :: (held, other) :: rest
    | .eq => (key, path) :: rest
    | .gt => (held, other) :: insertInto key path rest

/-- The ordered listing of some paths; of several spellings the last one is listed. -/
def listing (paths : List Path) : List Path :=
  (paths.foldl (fun held path => insertInto path.components path held) []).map (·.2)

theorem join_of_isAbsolute {base path : Path} (absolute : path.isAbsolute = true) :
    base.join path = path := by
  simp [join, absolute]

theorem spelling_join_of_isRelative (base : Path) {path : Path} (relative : path.isAbsolute = false) :
    ∃ between, (base.join path).spelling = base.spelling ++ between ++ path.spelling ∧
      (between = "" ∨ between = "/") := by
  unfold join
  rw [relative]
  split
  · contradiction
  · split
    · exact ⟨"", by simp, .inl rfl⟩
    · exact ⟨"/", by simp, .inr rfl⟩

end Stencil.Path
