import Stencil.Entries
import Stencil.Path

namespace Stencil

/-- The content of a file: text, or bytes that are not the encoding of any text. -/
inductive Content where
  | text (value : String)
  | binary (bytes : ByteArray)

def Content.ofBytes (bytes : ByteArray) : Content :=
  match String.fromUTF8? bytes with
  | some value => .text value
  | none => .binary bytes

/-- Whether there may be symbolic links in a tree. -/
inductive Linkage where
  | linkFree
  | linked
deriving DecidableEq, Repr

/-- A part of a tree. A link stands for what its target leads to; a relative target starts from the
directory that holds the link. -/
inductive Node (links : Linkage) where
  | file (content : Content)
  | directory (children : List (String × Node links))
  | link (allowed : links = .linked) (target : Path)

/-- The names that lead from the top of the tree to a node. -/
abbrev Location := List String

namespace Node

variable {links : Linkage}

def empty : Node links :=
  .directory []

/-- The node at a location. There is nothing below a link itself. -/
def get? : Node links → Location → Option (Node links)
  | node, [] => some node
  | .directory children, name :: rest =>
    match Entries.find? name children with
    | some child => child.get? rest
    | none => none
  | _, _ :: _ => none

/-- Puts a node at a location whose parent is a directory; otherwise nothing changes. -/
def put : Node links → Location → Node links → Node links
  | _, [], new => new
  | .directory children, name :: rest, new =>
    match Entries.find? name children with
    | some child => .directory (Entries.insert name (child.put rest new) children)
    | none =>
      if rest.isEmpty then .directory (Entries.insert name new children) else .directory children
  | node, _ :: _, _ => node

def remove : Node links → Location → Node links
  | node, [] => node
  | .directory children, [name] => .directory (Entries.erase name children)
  | .directory children, name :: next :: rest =>
    match Entries.find? name children with
    | some child => .directory (Entries.insert name (child.remove (next :: rest)) children)
    | none => .directory children
  | node, _ :: _ => node

mutual
/-- All files below a node, with their locations from there. Links are not followed. -/
def files : Node links → List (Location × Content)
  | .file content => [([], content)]
  | .directory children => filesOfAll children
  | .link _ _ => []

def filesOfAll : List (String × Node links) → List (Location × Content)
  | [] => []
  | (name, child) :: rest =>
    child.files.map (fun (location, content) => (name :: location, content)) ++ filesOfAll rest
end

theorem get?_append (node : Node links) (above below : Location) :
    node.get? (above ++ below) = (node.get? above).bind (·.get? below) := by
  induction above generalizing node with
  | nil => simp [get?]
  | cons name rest ih =>
    cases node with
    | file | link => simp [get?]
    | directory children =>
      simp only [List.cons_append, get?]
      cases Entries.find? name children with
      | none => rfl
      | some child => exact ih child

/-- What is put below a directory is found there. -/
theorem get?_put_self {node new : Node links} {above : Location} {name : String}
    {children : List (String × Node links)} (parent : node.get? above = some (.directory children)) :
    (node.put (above ++ [name]) new).get? (above ++ [name]) = some new := by
  induction above generalizing node with
  | nil =>
    cases node with
    | file | link => simp [get?] at parent
    | directory held =>
      simp only [List.nil_append, put]
      cases Entries.find? name held with
      | none => simp [get?, Entries.find?_insert_self]
      | some child => simp [get?, Entries.find?_insert_self]
  | cons first rest ih =>
    cases node with
    | file | link => simp [get?] at parent
    | directory held =>
      simp only [get?] at parent
      cases found : Entries.find? first held with
      | none => simp [found] at parent
      | some child =>
        rw [found] at parent
        simp [put, get?, found, Entries.find?_insert_self, ih parent]

/-- Nothing changes at a location that does not lead to the one written, nor beyond it. -/
theorem get?_put_of_apart (node new : Node links) {location other : Location}
    (notBefore : ¬ other <+: location) (notBeyond : ¬ location <+: other) :
    (node.put location new).get? other = node.get? other := by
  induction location generalizing node other with
  | nil => exact absurd List.nil_prefix notBeyond
  | cons name rest ih =>
    cases other with
    | nil => exact absurd List.nil_prefix notBefore
    | cons first below =>
      cases node with
      | file | link => rfl
      | directory held =>
        by_cases same : name = first
        · subst same
          simp only [List.cons_prefix_cons, true_and] at notBefore notBeyond
          simp only [put]
          cases found : Entries.find? name held with
          | some child => simp [get?, found, Entries.find?_insert_self, ih child notBefore notBeyond]
          | none =>
            have notEmpty : rest.isEmpty = false := by
              cases rest with
              | nil => exact absurd List.nil_prefix notBeyond
              | cons _ _ => rfl
            simp [notEmpty]
        · simp only [put]
          cases Entries.find? name held with
          | some child => simp [get?, Entries.find?_insert_of_ne same]
          | none =>
            cases rest with
            | nil => simp [get?, Entries.find?_insert_of_ne same]
            | cons _ _ => rfl

end Stencil.Node
