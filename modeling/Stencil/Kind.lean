namespace Stencil

/-- The eight scalar kinds that sources are generated for. -/
inductive Kind where
  | boolean
  | byte
  | short
  | int
  | long
  | float
  | double
  | char
deriving DecidableEq, Repr

namespace Kind

def all : List Kind :=
  [boolean, byte, short, int, long, float, double, char]

def index : Kind → Nat
  | boolean => 0
  | byte => 1
  | short => 2
  | int => 3
  | long => 4
  | float => 5
  | double => 6
  | char => 7

def name : Kind → String
  | boolean => "Boolean"
  | byte => "Byte"
  | short => "Short"
  | int => "Int"
  | long => "Long"
  | float => "Float"
  | double => "Double"
  | char => "Char"

/-- A kind is shown by its name. -/
instance : ToString Kind := ⟨name⟩

def primitiveName : Kind → String
  | boolean => "boolean"
  | byte => "byte"
  | short => "short"
  | int => "int"
  | long => "long"
  | float => "float"
  | double => "double"
  | char => "char"

def wrapperName : Kind → String
  | int => "Integer"
  | char => "Character"
  | kind => kind.name

/-- The customary name of a variable of the kind. -/
def var : Kind → String
  | boolean | byte => "b"
  | short => "s"
  | int => "i"
  | long => "l"
  | float => "f"
  | double => "d"
  | char => "c"

/-- The kinds for which the host library has specialised types of its own. -/
def isSpecialized : Kind → Bool
  | int | long | double => true
  | _ => false

def isIntegral : Kind → Bool
  | byte | short | int | long => true
  | _ => false

def isFloating : Kind → Bool
  | float | double => true
  | _ => false

/-- The kinds whose arithmetic is done in `int`. -/
def liftsToInt : Kind → Bool
  | byte | short | char => true
  | _ => false

/-- The integral kind that holds the bits of a floating kind. -/
def bits? : Kind → Option Kind
  | float => some int
  | double => some long
  | _ => none

end Kind

structure UnknownKind where
  name : String
deriving DecidableEq, Repr

def UnknownKind.message (unknown : UnknownKind) : String :=
  "unknown primitive kind '" ++ unknown.name ++ "'"

namespace Kind

/-- Two texts of one length whose characters agree pairwise up to the case of ASCII letters. -/
def sameLetters : List Char → List Char → Bool
  | [], [] => true
  | a :: as, b :: bs => a.toLower == b.toLower && sameLetters as bs
  | _, _ => false

/-- Reads a kind's name in any mixture of ASCII capitals and small letters. -/
def parse (text : String) : Except UnknownKind Kind :=
  match all.find? fun kind => sameLetters kind.name.toList text.toList with
  | some kind => .ok kind
  | none => .error ⟨text⟩

theorem mem_all (kind : Kind) : kind ∈ all := by
  cases kind <;> decide

end Stencil.Kind
