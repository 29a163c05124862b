import Stencil.Descriptor
import Stencil.Text.Quoted

namespace Stencil.Template

inductive Builtin where
  | range
  | space
deriving DecidableEq, Repr

/-- A value of the template language. Functions that templates define, loops and name spaces are
known by numbers; what they hold can change. -/
inductive Value where
  /-- A silent one comes from a choice that was left open, and prints as nothing. -/
  | undefined (silent : Bool)
  | none
  | flag (value : Bool)
  | integer (value : Int)
  | text (value : String)
  | list (items : List Value)
  /-- Items that are computed from a list or a range, and not a list themselves. -/
  | stream (items : List Value)
  | map (entries : List (Value × Value))
  /-- The named arguments of a call. -/
  | named (arguments : List (String × Value))
  /-- A map with a printed form and an order of entries of its own. -/
  | object (entries : List (Value × Value)) (printed : String)
  | helper (helper : Helper)
  | builtin (function : Builtin)
  | closure (id : Nat) (name : String)
  | loop (id : Nat)
  | space (id : Nat)

namespace Value

def isUndefined : Value → Bool
  | undefined _ => true
  | _ => false

/-- Whether a value is undefined and not silent about it, so that reading it is an error. -/
def isMissing : Value → Bool
  | undefined silent => !silent
  | _ => false

def ofCharacter (c : Char) : Value :=
  .text (String.singleton c)

def ofPairs (pairs : List (String × Value)) : Value :=
  .map (pairs.map fun (key, value) => (.text key, value))

/-- A map with text keys in an order of its own. -/
def ofFields (fields : List (String × Value)) (printed : String) : Value :=
  .object (fields.map fun (key, value) => (.text key, value)) printed

mutual
/-- Whether a value is known by a number, or holds one that is. -/
def refers : Value → Bool
  | closure _ _ | loop _ | space _ => true
  | list items | stream items => anyRefers items
  | map entries | object entries _ => anyEntryRefers entries
  | _ => false

def anyRefers : List Value → Bool
  | [] => false
  | item :: rest => refers item || anyRefers rest

def anyEntryRefers : List (Value × Value) → Bool
  | [] => false
  | (_, value) :: rest => refers value || anyEntryRefers rest
end

/-- The order of the kinds of values, which decides between values of different kinds. -/
def rank : Value → Nat
  | undefined _ => 0
  | none => 1
  | flag _ => 2
  | integer _ => 3
  | text _ => 4
  | list _ => 5
  | map _ | named _ | object _ _ | closure _ _ | loop _ | space _ => 6
  | stream _ => 7
  | helper _ | builtin _ => 8

/-- The order of functions. All helpers have the same place in it. -/
def functionRank : Value → Nat
  | builtin .space => 0
  | builtin .range => 1
  | _ => 2

mutual
/-- The order of values: by kind first, and then by content. -/
def compare : Value → Value → Ordering
  | flag a, flag b => Ord.compare a.toNat b.toNat
  | integer a, integer b => Ord.compare a b
  | text a, text b => Ord.compare a b
  | list as, list bs | stream as, stream bs => compareAll as bs
  | map as, map bs | map as, object bs _ | object as _, map bs | object as _, object bs _ =>
    compareEntries as bs
  | a, b => (Ord.compare a.rank b.rank).then (Ord.compare a.functionRank b.functionRank)

def compareAll : List Value → List Value → Ordering
  | [], [] => .eq
  | [], _ :: _ => .lt
  | _ :: _, [] => .gt
  | a :: as, b :: bs => (compare a b).then (compareAll as bs)

def compareEntries : List (Value × Value) → List (Value × Value) → Ordering
  | [], [] => .eq
  | [], _ :: _ => .lt
  | _ :: _, [] => .gt
  | (k, a) :: as, (l, b) :: bs => ((compare k l).then (compare a b)).then (compareEntries as bs)
end

/-- Puts an entry into a map in the order of the keys. -/
def insertEntry (key value : Value) : List (Value × Value) → List (Value × Value)
  | [] => [(key, value)]
  | (held, old) :: rest =>
    match key.compare held with
    | .lt => (key, value) :: (held, old) :: rest
    | .eq => (held, value) :: rest
    | .gt => (held, old) :: insertEntry key value rest

def valueAt? (key : Value) : List (Value × Value) → Option Value
  | [] => Option.none
  | (held, value) :: rest => if key.compare held == .eq then some value else valueAt? key rest

mutual
/-- Equality of content. Flags count as numbers, it does not matter how items were computed or in
which order entries are kept, and helpers are all alike. -/
def same : Value → Value → Bool
  | undefined _, undefined _ => true
  | none, none => true
  | flag a, flag b => a == b
  | flag a, integer b => Int.ofNat a.toNat == b
  | integer a, flag b => a == Int.ofNat b.toNat
  | integer a, integer b => a == b
  | text a, text b => a == b
  | list as, list bs | list as, stream bs | stream as, list bs | stream as, stream bs => sameAll as bs
  | map as, map bs | map as, object bs _ | object as _, map bs | object as _, object bs _ =>
    as.length == bs.length && sameEntries as bs
  | helper _, helper _ => true
  | builtin a, builtin b => a == b
  | closure a _, closure b _ => a == b
  | loop a, loop b => a == b
  | space a, space b => a == b
  | _, _ => false

def sameAll : List Value → List Value → Bool
  | [], [] => true
  | a :: as, b :: bs => same a b && sameAll as bs
  | _, _ => false

/-- Whether all entries of a map are found in another one. -/
def sameEntries : List (Value × Value) → List (Value × Value) → Bool
  | [], _ => true
  | (key, a) :: as, bs =>
    (match valueAt? key bs with
      | some b => same a b
      | Option.none => false) && sameEntries as bs
end

def flagText (value : Bool) : String :=
  if value then "True" else "False"

def joinWith (separator : String) (parts : List String) : String :=
  separator.intercalate parts

mutual
/-- The form of a value inside of a list or a map, where texts stand in quotes. -/
def inner : Value → String
  | undefined _ => "undefined"
  | none => "None"
  | flag value => flagText value
  | integer value => toString value
  | text value => Text.quoted value
  | list items | stream items => "[" ++ joinWith ", " (innerAll items) ++ "]"
  | map entries => "\x7b" ++ joinWith ", " (innerEntries entries) ++ "\x7d"
  | named arguments => "\x7b" ++ joinWith ", " (innerNamed arguments) ++ "\x7d"
  | object _ printed => printed
  | helper called => "<function " ++ called.name ++ ">"
  | builtin .range => "<function range>"
  | builtin .space => "<function namespace>"
  | closure _ name => "<macro " ++ name ++ ">"
  | loop _ => "<loop>"
  | space _ => "<namespace>"

def innerAll : List Value → List String
  | [] => []
  | item :: rest => inner item :: innerAll rest

def innerEntries : List (Value × Value) → List String
  | [] => []
  | (key, value) :: rest => (inner key ++ ": " ++ inner value) :: innerEntries rest

def innerNamed : List (String × Value) → List String
  | [] => []
  | (key, value) :: rest => (Text.quoted key ++ ": " ++ inner value) :: innerNamed rest
end

/-- The printed form of a value. -/
def display : Value → String
  | undefined _ => ""
  | text value => value
  | value => value.inner

def isTrue : Value → Bool
  | undefined _ | none => false
  | flag value => value
  | integer value => value != 0
  | text value => !value.isEmpty
  | list items | stream items => !items.isEmpty
  | map entries | object entries _ => !entries.isEmpty
  | named arguments => !arguments.isEmpty
  | _ => true

/-- The items of a collection, which are the keys of a map. A text is not a collection. -/
def elements? : Value → Option (List Value)
  | list items | stream items => some items
  | map entries | object entries _ => some (entries.map (·.1))
  | named arguments => some (arguments.map fun argument => .text argument.1)
  | _ => Option.none

/-- What a value is made of when it is gone through; a text yields its characters. -/
def items? : Value → Option (List Value)
  | undefined _ | none => some []
  | text value => some (value.toList.map ofCharacter)
  | value => value.elements?

def length? : Value → Option Nat
  | text value => some value.length
  | list items | stream items => some items.length
  | map entries | object entries _ => some entries.length
  | named arguments => some arguments.length
  | _ => Option.none

/-- A value as a number, where flags count as one and zero. -/
def integer? : Value → Option Int
  | integer value => some value
  | flag value => some (Int.ofNat value.toNat)
  | _ => Option.none

end Stencil.Template.Value
