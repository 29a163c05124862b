import Stencil.Catalog.Family
import Stencil.Constants

namespace Stencil.Catalog

def comparators : Namespace where
  name := "kala.comparator.primitive"
  directives := kinds.flatMap <| members [⟨"", "Comparator"⟩, ⟨"", "Comparators"⟩]

/-- The iterator type of a kind; the specialised kinds use the host library's. -/
def iteratorType (kind : Kind) : String :=
  if kind.isSpecialized then "java.util.PrimitiveIterator.Of" ++ kind.name
  else kind.name ++ "Iterator"

def collectionBase : Namespace where
  name := "kala.collection.base.primitive"
  directives := kinds.flatMap <|
    membersWith (fun kind => (Model.single kind).insertText "PrimitiveIteratorType" (iteratorType kind))
      [⟨"", "Arrays"⟩, ⟨"", "Traversable"⟩, ⟨"", "Iterator"⟩, ⟨"", "Iterators"⟩, ⟨"", "Growable"⟩,
        ⟨"Abstract", "Iterator"⟩]

def factories : Namespace where
  name := "kala.collection.factory.primitive"
  directives := kinds.flatMap <| members [⟨"", "CollectionFactory"⟩, ⟨"", "CollectionBuilder"⟩]

def controls : Namespace where
  name := "kala.control.primitive"
  directives := kindsWithoutBoolean.flatMap <| members [⟨"", "Option"⟩, ⟨"", "Try"⟩]

def hasAtomicVariable : Kind → Bool
  | .int | .long => true
  | _ => false

def values : Namespace where
  name := "kala.value.primitive"
  directives := kinds.flatMap fun kind =>
    members [⟨"", "Value"⟩, ⟨"Mutable", "Value"⟩, ⟨"Abstract", "Value"⟩, ⟨"Default", "Value"⟩,
      ⟨"Delegate", "Value"⟩, ⟨"AbstractMutable", "Value"⟩, ⟨"DelegateMutable", "Value"⟩, ⟨"", "Var"⟩,
      ⟨"Volatile", "Var"⟩, ⟨"Lazy", "Value"⟩, ⟨"LateInit", "Value"⟩, ⟨"MutableLateInit", "Value"⟩] kind ++
    if hasAtomicVariable kind then members [⟨"Atomic", "Var"⟩] kind else []

/-- The host library already has the last families for the specialised kinds, and a supplier of
booleans. -/
def functions : Namespace where
  name := "kala.function"
  directives := kinds.flatMap fun kind =>
    members [⟨"Checked", "Consumer"⟩, ⟨"Checked", "Supplier"⟩, ⟨"", "Hasher"⟩, ⟨"Obj", "BiFunction"⟩,
      ⟨"", "ObjBiFunction"⟩, ⟨"Indexed", "UnaryOperator"⟩] kind ++
    if kind.isSpecialized then []
    else
      (if kind = .boolean then [] else members [⟨"", "Supplier"⟩] kind) ++
      members [⟨"", "Consumer"⟩, ⟨"", "Predicate"⟩, ⟨"", "Function"⟩, ⟨"", "UnaryOperator"⟩,
        ⟨"", "BinaryOperator"⟩] kind

/-- A class of pairs is named for both kinds, or once for a kind that is paired with itself. -/
def tupleClassName (first second : Kind) : String :=
  if first = second then first.name ++ "Tuple2" else first.name ++ second.name ++ "Tuple2"

def tuples : Namespace where
  name := "kala.tuple.primitive"
  directives := Registry.specializedPairs.map fun (first, second) =>
    let className := tupleClassName first second
    ⟨className, (Model.pair first second).insertText "ClassName" className, "PrimitiveTuple2"⟩

def internals : Namespace where
  name := "kala.internal"
  directives := kinds.flatMap <| members [⟨"Internal", "ArrayBuilder"⟩]

/-- How a range of an integral kind steps. -/
structure RangeBounds where
  stepType : String
  maxStep : String
  maxReverseStep : String
deriving DecidableEq, Repr

def rangeBounds? : Kind → Option RangeBounds
  | .byte => some ⟨"int", "Byte.MAX_VALUE - Byte.MIN_VALUE", "-MAX_STEP"⟩
  | .short => some ⟨"int", "Short.MAX_VALUE - Short.MIN_VALUE", "-MAX_STEP"⟩
  | .char => some ⟨"int", "Character.MAX_VALUE", "-MAX_STEP"⟩
  | .int => some ⟨"long", "(long) Integer.MAX_VALUE - Integer.MIN_VALUE", "-MAX_STEP"⟩
  | .long => some ⟨"long", "Long.MAX_VALUE", "Long.MIN_VALUE"⟩
  | .boolean | .float | .double => none

def rangeSeed : Int64 := -977415259

/-- The range of a kind, with the constants drawn for it. -/
def range (kind : Kind) (serialVersionUid hashMagic : String) : Directive :=
  let model := ((Model.single kind).insertText "SerialVersionUID" serialVersionUid).insertText
    "HashMagic" hashMagic
  match rangeBounds? kind with
  | some bounds =>
    let model := ((model.insertText "StepType" bounds.stepType).insertText
      "MaxStep" bounds.maxStep).insertText "MaxReverseStep" bounds.maxReverseStep
    ⟨kind.name ++ "Range", model, "IntegralRange"⟩
  | none => ⟨kind.name ++ "Range", model, "FloatingRange"⟩

/-- The ranges of some kinds; each draws an identifier first and a hash constant second. -/
def rangesFrom (constants : Constants) : List Kind → List Directive
  | [] => []
  | kind :: rest =>
    let (serialVersionUid, constants) := constants.nextSerialVersionUid
    let (hashMagic, constants) := constants.nextHashMagic
    range kind serialVersionUid hashMagic :: rangesFrom constants rest

def ranges : Namespace where
  name := "kala.range.primitive"
  directives := rangesFrom (.ofSeed rangeSeed) kindsWithoutBoolean

/-- Comparators, iterators, factories, options, values, functional interfaces, tuples and ranges. -/
def base : Task where
  namespaces := [comparators, collectionBase, factories, controls, values, functions, tuples,
    internals, ranges]

end Stencil.Catalog
