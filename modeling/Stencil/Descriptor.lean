import Stencil.Kind
import Stencil.Text.Json

namespace Stencil

/-- The zero and default literals of a kind; a kind without arithmetic has no zero. -/
structure Literals where
  zero : Option String
  default : String
deriving DecidableEq, Repr

namespace Kind

def literals (kind : Kind) : Literals :=
  match kind with
  | int => ⟨some "0", "0"⟩
  | long => ⟨some "0L", "0L"⟩
  | char => ⟨some "'\\0'", "'\\0'"⟩
  | boolean => ⟨none, "false"⟩
  | _ =>
    let cast := "(" ++ kind.primitiveName ++ ") 0"
    ⟨some cast, cast⟩

/-- The function from a floating value to its bits in which all NaNs are one. -/
def toBits? : Kind → Option String
  | float => some "Float.floatToIntBits"
  | double => some "Double.doubleToLongBits"
  | _ => none

/-- The function from a floating value to its bits as they are. -/
def toRawBits? : Kind → Option String
  | float => some "Float.floatToRawIntBits"
  | double => some "Double.doubleToRawLongBits"
  | _ => none

end Kind

inductive Comparison where
  | equal
  | notEqual
deriving DecidableEq, Repr

def Comparison.operator : Comparison → String
  | equal => "=="
  | notEqual => "!="

/-- A function that templates call to compare two expressions of one kind. -/
structure Helper where
  comparison : Comparison
  kind : Kind
deriving DecidableEq, Repr

namespace Helper

def name (helper : Helper) : String :=
  match helper.comparison with
  | .equal => "PrimitiveEquals"
  | .notEqual => "PrimitiveNotEquals"

/-- The comparison of two expressions: on bits for the floating kinds, direct for all others. -/
def apply (helper : Helper) (lhs rhs : String) : String :=
  let operator := " " ++ helper.comparison.operator ++ " "
  match helper.kind.toBits? with
  | some bits => bits ++ "(" ++ lhs ++ ")" ++ operator ++ bits ++ "(" ++ rhs ++ ")"
  | none => lhs ++ operator ++ rhs

end Helper

/-- Everything that a template may refer to about one kind. -/
structure Descriptor where
  kind : Kind
  typeName : String
  primitiveType : String
  wrapperType : String
  var : String
  isSpecialized : Bool
  isIntegral : Bool
  isFloating : Bool
  values : Literals
  liftToInt : Bool
  bitsType : Option Kind
  toBits : Option String
  toRawBits : Option String
deriving DecidableEq, Repr

namespace Descriptor

def ofKind (kind : Kind) : Descriptor where
  kind := kind
  typeName := kind.name
  primitiveType := kind.primitiveName
  wrapperType := kind.wrapperName
  var := kind.var
  isSpecialized := kind.isSpecialized
  isIntegral := kind.isIntegral
  isFloating := kind.isFloating
  values := kind.literals
  liftToInt := kind.liftsToInt
  bitsType := kind.bits?
  toBits := kind.toBits?
  toRawBits := kind.toRawBits?

/-- A kind stands for the descriptor that is derived from it. -/
instance : Coe Kind Descriptor := ⟨ofKind⟩

def name (descriptor : Descriptor) : String :=
  descriptor.kind.name

def helpers (descriptor : Descriptor) : List Helper :=
  [⟨.equal, descriptor.kind⟩, ⟨.notEqual, descriptor.kind⟩]

open Text in
/-- The record that is printed for a descriptor. What a kind lacks is left out, except that a
missing zero is written as null. -/
def json (descriptor : Descriptor) : Json :=
  let optional (key : String) (value : Option String) : List (String × Json) :=
    value.toList.map fun text => (key, .text text)
  .record <|
    [("Type", .text descriptor.typeName),
      ("PrimitiveType", .text descriptor.primitiveType),
      ("WrapperType", .text descriptor.wrapperType),
      ("Var", .text descriptor.var),
      ("IsSpecialized", .flag descriptor.isSpecialized),
      ("IsIntegral", .flag descriptor.isIntegral),
      ("IsFloating", .flag descriptor.isFloating),
      ("Values", .record [
        ("Zero", (descriptor.values.zero.map Json.text).getD .null),
        ("Default", .text descriptor.values.default)]),
      ("LiftToInt", .flag descriptor.liftToInt)] ++
    optional "BitsType" (descriptor.bitsType.map Kind.name) ++
    optional "ToBits" descriptor.toBits ++
    optional "ToRawBits" descriptor.toRawBits

def flagText (value : Bool) : String :=
  if value then "true" else "false"

/-- The lines of the plain listing; a kind without bits has no lines on them. -/
def lines (descriptor : Descriptor) : List String :=
  [descriptor.typeName,
    "  PrimitiveType  " ++ descriptor.primitiveType,
    "  WrapperType    " ++ descriptor.wrapperType,
    "  Var            " ++ descriptor.var,
    "  IsSpecialized  " ++ flagText descriptor.isSpecialized,
    "  IsIntegral     " ++ flagText descriptor.isIntegral,
    "  IsFloating     " ++ flagText descriptor.isFloating,
    "  LiftToInt      " ++ flagText descriptor.liftToInt,
    "  Values.Zero    " ++ descriptor.values.zero.getD "null",
    "  Values.Default " ++ descriptor.values.default] ++
  match descriptor.bitsType, descriptor.toBits, descriptor.toRawBits with
  | some bits, some toBits, some toRawBits =>
    ["  BitsType       " ++ toString bits,
      "  ToBits         " ++ toBits,
      "  ToRawBits      " ++ toRawBits]
  | _, _, _ => []

end Stencil.Descriptor
