import Stencil.Descriptor
import Stencil.Entries

namespace Stencil

/-- What a template finds under a key. A descriptor stands for all properties of its kind, and
`null` for a key that is known but has no value. -/
inductive Property where
  | text (value : String)
  | flag (value : Bool)
  | null
  | map (entries : List (String × Property))
  | descriptor (kind : Kind)
  | helper (helper : Helper)
deriving Repr

namespace Property

def ofOption (value : Option String) : Property :=
  match value with
  | some present => .text present
  | none => .null

mutual
def decEq : (a b : Property) → Decidable (a = b)
  | text a, text b => if h : a = b then isTrue (by rw [h]) else isFalse (by simpa using h)
  | flag a, flag b => if h : a = b then isTrue (by rw [h]) else isFalse (by simpa using h)
  | null, null => isTrue rfl
  | map as, map bs =>
    match decEqEntries as bs with
    | isTrue h => isTrue (by rw [h])
    | isFalse h => isFalse (by simpa using h)
  | descriptor a, descriptor b =>
    if h : a = b then isTrue (by rw [h]) else isFalse (by simpa using h)
  | helper a, helper b => if h : a = b then isTrue (by rw [h]) else isFalse (by simpa using h)
  | text _, flag _ | text _, null | text _, map _ | text _, descriptor _ | text _, helper _
  | flag _, text _ | flag _, null | flag _, map _ | flag _, descriptor _ | flag _, helper _
  | null, text _ | null, flag _ | null, map _ | null, descriptor _ | null, helper _
  | map _, text _ | map _, flag _ | map _, null | map _, descriptor _ | map _, helper _
  | descriptor _, text _ | descriptor _, flag _ | descriptor _, null | descriptor _, map _
  | descriptor _, helper _
  | helper _, text _ | helper _, flag _ | helper _, null | helper _, map _
  | helper _, descriptor _ => isFalse (by simp)

def decEqEntries : (as bs : List (String × Property)) → Decidable (as = bs)
  | [], [] => isTrue rfl
  | [], _ :: _ | _ :: _, [] => isFalse (by simp)
  | (k, a) :: as, (l, b) :: bs =>
    if key : k = l then
      match decEq a b, decEqEntries as bs with
      | isTrue h, isTrue hs => isTrue (by rw [key, h, hs])
      | isFalse h, _ => isFalse fun same => h (by simp_all)
      | _, isFalse hs => isFalse fun same => hs (by simp_all)
    else isFalse fun same => key (by simp_all)
end

instance : DecidableEq Property := decEq

end Property

/-- What a descriptor tells, under the plain keys. What a kind lacks has no key, except that a missing
zero is null. -/
def Descriptor.fields (descriptor : Descriptor) : List (String × Property) :=
  let values := Entries.ofInsertions
    [("Zero", Property.ofOption descriptor.values.zero),
      ("Default", .text descriptor.values.default)]
  let optional (key : String) (value : Option Property) : List (String × Property) :=
    value.toList.map fun property => (key, property)
  [("Type", .text descriptor.typeName),
    ("PrimitiveType", .text descriptor.primitiveType),
    ("WrapperType", .text descriptor.wrapperType),
    ("Var", .text descriptor.var),
    ("IsSpecialized", .flag descriptor.isSpecialized),
    ("IsIntegral", .flag descriptor.isIntegral),
    ("IsFloating", .flag descriptor.isFloating),
    ("Values", .map values),
    ("LiftToInt", .flag descriptor.liftToInt)] ++
  optional "BitsType" (descriptor.bitsType.map .descriptor) ++
  optional "ToBits" (descriptor.toBits.map .text) ++
  optional "ToRawBits" (descriptor.toRawBits.map .text) ++
  descriptor.helpers.map fun helper => (helper.name, .helper helper)

/-- The properties of a descriptor, each key with the suffix appended. Keys of nested maps keep
their names. -/
def Descriptor.properties (descriptor : Descriptor) (suffix : String) : Entries Property :=
  Entries.ofInsertions <| descriptor.fields.map fun (key, value) => (key ++ suffix, value)

end Stencil
