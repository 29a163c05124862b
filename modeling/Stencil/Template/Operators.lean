import Stencil.Template.Error
import Stencil.Template.Tree
import Stencil.Template.Value

namespace Stencil.Template

abbrev Result := Except ErrorKind

namespace Value

/-- Numbers that operators take and give have 128 bits, one of them for the sign. -/
def integerBound : Int :=
  Int.pow 2 127

def ofInt (n : Int) : Result Value :=
  if -integerBound ≤ n ∧ n < integerBound then .ok (.integer n) else .error .invalidOperation

/-- A value as a number that operators take. Longer ones can be written, but not counted with. -/
def operand? (value : Value) : Option Int :=
  value.integer?.filter (· < integerBound)

def operands (a b : Value) : Result (Int × Int) :=
  match a.operand?, b.operand? with
  | some m, some n => .ok (m, n)
  | _, _ => .error .invalidOperation

/-- Numbers are added; texts and lists are joined. -/
def add (a b : Value) : Result Value :=
  match a, b with
  | .text s, .text t => .ok (.text (s ++ t))
  | .list as, .list bs | .list as, .stream bs | .stream as, .list bs | .stream as, .stream bs =>
    .ok (.stream (as ++ bs))
  | a, b => do
    let (m, n) ← operands a b
    ofInt (m + n)

def subtract (a b : Value) : Result Value := do
  let (m, n) ← operands a b
  ofInt (m - n)

/-- The size in bytes of the longest text that is made by repeating one. -/
def maxRepeatedSize : Nat :=
  100000000

def repeated (value times : Value) : Result Value :=
  match value, times.integer? with
  | .text s, some (.ofNat n) =>
    if Nat.pow 2 64 ≤ n || maxRepeatedSize < s.utf8ByteSize * n then .error .invalidOperation
    else .ok (.text (if s.isEmpty then s else Nat.repeat (· ++ s) n ""))
  | .list items, some (.ofNat n) | .stream items, some (.ofNat n) =>
    if Nat.pow 2 64 ≤ n then .error .invalidOperation
    else .ok (.stream (if items.isEmpty then [] else Nat.repeat (items ++ ·) n []))
  | _, _ => .error .invalidOperation

/-- Numbers are multiplied; a text or a list next to a number is repeated. -/
def multiply (a b : Value) : Result Value :=
  match a, b with
  | .text _, _ => repeated a b
  | _, .text _ => repeated b a
  | .list _, _ | .stream _, _ => repeated a b
  | _, .list _ | _, .stream _ => repeated b a
  | a, b => do
    let (m, n) ← operands a b
    ofInt (m * n)

/-- The quotient is rounded so that no remainder is negative. -/
def floorDivide (a b : Value) : Result Value := do
  let (m, n) ← operands a b
  if n = 0 then .error .invalidOperation else ofInt (m / n)

/-- There is a remainder only where there is a quotient. -/
def remainder (a b : Value) : Result Value := do
  let (m, n) ← operands a b
  let _ ← floorDivide a b
  ofInt (m % n)

/-- Powers of -1, 0 and 1 depend on the parity of the exponent only; the powers of all other
numbers leave the range at an exponent of 128 at the latest. -/
def power (a b : Value) : Result Value := do
  let (m, n) ← operands a b
  if n < 0 ∨ 4294967296 ≤ n then .error .invalidOperation
  else if n = 0 then ofInt 1
  else if m.natAbs ≤ 1 then ofInt (if n % 2 = 0 then m * m else m)
  else if n < 128 then ofInt (Int.pow m n.toNat)
  else .error .invalidOperation

/-- The negative of the bound itself is not taken, though it could be. -/
def negate : Value → Result Value
  | .integer n => if n = integerBound then .ok (.integer n) else ofInt (-n)
  | _ => .error .invalidOperation

def hasSubtext (sought : List Char) : List Char → Bool
  | [] => sought.isEmpty
  | c :: rest => sought.isPrefixOf (c :: rest) || hasSubtext sought rest

/-- Whether a value occurs in a text, among the items of a list or among the keys of a map. -/
def isMember (value container : Value) : Result Bool :=
  match container with
  | .text content => .ok (hasSubtext value.display.toList content.toList)
  | .list items | .stream items => .ok (items.any (same · value))
  | .map entries | .object entries _ => .ok (valueAt? value entries).isSome
  | .named pairs =>
    match value with
    | .text key => .ok (pairs.lookup key).isSome
    | _ => .ok false
  | .undefined _ | .helper _ | .builtin _ => .ok false
  | _ => .error .invalidOperation

/-- Whether a comparison holds. A missing value cannot be compared. -/
def holds (comparison : Comparison) (a b : Value) : Result Bool :=
  if a.isMissing || b.isMissing then .error .undefinedValue
  else
    match comparison with
    | .equal => .ok (a.same b)
    | .notEqual => .ok !(a.same b)
    | .less => .ok (a.compare b == .lt)
    | .lessOrEqual => .ok (a.compare b != .gt)
    | .greater => .ok (a.compare b == .gt)
    | .greaterOrEqual => .ok (a.compare b != .lt)
    | .member => a.isMember b
    | .notMember => (a.isMember b).map (!·)

/-- The printed forms of two values as one text. -/
def concatenate (a b : Value) : Result Value :=
  if a.isMissing || b.isMissing then .error .undefinedValue
  else .ok (.text (a.display ++ b.display))

def binary (op : BinaryOp) (a b : Value) : Result Value :=
  match op with
  | .add => a.add b
  | .subtract => a.subtract b
  | .concatenate => a.concatenate b
  | .multiply => a.multiply b
  | .divide => .error .invalidOperation
  | .floorDivide => a.floorDivide b
  | .remainder => a.remainder b
  | .power => a.power b

/-- The position that an index means, counted from the end if it is negative. -/
def position? (index : Int) (length : Nat) : Option Nat :=
  if 0 ≤ index then some index.toNat
  else if -(length : Int) ≤ index then some (length + index).toNat
  else Option.none

/-- The item under an index or the entry under a key, if there is one. -/
def item? (container index : Value) : Option Value :=
  match container with
  | .list items | .stream items => do
    items[← position? (← index.integer?) items.length]?
  | .text content => do
    let c ← content.toList[← position? (← index.integer?) content.length]?
    some (ofCharacter c)
  | .map entries | .object entries _ => valueAt? index entries
  | .named pairs =>
    match index with
    | .text key => pairs.lookup key
    | _ => Option.none
  | _ => Option.none

def field? (container : Value) (name : String) : Option Value :=
  match container with
  | .map _ | .object _ _ | .named _ => container.item? (.text name)
  | _ => Option.none

/-- Whether a number has 64 bits, one of them for the sign. -/
def isShort (n : Int) : Bool :=
  -Int.pow 2 63 ≤ n && n < Int.pow 2 63

/-- A number of 64 bits, as positions and ranges are counted with. -/
def short? (value : Value) : Option Int :=
  value.integer?.filter isShort

/-- A bound of a slice. -/
def bound? : Value → Result (Option Int)
  | .none => .ok Option.none
  | value =>
    match value.short? with
    | some n => .ok (some n)
    | Option.none => .error .invalidOperation

/-- A bound as a position, counted from the end if it is negative. -/
def boundPosition (length : Nat) (bound : Int) : Nat :=
  if bound < 0 then (length + bound).toNat else bound.toNat

/-- Every `step`-th item, the first one included. -/
def everyNth {α : Type} (step : Nat) (items : List α) : List α :=
  (items.zipIdx.filter fun (_, i) => i % step == 0).map (·.1)

def sliceForward {α : Type} (items : List α) (start stop : Option Int) (step : Nat) : List α :=
  let first := boundPosition items.length (start.getD 0)
  let last := (stop.map (boundPosition items.length)).getD items.length
  everyNth step ((items.take last).drop first)

/-- Positions from a first one down to a last one, which is left out unless it is the very first of
all. -/
def positionsBackward (first last step : Nat) : List Nat :=
  let count := if last = 0 then first / step + 1 else (first - last + step - 1) / step
  (List.range count).map (first - step * ·)

def sliceBackward {α : Type} (items : List α) (start stop : Option Int) (step : Nat) : List α :=
  if items.isEmpty then []
  else
    let final := items.length - 1
    let first := (start.map (boundPosition items.length)).getD final
    let last := (stop.map (boundPosition items.length)).getD 0
    let held := items.toArray
    (positionsBackward (min first final) last step).filterMap (held[·]?)

def sliceItems {α : Type} (items : List α) (start stop : Option Int) (step : Int) : List α :=
  if 0 < step then sliceForward items start stop step.natAbs
  else sliceBackward items start stop step.natAbs

/-- A part of a text or of a list. Nothing has no parts. -/
def slice (value start stop step : Value) : Result Value := do
  let start ← bound? start
  let stop ← bound? stop
  let step := (← bound? step).getD 1
  if step = 0 then .error .invalidOperation
  else
    match value with
    | .undefined _ => .error .undefinedValue
    | .none => .ok (.list [])
    | .text content => .ok (.text (String.ofList (sliceItems content.toList start stop step)))
    | .list items | .stream items => .ok (.stream (sliceItems items start stop step))
    | _ => .error .invalidOperation

end Stencil.Template.Value
