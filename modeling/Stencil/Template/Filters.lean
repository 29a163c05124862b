import Stencil.Template.Operators
import Stencil.Text.Blank
import Stencil.Text.Case
import Stencil.Text.Pieces

namespace Stencil.Template

namespace Arguments

/-- A value that an argument has to have. -/
def required : Option Value → Result Value
  | none => .error .missingArgument
  | some value => if value.isMissing then .error .undefinedValue else .ok value

/-- The printed form of an argument. Named arguments have none. -/
def text (argument : Option Value) : Result String := do
  match ← required argument with
  | .named _ => .error .invalidOperation
  | value => .ok value.display

/-- An argument that has to be a text. -/
def plainText (argument : Option Value) : Result String := do
  match ← required argument with
  | .text content => .ok content
  | _ => .error .invalidOperation

/-- An argument that may be left out, be undefined, or be none. -/
def optional {α : Type} (read : Option Value → Result α) : Option Value → Result (Option α)
  | none | some .none | some (.undefined _) => .ok none
  | argument => (read argument).map some

def integer (argument : Option Value) : Result Int := do
  match (← required argument).short? with
  | some n => .ok n
  | none => .error .invalidOperation

def flag (argument : Option Value) : Result Bool := do
  match ← required argument with
  | .flag value => .ok value
  | _ => .error .invalidOperation

/-- Refuses arguments past a number of them. -/
def atMost (count : Nat) (arguments : List Value) : Result Unit :=
  if arguments.length > count then .error .tooManyArguments else .ok ()

end Arguments

namespace Filter

open Arguments

def trimmed (content : String) (characters : Option String) : String :=
  match characters with
  | none => String.ofList (Text.trim content.toList)
  | some set =>
    let inSet (c : Char) : Bool := set.toList.contains c
    String.ofList (Text.trimEndBy inSet (content.toList.dropWhile inSet))

/-- Replaces what is sought from left to right. The empty text is found before every character
and at the end. -/
def replaceAll (sought replacement : List Char) : Nat → List Char → List Char
  | 0, cs => cs
  | fuel + 1, cs =>
    if sought.isEmpty then
      match cs with
      | [] => replacement
      | c :: rest => replacement ++ c :: replaceAll sought replacement fuel rest
    else if sought.isPrefixOf cs then
      replacement ++ replaceAll sought replacement fuel (cs.drop sought.length)
    else
      match cs with
      | [] => []
      | c :: rest => c :: replaceAll sought replacement fuel rest

def replace (content sought replacement : String) : String :=
  String.ofList <|
    replaceAll sought.toList replacement.toList (content.toList.length + 1) content.toList

def items (value : Value) : Result (List Value) :=
  match value.items? with
  | some items => .ok items
  | none => .error .invalidOperation

/-- The printed forms of items with a joiner between them. -/
def join (joiner : String) (items : List Value) : String :=
  joiner.intercalate (items.map Value.display)

/-- Texts are ordered without regard to the case of ASCII letters, unless case is to count. -/
def sortOrder (caseSensitive : Bool) (a b : Value) : Ordering :=
  match caseSensitive, a, b with
  | false, .text s, .text t => compare (s.map Char.toLower) (t.map Char.toLower)
  | _, a, b => a.compare b

/-- A part of a path that is a position. -/
def place? (part : String) : Option Nat :=
  if part.toList.all Char.isDigit then part.toNat? else none

/-- What is found in a value when names and positions are followed one after another. Nothing is
found in an undefined value. -/
def follow? (value : Value) : List String → Option Value
  | [] => some value
  | part :: rest =>
    if value.isUndefined then none
    else
      let next :=
        match place? part with
        | some n => value.item? (.integer n)
        | none => value.field? part
      follow? (next.getD (.undefined false)) rest

/-- The order of values by what they hold under paths, the first path counting most. Values for which
a path leads nowhere have no order. -/
def pathOrder (order : Value → Value → Ordering) (a b : Value) : List (List String) → Ordering
  | [] => .eq
  | path :: rest =>
    match follow? a path, follow? b path with
    | some s, some t => (order s t).then (pathOrder order a b rest)
    | _, _ => pathOrder order a b rest

/-- Paths between commas, with points between their parts. -/
def paths (content : String) : List (List String) :=
  (Text.pieces ',' content).map fun path => Text.pieces '.' (String.ofList (Text.trim path.toList))

def sortOptions : List String :=
  ["case_sensitive", "reverse", "attribute"]

/-- Sorts the items of a value by what stands for them when they are compared. Items in the same place
keep their order, also when the order is turned around. -/
def sort (expand : Value → Value) (value : Value) (options : List (String × Value)) :
    Result Value := do
  let all ← items value
  let caseSensitive ← optional flag (options.lookup "case_sensitive")
  let backwards ← optional flag (options.lookup "reverse")
  let sought := (← optional plainText (options.lookup "attribute")).map paths
  if options.any fun (name, _) => !sortOptions.contains name then .error .tooManyArguments
  else
    let byContent := sortOrder (caseSensitive.getD false)
    let order (a b : Value) : Ordering :=
      match sought with
      | some sought => pathOrder byContent a b sought
      | none => byContent a b
    let stays (a b : Value × Value) : Bool :=
      if backwards.getD false then order a.1 b.1 != .lt else order a.1 b.1 != .gt
    .ok (.list (((all.map fun item => (expand item, item)).mergeSort stays).map (·.2)))

def first (value : Value) : Result Value :=
  match value with
  | .none | .undefined _ => .error .invalidOperation
  | .text content => .ok ((content.front?.map Value.ofCharacter).getD (.undefined false))
  | value => do .ok ((← items value).head?.getD (.undefined false))

def last (value : Value) : Result Value :=
  match value with
  | .text content => .ok ((content.back?.map Value.ofCharacter).getD (.undefined false))
  | .list items | .stream items => .ok (items.getLast?.getD (.undefined false))
  | _ => .error .invalidOperation

def reverse (value : Value) : Result Value :=
  match value with
  | .none | .undefined _ => .ok value
  | .text content => .ok (.text (String.ofList content.toList.reverse))
  | value => do .ok (.stream (← items value).reverse)

/-- The entries of a map as pairs of key and value. -/
def pairs (value : Value) : Result Value :=
  match value with
  | .map entries | .object entries _ =>
    .ok (.stream (entries.map fun (key, value) => .list [key, value]))
  | .named pairs => .ok (.stream (pairs.map fun (key, value) => .list [.text key, value]))
  | _ => .error .invalidOperation

/-- The value given instead of one that is undefined, or on demand instead of one that is false. -/
def default (value : Value) (holds : Bool) (arguments : List Value) : Result Value := do
  atMost 2 arguments
  let alsoFalse := (arguments[1]?.map Value.isTrue).getD false
  if value.isUndefined || (alsoFalse && !holds) then .ok (arguments[0]?.getD (.text ""))
  else .ok value

def length (value : Value) : Result Value :=
  match value.length? with
  | some n => .ok (.integer n)
  | none => .error .invalidOperation

/-- The filters whose result holds items of the value as they are, and not their text. -/
def keepsItems (name : String) : Bool :=
  ["sort", "first", "last", "list", "reverse", "items"].contains name

/-- Applies a filter to a value and the arguments behind it. Filters that need the text of a value or
make a new list of it refuse a missing one; the others have an answer of their own for it. -/
def apply (expand : Value → Value) (name : String) (value : Value) (arguments : List Value) :
    Result Value :=
  match name with
  | "upper" => do
    let content ← text (some value)
    atMost 0 arguments
    .ok (.text (Text.upper content))
  | "lower" => do
    let content ← text (some value)
    atMost 0 arguments
    .ok (.text (Text.lower content))
  | "trim" => do
    let content ← text (some value)
    let characters ← optional text arguments[0]?
    atMost 1 arguments
    .ok (.text (trimmed content characters))
  | "replace" => do
    let content ← text (some value)
    let sought ← text arguments[0]?
    let replacement ← text arguments[1]?
    atMost 2 arguments
    .ok (.text (replace content sought replacement))
  | "length" | "count" => do
    atMost 0 arguments
    length value
  | "join" => do
    let joiner ← optional text arguments[0]?
    atMost 1 arguments
    .ok (.text (join (joiner.getD "") (← items value)))
  | "default" => default value value.isTrue arguments
  | "sort" => do
    let value ← required (some value)
    match arguments with
    | [] => sort expand value []
    | [.named options] => sort expand value options
    | _ => .error .tooManyArguments
  | "first" => do
    atMost 0 arguments
    first value
  | "last" => do
    atMost 0 arguments
    last value
  | "list" => do
    let value ← required (some value)
    atMost 0 arguments
    .ok (.list (← items value))
  | "reverse" => do
    atMost 0 arguments
    reverse value
  | "string" => do
    atMost 0 arguments
    .ok (.text value.display)
  | "items" => do
    atMost 0 arguments
    pairs value
  | _ => .error .unknownFilter

end Filter

namespace Test

open Arguments

def withoutArguments (arguments : List Value) (holds : Bool) : Result Bool := do
  atMost 0 arguments
  .ok holds

/-- Whether a value is an odd number, or an even one. What is no number is neither, nor is a number
that operators do not take. -/
def hasParity (value : Value) (odd : Bool) : Bool :=
  match value.operand? with
  | some n => (n % 2 != 0) == odd
  | none => false

/-- Applies a test to a value and the arguments behind it. Undefined values have no kind but may
be asked for theirs. -/
def apply (name : String) (value : Value) (arguments : List Value) : Result Bool :=
  match name with
  | "defined" => withoutArguments arguments !value.isUndefined
  | "undefined" => withoutArguments arguments value.isUndefined
  | "none" => withoutArguments arguments (match value with | .none => true | _ => false)
  | "string" => withoutArguments arguments (match value with | .text _ => true | _ => false)
  | "number" => withoutArguments arguments (match value with | .integer _ => true | _ => false)
  | "boolean" => withoutArguments arguments (match value with | .flag _ => true | _ => false)
  | "mapping" => withoutArguments arguments (value.rank == 6)
  | "sequence" => withoutArguments arguments (match value with | .list _ => true | _ => false)
  | "odd" => withoutArguments arguments (hasParity value true)
  | "even" => withoutArguments arguments (hasParity value false)
  | "startingwith" => do
    let content ← text (some value)
    let start ← text arguments[0]?
    atMost 1 arguments
    .ok (start.toList.isPrefixOf content.toList)
  | "endingwith" => do
    let content ← text (some value)
    let ending ← text arguments[0]?
    atMost 1 arguments
    .ok (ending.toList.isSuffixOf content.toList)
  | _ => .error .unknownTest

end Test

namespace Builtin

open Arguments

def maxRange : Nat := 100000

/-- The numbers from a start up or down to a stop, the stop left out. -/
def rangeItems (start stop step : Int) : Result (List Value) :=
  if step = 0 then .error .invalidOperation
  else
    let count := if 0 < step then ((stop - start + step - 1) / step).toNat
      else ((start - stop - step - 1) / (-step)).toNat
    if count > maxRange then .error .invalidOperation
    else .ok ((List.range count).map fun (i : Nat) => .integer (start + step * (i : Int)))

def callRange (arguments : List Value) : Result Value := do
  let first ← integer arguments[0]?
  let second ← optional integer arguments[1]?
  let step ← optional integer arguments[2]?
  atMost 3 arguments
  match second with
  | some stop => .ok (.stream (← rangeItems first stop (step.getD 1)))
  | none => .ok (.stream (← rangeItems 0 first (step.getD 1)))

/-- The fields that a name space starts with. -/
def spaceFields (arguments : List Value) : Result (List (String × Value)) :=
  match arguments with
  | [] => .ok []
  | [.named fields] => .ok fields
  | [.map entries] | [.object entries _] =>
    .ok (entries.filterMap fun (key, value) =>
      match key with
      | .text key => some (key, value)
      | _ => none)
  | [.undefined _] | [.none] => .ok []
  | [_] => .error .invalidOperation
  | _ => .error .tooManyArguments

end Builtin

/-- The comparison that a helper writes for its two arguments in their printed forms. -/
def callHelper (helper : Helper) (arguments : List Value) : Result Value := do
  let lhs ← Arguments.text arguments[0]?
  let rhs ← Arguments.text arguments[1]?
  Arguments.atMost 2 arguments
  .ok (.text (helper.apply lhs rhs))

end Stencil.Template
