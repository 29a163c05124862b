import Stencil.Template.Value

namespace Stencil

namespace Template

inductive Literal where
  | none
  | flag (value : Bool)
  | integer (value : Int)
  | text (value : String)
deriving DecidableEq, Repr

def Literal.value : Literal → Value
  | none => .none
  | flag value => .flag value
  | integer value => .integer value
  | text value => .text value

inductive BinaryOp where
  | add
  | subtract
  | concatenate
  | multiply
  | divide
  | floorDivide
  | remainder
  | power
deriving DecidableEq, Repr

inductive Comparison where
  | equal
  | notEqual
  | less
  | lessOrEqual
  | greater
  | greaterOrEqual
  | member
  | notMember
deriving DecidableEq, Repr

/-- How an argument is handed over. One that is spread stands for all items of a collection, or for
all entries of a map as named arguments. -/
inductive ArgumentRole where
  | single
  | spread
  | named (name : String)
  | spreadNamed
deriving DecidableEq, Repr

def ArgumentRole.isNamed : ArgumentRole → Bool
  | named _ | spreadNamed => true
  | _ => false

/-- An expression. The lines kept are those of names, constants and calls. -/
inductive Expr where
  /-- Stands where a part was left out. -/
  | absent
  | literal (value : Literal) (line : Nat)
  /-- A value that was worked out while the template was read. -/
  | constant (value : Value) (line : Nat)
  | name (text : String) (line : Nat)
  | list (items : List Expr) (line : Nat)
  | map (entries : List (Expr × Expr)) (line : Nat)
  | negate (operand : Expr)
  | not (operand : Expr)
  | binary (op : BinaryOp) (left right : Expr)
  /-- Comparisons in a row, each with what stands before it; all of them have to hold. -/
  | compare (first : Expr) (rest : List (Comparison × Expr))
  | both (left right : Expr)
  | either (left right : Expr)
  | choice (value condition otherwise : Expr)
  | field (target : Expr) (name : String)
  | item (target index : Expr)
  | slice (target start stop step : Expr)
  | filter (target : Expr) (name : String) (arguments : List (ArgumentRole × Expr))
  | test (target : Expr) (name : String) (arguments : List (ArgumentRole × Expr))
  | call (callee : Expr) (arguments : List (ArgumentRole × Expr)) (line : Nat)

def Expr.isLiteral : Expr → Bool
  | literal _ _ => true
  | _ => false

/-- Whether the named arguments of a call are all written as constants, so that they are read as
one. -/
def namedAreLiteral (arguments : List (ArgumentRole × Expr)) : Bool :=
  arguments.all fun (role, value) =>
    match role with
    | .named _ => value.isLiteral
    | .spreadNamed => false
    | _ => true

mutual
/-- The line that was read last once an expression has been read, where `before` was read last
before it. Parts are read from left to right, but a condition before what it chooses from, and
named arguments after all others. Lists of constants are read as one, and so are named arguments
that are all constant. -/
def Expr.lineAfter (before : Nat) : Expr → Nat
  | .absent => before
  | .literal _ line | .constant _ line | .name _ line => line
  | .list items line => if items.all Expr.isLiteral then line else lineAfterAll line items
  | .map entries line =>
    if entries.all fun (key, value) => key.isLiteral && value.isLiteral then line
    else lineAfterEntries line entries
  | .negate operand | .not operand | .field operand _ => operand.lineAfter before
  | .binary _ left right | .both left right | .either left right | .item left right =>
    right.lineAfter (left.lineAfter before)
  | .compare first rest => lineAfterComparisons (first.lineAfter before) rest
  | .choice value condition otherwise =>
    otherwise.lineAfter (value.lineAfter (condition.lineAfter before))
  | .slice target start stop step =>
    step.lineAfter (stop.lineAfter (start.lineAfter (target.lineAfter before)))
  | .filter target _ arguments | .test target _ arguments =>
    let positional := lineAfterRole false (target.lineAfter before) arguments
    if namedAreLiteral arguments then positional else lineAfterRole true positional arguments
  | .call callee arguments line =>
    let called :=
      match callee with
      | .name _ _ => line
      | .field target _ => target.lineAfter line
      | callee => callee.lineAfter line
    let positional := lineAfterRole false called arguments
    if namedAreLiteral arguments then positional else lineAfterRole true positional arguments

def lineAfterAll (before : Nat) : List Expr → Nat
  | [] => before
  | expr :: rest => lineAfterAll (expr.lineAfter before) rest

def lineAfterEntries (before : Nat) : List (Expr × Expr) → Nat
  | [] => before
  | (key, value) :: rest => lineAfterEntries (value.lineAfter (key.lineAfter before)) rest

def lineAfterComparisons (before : Nat) : List (Comparison × Expr) → Nat
  | [] => before
  | (_, operand) :: rest => lineAfterComparisons (operand.lineAfter before) rest

/-- The line after the arguments that are named, or after those that are not. -/
def lineAfterRole (named : Bool) (before : Nat) : List (ArgumentRole × Expr) → Nat
  | [] => before
  | (role, value) :: rest =>
    lineAfterRole named (if role.isNamed == named then value.lineAfter before else before) rest
end

def Expr.line (expr : Expr) : Nat :=
  expr.lineAfter 0

/-- What a value can be assigned to. -/
inductive Target where
  | name (text : String)
  | field (target : Expr) (name : String)
  | unpack (items : List Target) (line : Nat)

/-- A filter that is applied to text between tags. -/
structure AppliedFilter where
  name : String
  arguments : List (ArgumentRole × Expr)
  line : Nat

/-- A part of a template. The bodies of blocks are kept beside the template's own. -/
inductive Stmt where
  | text (content : String)
  | output (value : Expr)
  | branch (condition : Expr) (body otherwise : List Stmt)
  | forEach (target : Target) (items : Expr) (condition : Option Expr) (recursive : Bool)
    (body otherwise : List Stmt)
  | assign (target : Target) (value : Expr)
  | capture (target : Target) (filters : List AppliedFilter) (body : List Stmt)
  | within (bindings : List (Target × Expr)) (body : List Stmt) (line : Nat)
  | define (name : String) (parameters : List String) (defaults : List Expr) (body : List Stmt)
  | block (name : String) (line : Nat)
  | embed (template : Expr) (ignoreMissing : Bool) (line : Nat)
  | importAll (template : Expr) (target : Target) (line : Nat)
  | importNames (template : Expr) (names : List (Expr × String)) (line : Nat)
  | inherit (template : Expr) (line : Nat)

end Template

/-- A template that has been read. A block is listed by its name, also one inside of another. The
last line is the one on which its last token starts, if it has any. -/
structure Template where
  name : String
  body : List Template.Stmt
  blocks : List (String × List Template.Stmt)
  lastLine : Option Nat := none

end Stencil
