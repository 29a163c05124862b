import Stencil.Template.Operators

namespace Stencil.Template.Expr

def literals? : List Expr → Option (List Value)
  | [] => some []
  | .literal value _ :: rest => (literals? rest).map (value.value :: ·)
  | _ => none

def literalEntries? : List (Expr × Expr) → Option (List (Value × Value))
  | [] => some []
  | (.literal key _, .literal value _) :: rest =>
    (literalEntries? rest).map ((key.value, value.value) :: ·)
  | _ => none

/-- The value that an expression has wherever it stands. Lists and maps have one if all that is in
them is written as a constant. -/
def constant? : Expr → Option Value
  | .literal value _ => some value.value
  | .constant value _ => some value
  | .list items _ => (literals? items).map .list
  | .map entries _ =>
    (literalEntries? entries).map fun entries =>
      .map (entries.foldl (fun held (key, value) => Value.insertEntry key value held) [])
  | _ => none

/-- An expression with two operands, worked out at once if both are constant and it has a value. -/
def joined (combine : Value → Value → Option Value) (otherwise : Expr → Expr → Expr) (line : Nat)
    (left right : Expr) : Expr :=
  match left.constant?, right.constant? with
  | some a, some b =>
    match combine a b with
    | some value => .constant value line
    | none => otherwise left right
  | _, _ => otherwise left right

def ofBinary (op : BinaryOp) : Nat → Expr → Expr → Expr :=
  joined (fun a b => (Value.binary op a b).toOption) (.binary op)

/-- Between constants, what does not hold is false and not one of the operands. -/
def ofBoth : Nat → Expr → Expr → Expr :=
  joined (fun a b => some (if a.isTrue && b.isTrue then b else .flag false)) .both

def ofEither : Nat → Expr → Expr → Expr :=
  joined (fun a b => some (if a.isTrue then a else b)) .either

def ofComparison (comparison : Comparison) : Nat → Expr → Expr → Expr :=
  joined (fun a b => (Value.holds comparison a b).toOption.map .flag)
    fun left right => .compare left [(comparison, right)]

def ofNot (line : Nat) (operand : Expr) : Expr :=
  match operand.constant? with
  | some value => .constant (.flag !value.isTrue) line
  | none => .not operand

def ofNegation (line : Nat) (operand : Expr) : Expr :=
  match operand.constant?.bind fun value => value.negate.toOption with
  | some value => .constant value line
  | none => .negate operand

end Stencil.Template.Expr
