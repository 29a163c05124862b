namespace Stencil.Template

/-- What went wrong while a template was loaded or rendered. -/
inductive ErrorKind where
  | syntaxError
  | undefinedValue
  | invalidOperation
  | missingArgument
  | tooManyArguments
  | unknownFilter
  | unknownTest
  | unknownFunction
  | unknownMethod
  | cannotUnpack
  | templateNotFound
  | badInclude
  | badBlock
  | badEscape
  | unknownBlock
deriving DecidableEq, Repr

def ErrorKind.text : ErrorKind → String
  | syntaxError => "syntax error"
  | undefinedValue => "undefined value"
  | invalidOperation => "invalid operation"
  | missingArgument => "missing argument"
  | tooManyArguments => "too many arguments"
  | unknownFilter => "unknown filter"
  | unknownTest => "unknown test"
  | unknownFunction => "unknown function"
  | unknownMethod => "unknown method"
  | cannotUnpack => "cannot unpack"
  | templateNotFound => "template not found"
  | badInclude => "could not render include"
  | badBlock => "could not render block"
  | badEscape => "bad string escape"
  | unknownBlock => "unknown block"

/-- A line of a template, counted from one. -/
structure Position where
  template : String
  line : Nat
deriving DecidableEq, Repr

structure Error where
  kind : ErrorKind
  detail : Option String := none
  position : Option Position := none
deriving DecidableEq, Repr

namespace Error

def ofKind (kind : ErrorKind) : Error where
  kind := kind

/-- An error keeps the first position that it is given. -/
def orAt (error : Error) (position : Position) : Error :=
  { error with position := error.position.or position }

def message (error : Error) : String :=
  error.kind.text ++
    (match error.detail with
      | some detail => ": " ++ detail
      | none => "") ++
    (match error.position with
      | some position => " (in " ++ position.template ++ ":" ++ toString position.line ++ ")"
      | none => "")

end Stencil.Template.Error
