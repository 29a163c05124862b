import Stencil.Path
import Stencil.Template.Error

namespace Stencil.Expansion

/-- Why a pass stopped. The key of a template is the name it was asked for by. -/
inductive Error where
  | templateNotFound (path : Path)
  | templateSyntax (key : String) (cause : Template.Error)
  | render (key : String) (cause : Template.Error)
  | io (cause : String)
  | createDirectory (path : Path) (cause : String)
  | invalidOutputName (namespaceName outputName : String)
  | write (path : Path) (cause : String)
deriving DecidableEq, Repr

namespace Error

/-- Errors of the template's text are told apart from all that arise later. -/
def ofTemplate (key : String) (cause : Template.Error) : Error :=
  match cause.kind with
  | .syntaxError => .templateSyntax key cause
  | _ => .render key cause

def message : Error → String
  | templateNotFound path => "template not found: " ++ path.spelling
  | templateSyntax key cause => "template syntax error in '" ++ key ++ "': " ++ cause.message
  | render key cause => "render error in '" ++ key ++ "': " ++ cause.message
  | io cause => "IO error: " ++ cause
  | createDirectory path cause => "failed to create directory '" ++ path.spelling ++ "': " ++ cause
  | invalidOutputName namespaceName outputName =>
    "invalid output '" ++ outputName ++ "' in namespace '" ++ namespaceName ++ "'"
  | write path cause => "failed to write '" ++ path.spelling ++ "': " ++ cause

/-- The text of the failure underneath, for the errors that have one. -/
def source? : Error → Option String
  | io cause | createDirectory _ cause | write _ cause => some cause
  | _ => none

end Stencil.Expansion.Error
