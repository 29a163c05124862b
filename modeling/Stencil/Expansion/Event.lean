import Stencil.Expansion.Error
import Stencil.Task

namespace Stencil.Expansion

inductive Level where
  | debug
  | info
  | warning
  | error
deriving DecidableEq, Repr

def Level.label : Level → String
  | debug => "DEBUG"
  | info => "INFO"
  | warning => "WARN"
  | error => "ERROR"

/-- What a pass tells about its course. -/
inductive Event where
  | duplicate (output : DuplicateOutput)
  | started (directives namespaces : Nat) (outputRoot : Path)
  | wrote (path : Path)
  | aborted (declaration : Declaration) (cause : Error)
  | completed (written : Nat)
  | generated (written : Nat) (outputRoot : Path)
deriving DecidableEq, Repr

namespace Event

def level : Event → Level
  | duplicate _ => .warning
  | started .. | completed _ | generated .. => .info
  | wrote _ => .debug
  | aborted .. => .error

/-- The line of an event; `describe` words the error that a line may end with. -/
def text (describe : Error → String) : Event → String
  | duplicate output =>
    "Output '" ++ output.outputName ++ "' declared " ++ toString output.occurrences ++
      " times in namespace '" ++ output.namespaceName ++ "', last declaration wins"
  | started directives namespaces outputRoot =>
    "Expanding " ++ toString directives ++ " directives in " ++ toString namespaces ++
      " namespaces into " ++ outputRoot.spelling
  | wrote path => "Wrote " ++ path.spelling
  | aborted declaration cause =>
    "Aborting expansion at '" ++ declaration.directive.outputName ++ "' in namespace '" ++
      declaration.namespaceName ++ "': " ++ describe cause
  | completed written => "Expansion complete, " ++ toString written ++ " files written"
  | generated written outputRoot =>
    "generation complete written=" ++ toString written ++ " output=" ++ outputRoot.spelling

end Stencil.Expansion.Event
