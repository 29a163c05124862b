import Stencil.Model
import Stencil.Path

namespace Stencil

/-- One source to generate: its name, what it is about, and the template it is made from. -/
structure Directive where
  outputName : String
  model : Model
  templateName : String
deriving DecidableEq, Repr

/-- A directive together with the name of the namespace it was declared in. -/
structure Declaration where
  namespaceName : String
  directive : Directive
deriving DecidableEq, Repr

structure Namespace where
  name : String
  directives : List Directive := []
deriving DecidableEq, Repr

def Namespace.declarations (ns : Namespace) : List Declaration :=
  ns.directives.map fun directive => ⟨ns.name, directive⟩

theorem Namespace.length_declarations (ns : Namespace) :
    ns.declarations.length = ns.directives.length :=
  List.length_map ..

def templateSuffix : String := ".java.ftl"

def outputSuffix : String := ".java"

/-- A name that stays where it is put when it becomes a step of a path. -/
def isPlainSegment (segment : String) : Bool :=
  !segment.isEmpty && segment != "." && segment != ".." &&
    !segment.toList.contains '/' && !segment.toList.contains '\\'

namespace Declaration

def segments (declaration : Declaration) : List String :=
  Text.pieces '.' declaration.namespaceName

/-- The namespace's name with slashes for its dots, as text. -/
def directoryText (declaration : Declaration) : String :=
  declaration.namespaceName.map fun c => if c = '.' then '/' else c

/-- The namespace's segments joined to a path, which need not spell as `directoryText` does. -/
def directory (declaration : Declaration) : Path :=
  Path.joinAll ⟨""⟩ declaration.segments

/-- The name under which the template is asked for. -/
def templateKey (declaration : Declaration) : String :=
  declaration.directoryText ++ "/" ++ declaration.directive.templateName ++ templateSuffix

def templateFile (declaration : Declaration) (templateRoot : Path) : Path :=
  (templateRoot.join declaration.directory).join ⟨declaration.directive.templateName ++ templateSuffix⟩

def outputFile (declaration : Declaration) (outputRoot : Path) : Path :=
  (outputRoot.join declaration.directory).join ⟨declaration.directive.outputName ++ outputSuffix⟩

/-- Whether the output stays below every root that it is put under. -/
def isContained (declaration : Declaration) : Bool :=
  declaration.segments.all isPlainSegment && isPlainSegment declaration.directive.outputName

end Stencil.Declaration
