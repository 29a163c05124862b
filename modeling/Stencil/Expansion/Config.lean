import Stencil.Engine
import Stencil.Path

namespace Stencil.Expansion

/-- Where templates are read, where sources are written, and how white space is treated. -/
structure Config where
  templateRoot : Path
  outputRoot : Path
  whitespace : Whitespace := {}
deriving DecidableEq, Repr

end Stencil.Expansion
