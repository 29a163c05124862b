import Stencil.KeyStream

namespace Stencil

/-- A source of literals that depend on a seed and on the order of the draws only. -/
structure Constants where
  stream : KeyStream
deriving DecidableEq, Repr

namespace Constants

def ofSeed (seed : Int64) : Constants where
  stream := .ofKey (.ofSeed seed.toUInt64)

def nextSerialVersionUid (constants : Constants) : String × Constants :=
  let (drawn, stream) := constants.stream.nextPair
  (toString drawn.toInt64.toInt ++ "L", ⟨stream⟩)

def nextHashMagic (constants : Constants) : String × Constants :=
  let (drawn, stream) := constants.stream.next
  (toString drawn.toInt32.toInt, ⟨stream⟩)

theorem nextSerialVersionUid_eq (constants : Constants) :
    constants.nextSerialVersionUid =
      (toString constants.stream.nextPair.1.toInt64.toInt ++ "L", ⟨constants.stream.nextPair.2⟩) :=
  rfl

theorem nextHashMagic_eq (constants : Constants) :
    constants.nextHashMagic =
      (toString constants.stream.next.1.toInt32.toInt, ⟨constants.stream.next.2⟩) :=
  rfl

end Stencil.Constants
