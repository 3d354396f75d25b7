import TaggedRpc.Digest.Text

/-!
# Hash keys

A call may ask to be routed by a hash: a code of 32 bits, and whether it counts
modulo the number of endpoints or on the ring. A key made from a text has the
digest of the text that goes with its kind.
-/

namespace TaggedRpc

/-- A request to be routed by a hash. -/
inductive HashKey where
  /-- Modulo the number of endpoints. -/
  | modulo (code : UInt32)
  /-- By the owner on the ring. -/
  | ring (code : UInt32)
  deriving DecidableEq, Repr, Inhabited

namespace HashKey

/-- The key of a text modulo the number of endpoints. -/
def moduloOf (s : String) : HashKey := .modulo (Digest.fivefold s)

/-- The key of a text on the ring. -/
def ringOf (s : String) : HashKey := .ring (Digest.mixed s)

end HashKey

end TaggedRpc
