import TaggedRpc.Bytes

/-!
# Frames

On a stream, packets go in *frames*: four bytes with the length of the whole
frame, themselves included, and then the body. A length is big-endian and
unsigned. What stands at the front of a buffer is a complete frame, the
beginning of one, or a header that declares an impossible length.
-/

namespace TaggedRpc.Frame

/-- The size of the header that declares the length. -/
def headerSize : Nat := 4

/-- The greatest length of a frame that is taken unless another is set. -/
def defaultMaxLength : Nat := 10 * 1024 * 1024

/-- What stands at the front of a buffer. -/
inductive Status where
  /-- More bytes are needed. -/
  | incomplete
  /-- A frame of that many bytes, its header included. -/
  | complete (length : Nat)
  /-- A header that declares fewer bytes than itself or more than are taken. -/
  | invalid (declared : Nat)
  deriving DecidableEq, Repr

/-- Judges the front of a buffer. -/
def parse (buffer : Bytes) (maxLength : Nat) : Status :=
  let header := buffer.take headerSize
  if header.length < headerSize then .incomplete
  else
    let declared := Bytes.toNat header
    if declared < headerSize ∨ maxLength < declared then .invalid declared
    else if (buffer.take declared).length < declared then .incomplete
    else .complete declared

/-- The frame around a body. The length is the one modulo 2 ^ 32. -/
def pack (body : Bytes) : Bytes :=
  Bytes.ofNat headerSize (headerSize + body.length) ++ body

/-- The body of a frame. -/
def body (frame : Bytes) : Bytes :=
  frame.drop headerSize

end TaggedRpc.Frame
