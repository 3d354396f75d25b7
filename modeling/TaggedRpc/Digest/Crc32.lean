import TaggedRpc.Bytes

/-!
# CRC-32

The cyclic redundancy check of 32 bits with the reflected polynomial
`0xEDB88320`: the remainder starts with all bits set, takes in the message bit
by bit from the least significant bit of each byte, and is complemented at the
end.
-/

namespace TaggedRpc.Digest

/-- Takes one bit into the remainder. -/
def crcBit (r : UInt32) : UInt32 :=
  if r &&& 1 = 1 then (r >>> 1) ^^^ 0xEDB88320 else r >>> 1

/-- Takes one byte into the remainder. -/
def crcByte (r : UInt32) (b : UInt8) : UInt32 :=
  (List.range 8).foldl (fun r _ => crcBit r) (r ^^^ UInt32.ofNat b.toNat)

/-- The CRC-32 of a byte string. -/
def crc32 (bs : Bytes) : UInt32 :=
  ~~~(bs.foldl crcByte 0xFFFFFFFF)

end TaggedRpc.Digest
