import TaggedRpc.Wire.Type

/-!
# Writing fields

A writer takes a value and a tag to the bytes of one field; a sequence of fields
is written by appending. Writing cannot fail.

Integers *shrink to fit*: a word goes in the narrowest of the four signed widths
that holds it, and zero in no bytes at all. An unsigned word goes as the next
wider signed one. A zero float, of either sign, goes as the number zero too.
-/

namespace TaggedRpc.Wire.Writer

/-- The head of a field. -/
def head (ty : WireType) (tag : Tag) : Bytes :=
  if tag.toNat < tagSentinel then [UInt8.ofNat (16 * tag.toNat + ty.code)]
  else [UInt8.ofNat (16 * tagSentinel + ty.code), tag]

/-! ## Numbers -/

/-- A signed byte. -/
def int8 (v : Int8) (tag : Tag) : Bytes :=
  if v = 0 then head .zero tag else head .byte tag ++ Bytes.ofInt 1 v.toInt

/-- A signed word of 16 bits. -/
def int16 (v : Int16) (tag : Tag) : Bytes :=
  if -128 ≤ v ∧ v ≤ 127 then int8 v.toInt8 tag else head .short tag ++ Bytes.ofInt 2 v.toInt

/-- A signed word of 32 bits. -/
def int32 (v : Int32) (tag : Tag) : Bytes :=
  if -32768 ≤ v ∧ v ≤ 32767 then int16 v.toInt16 tag
  else head .int tag ++ Bytes.ofInt 4 v.toInt

/-- A signed word of 64 bits. -/
def int64 (v : Int64) (tag : Tag) : Bytes :=
  if -2147483648 ≤ v ∧ v ≤ 2147483647 then int32 v.toInt32 tag
  else head .long tag ++ Bytes.ofInt 8 v.toInt

/-- A truth value, as the number 0 or 1. -/
def bool (v : Bool) (tag : Tag) : Bytes :=
  int8 (if v then 1 else 0) tag

/-- An unsigned byte. -/
def uint8 (v : UInt8) (tag : Tag) : Bytes :=
  int16 (Int16.ofNat v.toNat) tag

/-- An unsigned word of 16 bits. -/
def uint16 (v : UInt16) (tag : Tag) : Bytes :=
  int32 (Int32.ofNat v.toNat) tag

/-- An unsigned word of 32 bits. -/
def uint32 (v : UInt32) (tag : Tag) : Bytes :=
  int64 (Int64.ofNat v.toNat) tag

/-- The bits of a float of 32 bits. All bits but the sign are zero exactly in
    the two zeros. -/
def float32 (bits : UInt32) (tag : Tag) : Bytes :=
  if bits.toNat % 2 ^ 31 = 0 then head .zero tag
  else head .float tag ++ Bytes.ofNat 4 bits.toNat

/-- The bits of a float of 64 bits. -/
def float64 (bits : UInt64) (tag : Tag) : Bytes :=
  if bits.toNat % 2 ^ 63 = 0 then head .zero tag
  else head .double tag ++ Bytes.ofNat 8 bits.toNat

/-! ## Texts and byte sequences -/

/-- A text, after its length in bytes: in one byte where that fits, else in four. -/
def string (s : String) (tag : Tag) : Bytes :=
  let bs := Bytes.ofText s
  if bs.length < 256 then head .string1 tag ++ Bytes.ofNat 1 bs.length ++ bs
  else head .string4 tag ++ Bytes.ofNat 4 bs.length ++ bs

/-- A raw byte sequence, with no heads between the bytes. -/
def bytes (bs : Bytes) (tag : Tag) : Bytes :=
  head .simpleList tag ++ (head .byte 0 ++ (int32 (Int32.ofNat bs.length) 0 ++ bs))

/-! ## Containers -/

/-- The head and the count of a list; its elements follow, each at tag 0. -/
def listHeader (length : Nat) (tag : Tag) : Bytes :=
  head .list tag ++ int32 (Int32.ofNat length) 0

/-- The head and the count of a map; its pairs follow, each key at tag 0 and
    each value at tag 1. -/
def mapHeader (length : Nat) (tag : Tag) : Bytes :=
  head .map tag ++ int32 (Int32.ofNat length) 0

/-- The fields of a struct between its begin and its end. -/
def struct (body : Bytes) (tag : Tag) : Bytes :=
  head .structBegin tag ++ (body ++ head .structEnd 0)

end TaggedRpc.Wire.Writer
