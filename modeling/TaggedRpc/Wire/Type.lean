import TaggedRpc.Bytes

/-!
# Wire types

A field on the wire starts with a *head*: a byte whose high half is the field's
tag and whose low half is the code of its *wire type*, which says how the
payload is laid out. A tag that does not fit the high half puts the sentinel 15
there and follows in a byte of its own.

There are fourteen wire types, with the codes 0 to 13; no wire type has the
code 14 or 15.
-/

namespace TaggedRpc.Wire

/-- The number that tells the fields of a struct apart. -/
abbrev Tag := UInt8

/-- The high half of a head byte that says that the tag is in the next byte. -/
def tagSentinel : Nat := 15

/-- How many containers may be inside one another. -/
def maxNesting : Nat := 64

/-- How the payload of a field is laid out. -/
inductive WireType where
  /-- One signed byte. -/
  | byte
  /-- A signed word of two bytes. -/
  | short
  /-- A signed word of four bytes. -/
  | int
  /-- A signed word of eight bytes. -/
  | long
  /-- A binary float of four bytes. -/
  | float
  /-- A binary float of eight bytes. -/
  | double
  /-- A text after its length in one byte. -/
  | string1
  /-- A text after its length in four bytes. -/
  | string4
  /-- A count and that many pairs of a key and a value. -/
  | map
  /-- A count and that many elements. -/
  | list
  /-- The fields of a struct, up to a struct end. -/
  | structBegin
  /-- The end of the fields of a struct. -/
  | structEnd
  /-- The number zero, with no payload. -/
  | zero
  /-- A count and that many raw bytes. -/
  | simpleList
  deriving DecidableEq, Repr, Inhabited

namespace WireType

/-- The code of a wire type in the low half of a head byte. -/
def code : WireType → Nat
  | byte => 0
  | short => 1
  | int => 2
  | long => 3
  | float => 4
  | double => 5
  | string1 => 6
  | string4 => 7
  | map => 8
  | list => 9
  | structBegin => 10
  | structEnd => 11
  | zero => 12
  | simpleList => 13

/-- The wire type with a given code. -/
def ofCode? : Nat → Option WireType
  | 0 => some byte
  | 1 => some short
  | 2 => some int
  | 3 => some long
  | 4 => some float
  | 5 => some double
  | 6 => some string1
  | 7 => some string4
  | 8 => some map
  | 9 => some list
  | 10 => some structBegin
  | 11 => some structEnd
  | 12 => some zero
  | 13 => some simpleList
  | _ => none

/-- The name of a wire type in messages. -/
def name : WireType → String
  | byte => "byte"
  | short => "short"
  | int => "int"
  | long => "long"
  | float => "float"
  | double => "double"
  | string1 => "string1"
  | string4 => "string4"
  | map => "map"
  | list => "list"
  | structBegin => "struct_begin"
  | structEnd => "struct_end"
  | zero => "zero"
  | simpleList => "simple_list"

@[simp] theorem ofCode?_code (t : WireType) : ofCode? t.code = some t := by
  cases t <;> rfl

/-- A code leaves room for the tag in the other half of the head byte. -/
theorem code_lt (t : WireType) : t.code < 14 := by
  cases t <;> decide

theorem ofCode?_eq_some {n : Nat} {t : WireType} (h : ofCode? n = some t) : n = t.code := by
  unfold ofCode? at h
  split at h <;> first | (cases h; rfl) | cases h

end WireType

end TaggedRpc.Wire
