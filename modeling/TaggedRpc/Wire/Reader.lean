import TaggedRpc.Wire.Error
import TaggedRpc.Float.Binary

/-!
# Reading fields

A *reader* stands somewhere in a byte string, inside some number of containers.
Reading is directed by tags: it asks for a tag, skips every field with a lower
one whole, and stops without consuming anything where the tag cannot come any
more, at a higher tag, at a struct end or at the end of the bytes. There a
required field is an error and an optional one is absent.

A read that fails leaves the reader where the failure was found.

* `Reader`, `Read`: the state, and computations that move it;
* `peekHead`, `seek`, `skipField`, `skipToStructEnd`: heads and skipping;
* `int8`, …, `string`, `bytes`: the payloads;
* `listLength`, `mapLength`, `enterStruct`, `nested`: containers.

Containers are counted: `maxNesting` of them may be inside one another. This
bounds the recursion of skipping; its loops are bounded by the bytes left, as
every turn consumes a head.
-/

namespace TaggedRpc.Wire

/-- A place in a byte string: the bytes ahead, the number of bytes behind, and
    the number of containers around. -/
structure Reader where
  /-- The bytes ahead. -/
  rest : Bytes
  /-- How many bytes are behind. -/
  pos : Nat := 0
  /-- How many containers are around. -/
  depth : Nat := 0
  deriving DecidableEq, Repr, Inhabited

/-- A computation that moves a reader and may fail. -/
abbrev Read := EStateM DecodeError Reader

/-- A reader at the start of a byte string. -/
def Reader.ofBytes (bs : Bytes) : Reader := { rest := bs }

/-- What a head says: the wire type, the tag, and its own size in bytes. -/
structure Head where
  /-- The wire type of the payload that follows. -/
  type : WireType
  /-- The tag of the field. -/
  tag : Tag
  /-- One byte, or two with a tag of its own byte. -/
  size : Nat
  deriving DecidableEq, Repr

namespace Read

/-! ## Bytes -/

/-- The next `n` bytes. -/
def take (n : Nat) : Read Bytes := fun r =>
  let bs := r.rest.take n
  if bs.length < n then .error (.unexpectedEnd r.pos n) r
  else .ok bs { r with rest := r.rest.drop n, pos := r.pos + n }

/-- Passes over `n` bytes. -/
def skip (n : Nat) : Read Unit := do
  let _ ← take n

/-- An unsigned word of `width` bytes. -/
def rawNat (width : Nat) : Read Nat :=
  Bytes.toNat <$> take width

/-- A signed word of `width` bytes. -/
def rawInt (width : Nat) : Read Int :=
  Bytes.toInt <$> take width

/-- Runs a body one container deeper, unless that is too deep. The depth is the
    old one afterwards, also where the body fails. -/
def deeper {α : Type} (body : Read α) : Read α := fun r =>
  if r.depth < maxNesting then
    match body { r with depth := r.depth + 1 } with
    | .ok a s => .ok a { s with depth := s.depth - 1 }
    | .error e s => .error e { s with depth := s.depth - 1 }
  else .error (.tooDeep maxNesting) r

/-- Runs a step a number of times. -/
def times (step : Read Unit) : Nat → Read Unit
  | 0 => pure ()
  | n + 1 => do step; times step n

/-- Runs a step a number of times and lists the answers. -/
def replicate {α : Type} (step : Read α) : Nat → Read (List α)
  | 0 => pure []
  | n + 1 => do
    let a ← step
    let rest ← replicate step n
    pure (a :: rest)

/-! ## Heads -/

/-- The next head, without consuming it. The code of the wire type is judged
    before a tag in the second byte is. -/
def peekHead : Read Head := fun r =>
  match r.rest with
  | [] => .error (.unexpectedEnd r.pos 1) r
  | first :: more =>
    match WireType.ofCode? (first.toNat % 16) with
    | none => .error (.invalidType (first.toNat % 16)) r
    | some type =>
      if first.toNat / 16 < tagSentinel then .ok ⟨type, UInt8.ofNat (first.toNat / 16), 1⟩ r
      else
        match more with
        | [] => .error (.unexpectedEnd (r.pos + 1) 1) r
        | tag :: _ => .ok ⟨type, tag, 2⟩ r

/-- The next head, consumed. -/
def head : Read Head := do
  let h ← peekHead
  skip h.size
  pure h

/-- The payload of an integer written in at most `widest`. -/
def intPayload (type : WireType) (tag : Tag) (widest : WireType) (expected : String) : Read Int :=
  if type = .zero then pure 0
  else if type = .byte then rawInt 1
  else if type = .short ∧ type.code ≤ widest.code then rawInt 2
  else if type = .int ∧ type.code ≤ widest.code then rawInt 4
  else if type = .long ∧ type.code ≤ widest.code then rawInt 8
  else throw (.typeMismatch tag expected type)

/-- The count of a container: a field with tag 0 of its own, right ahead. Every
    element takes at least one byte, so a count beyond the bytes left is
    refused before anything is read. -/
def length : Read Nat := do
  let r ← get
  if r.rest.isEmpty then throw (.missingTag 0)
  let h ← peekHead
  if h.type = .structEnd ∨ 0 < h.tag then throw (.missingTag 0)
  skip h.size
  let n ← intPayload h.type 0 .int "int32"
  let r ← get
  if n < 0 ∨ (r.rest.length : Int) < n then throw (.invalidLength 0 n)
  pure n.toNat

/-- The bytes of a raw byte sequence, after its head. -/
def simpleListPayload (tag : Tag) : Read Bytes := do
  let element ← head
  if element.type ≠ .byte then throw (.typeMismatch tag "byte" element.type)
  take (← length)

/-- The bytes of a text, after its head. -/
def stringPayload (type : WireType) (tag : Tag) : Read Bytes := do
  match type with
  | .string1 => take (← rawNat 1)
  | .string4 => take (← rawNat 4)
  | found => throw (.typeMismatch tag "string" found)

/-! ## Skipping -/

/-- Skips fields up to and including a struct end, each payload with
    `skipPayload`. Every turn consumes a head, so as many turns as there are
    bytes reach the end of the bytes. -/
def untilStructEnd (skipPayload : WireType → Read Unit) : (turns : Nat) → Read Unit
  | 0 => do let _ ← head
  | turns + 1 => do
    let h ← head
    if h.type = .structEnd then pure ()
    else do
      skipPayload h.type
      untilStructEnd skipPayload turns

/-- Skips the payload of a field whose head is behind, the payloads inside
    containers with `inner`. -/
def skipPayload (inner : WireType → Read Unit) : WireType → Read Unit
  | .byte => skip 1
  | .short => skip 2
  | .int | .float => skip 4
  | .long | .double => skip 8
  | .string1 => do skip (← rawNat 1)
  | .string4 => do skip (← rawNat 4)
  | .map => do
    let n ← length
    deeper (times (do inner (← head).type) (2 * n))
  | .list => do
    let n ← length
    deeper (times (do inner (← head).type) n)
  | .simpleList => do
    let _ ← simpleListPayload 0
  | .structBegin => deeper do untilStructEnd inner (← get).rest.length
  | .structEnd | .zero => pure ()

/-- Skips a payload with at most `levels` containers inside one another. -/
def skipWithin : (levels : Nat) → WireType → Read Unit
  | 0 => skipPayload fun _ => throw (.tooDeep maxNesting)
  | levels + 1 => skipPayload (skipWithin levels)

/-- Skips the payload of a field whose head is behind. -/
def skipField (type : WireType) : Read Unit := do
  skipWithin (maxNesting - (← get).depth) type

/-- Skips a whole field. -/
def skipAny : Read Unit := do
  skipField (← head).type

/-- Skips the rest of a struct, its end included. -/
def skipToStructEnd : Read Unit := do
  untilStructEnd skipField (← get).rest.length

/-- Advances to the field at `tag` and past its head, and says its wire type, or
    stops where the field is absent. Every turn but the last consumes a head. -/
def seekWithin (tag : Tag) : (turns : Nat) → Read (Option WireType)
  | 0 => pure none
  | turns + 1 => do
    if (← get).rest.isEmpty then pure none
    else do
      let h ← peekHead
      if h.type = .structEnd ∨ tag < h.tag then pure none
      else do
        skip h.size
        if h.tag = tag then pure (some h.type)
        else do
          skipField h.type
          seekWithin tag turns

/-- Advances to the field at `tag`. -/
def seek (tag : Tag) (required : Bool) : Read (Option WireType) := do
  match ← seekWithin tag (← get).rest.length with
  | some type => pure (some type)
  | none => if required then throw (.missingTag tag) else pure none

/-- Reads the field at `tag` with a reader for its payload. -/
def field {α : Type} (tag : Tag) (required : Bool) (payload : WireType → Read α) :
    Read (Option α) := do
  match ← seek tag required with
  | some type => some <$> payload type
  | none => pure none

/-! ## Numbers -/

/-- A signed byte. -/
def int8 (tag : Tag) (required : Bool) : Read (Option Int8) :=
  field tag required fun ty => Int8.ofInt <$> intPayload ty tag .byte "int8"

/-- A signed word of 16 bits. -/
def int16 (tag : Tag) (required : Bool) : Read (Option Int16) :=
  field tag required fun ty => Int16.ofInt <$> intPayload ty tag .short "int16"

/-- A signed word of 32 bits. -/
def int32 (tag : Tag) (required : Bool) : Read (Option Int32) :=
  field tag required fun ty => Int32.ofInt <$> intPayload ty tag .int "int32"

/-- A signed word of 64 bits. -/
def int64 (tag : Tag) (required : Bool) : Read (Option Int64) :=
  field tag required fun ty => Int64.ofInt <$> intPayload ty tag .long "int64"

/-- A truth value: every number but zero is true. -/
def bool (tag : Tag) (required : Bool) : Read (Option Bool) := do
  pure ((← int8 tag required).map (· != 0))

/-- A number that must not exceed `bound`, nor be negative. -/
def unsigned (tag : Tag) (bound : Nat) (target : String) : Option Int → Read (Option Nat)
  | none => pure none
  | some v =>
    if 0 ≤ v ∧ v ≤ bound then pure (some v.toNat) else throw (.outOfRange tag v target)

/-- An unsigned byte. -/
def uint8 (tag : Tag) (required : Bool) : Read (Option UInt8) := do
  let v ← int16 tag required
  pure ((← unsigned tag 0xFF "uint8" (v.map Int16.toInt)).map UInt8.ofNat)

/-- An unsigned word of 16 bits. -/
def uint16 (tag : Tag) (required : Bool) : Read (Option UInt16) := do
  let v ← int32 tag required
  pure ((← unsigned tag 0xFFFF "uint16" (v.map Int32.toInt)).map UInt16.ofNat)

/-- An unsigned word of 32 bits. -/
def uint32 (tag : Tag) (required : Bool) : Read (Option UInt32) := do
  let v ← int64 tag required
  pure ((← unsigned tag 0xFFFFFFFF "uint32" (v.map Int64.toInt)).map UInt32.ofNat)

/-! ## Floats -/

/-- The bits of a float of 32 bits. -/
def float32 (tag : Tag) (required : Bool) : Read (Option UInt32) :=
  field tag required fun
    | .zero => pure 0
    | .float => UInt32.ofNat <$> rawNat 4
    | found => throw (.typeMismatch tag "float" found)

/-- The bits of a float of 64 bits. A float of 32 bits is widened. -/
def float64 (tag : Tag) (required : Bool) : Read (Option UInt64) :=
  field tag required fun
    | .zero => pure 0
    | .float => (fun n => Float.widen (UInt32.ofNat n)) <$> rawNat 4
    | .double => UInt64.ofNat <$> rawNat 8
    | found => throw (.typeMismatch tag "double" found)

/-! ## Texts and byte sequences -/

/-- A text. -/
def string (tag : Tag) (required : Bool) : Read (Option String) :=
  field tag required fun ty => do
    match Bytes.text? (← stringPayload ty tag) with
    | some s => pure s
    | none => throw (.invalidText tag)

/-- A byte sequence, written raw or as a list of signed bytes. -/
def bytes (tag : Tag) (required : Bool) : Read (Option Bytes) :=
  field tag required fun
    | .simpleList => simpleListPayload tag
    | .list => do
      replicate (do pure (((← int8 0 true).getD 0).toUInt8)) (← length)
    | found => throw (.typeMismatch tag "bytes" found)

/-! ## Containers -/

/-- The number of elements of a list, each of which is at tag 0. A raw byte
    sequence is refused. -/
def listLength (tag : Tag) (required : Bool) : Read (Option Nat) :=
  field tag required fun
    | .list => length
    | .simpleList => throw (.simpleListElement tag)
    | found => throw (.typeMismatch tag "list" found)

/-- The number of pairs of a map. -/
def mapLength (tag : Tag) (required : Bool) : Read (Option Nat) :=
  field tag required fun
    | .map => length
    | found => throw (.typeMismatch tag "map" found)

/-- Steps past the begin of a struct. Says whether there is one. -/
def enterStruct (tag : Tag) (required : Bool) : Read Bool := do
  pure (← field tag required fun
    | .structBegin => pure ()
    | found => throw (.typeMismatch tag "struct" found)).isSome

/-- Reads the fields of a struct whose begin is behind, then skips the fields
    that are left, and the end. -/
def nested {α : Type} (body : Read α) : Read α :=
  deeper do
    let a ← body
    skipToStructEnd
    pure a

end Read

/-- Runs a computation on a byte string and forgets the reader. -/
def Read.runOn {α : Type} (x : Read α) (bs : Bytes) : Except DecodeError α :=
  match x (Reader.ofBytes bs) with
  | .ok a _ => .ok a
  | .error e _ => .error e

end TaggedRpc.Wire
