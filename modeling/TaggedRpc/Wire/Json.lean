import TaggedRpc.Json.Basic
import TaggedRpc.Text.Number
import TaggedRpc.Wire.Schema

/-!
# Values as JSON

How tools show a typed value, and take one in. A struct is an object with its
fields by name, a map is an array of pairs. A number of 64 bits is a text of
digits, as many readers of JSON do not have room for it. A float is a text as well,
its bits in hexadecimal digits, so that nothing is lost; all floats that are not
numbers are shown alike. Data as a whole is hexadecimal digits, while signed and
unsigned bytes are arrays of numbers.

* `Schema.toJson`: a value as JSON;
* `Schema.ofJson`: the value that JSON shows. What is missing or of the wrong kind
  has the default of its type.
-/

namespace TaggedRpc.Wire

/-! ## Bytes and floats -/

/-- Bytes as JSON. -/
def ByteKind.toJson (kind : ByteKind) (bs : Bytes) : Json :=
  match kind with
  | .signed => .array (bs.map fun b => .int b.toInt8.toInt)
  | .unsigned => .array (bs.map fun b => .nat b.toNat)
  | .blob => .string (Bytes.hex bs)

/-- A float of 32 bits as JSON. -/
def float32Json (bits : UInt32) : Json :=
  .string (if Float.isNaN32 bits then "nan" else Bytes.hex (Bytes.ofNat 4 bits.toNat))

/-- A float of 64 bits as JSON. -/
def float64Json (bits : UInt64) : Json :=
  .string (if Float.isNaN64 bits then "nan" else Bytes.hex (Bytes.ofNat 8 bits.toNat))

/-- The bytes that hexadecimal digits show. -/
def blobOfJson : Json → Bytes
  | .string s => (Bytes.ofHex? s).getD []
  | _ => []

/-- The integer that a number or a text of digits shows. -/
def intOfJson : Json → Int
  | .number n => n.int?.getD 0
  | .string s =>
    match s.toList with
    | '-' :: cs => -((Text.digits? cs).getD 0 : Nat)
    | cs => (Text.digits? cs).getD 0
  | _ => 0

/-- The bytes that JSON shows. -/
def ByteKind.ofJson (kind : ByteKind) (j : Json) : Bytes :=
  match kind, j with
  | .blob, j => blobOfJson j
  | _, .array elements => elements.map fun v => UInt8.ofInt (intOfJson v)
  | _, _ => []

namespace Schema

variable (σ : Schema)

/-! ## Showing values -/

mutual

/-- A value of a type as JSON. A value of another type is null. -/
def toJson : Ty → Val → Json
  | .bool, .bool v => .bool v
  | .int .int64, .int v => .string (toString v)
  | .int _, .int v => .int v
  | .float32, .float32 bits => float32Json bits
  | .float64, .float64 bits => float64Json bits
  | .string, .string s => .string s
  | .bytes kind, .bytes bs => kind.toJson bs
  | .list t, .list vs => .array (elementsToJson t vs)
  | .map k v, .map ps => .array (pairsToJson k v ps)
  | .struct name, .struct vs => .object (membersToJson (σ.layout name) vs)
  | _, _ => .null

/-- The elements of a list. -/
def elementsToJson (t : Ty) : List Val → List Json
  | [] => []
  | v :: vs => toJson t v :: elementsToJson t vs

/-- The pairs of a map. -/
def pairsToJson (kt vt : Ty) : List (Val × Val) → List Json
  | [] => []
  | (k, v) :: ps => .array [toJson kt k, toJson vt v] :: pairsToJson kt vt ps

/-- The fields of a struct. -/
def membersToJson : Layout → List Val → List (Option String × Json)
  | f :: fs, v :: vs => (some f.name, toJson f.type v) :: membersToJson fs vs
  | _, _ => []

end

/-! ## Taking values in -/

mutual

/-- The value of a type that JSON shows. -/
def ofJson : Ty → Json → Val
  | .bool, .bool v => .bool v
  | .int _, j => .int (intOfJson j)
  | .float32, j => .float32 (UInt32.ofNat (Bytes.toNat (blobOfJson j)))
  | .float64, j => .float64 (UInt64.ofNat (Bytes.toNat (blobOfJson j)))
  | .string, .string s => .string s
  | .bytes kind, j => .bytes (kind.ofJson j)
  | .list t, .array vs => .list (elementsOfJson t vs)
  | .map k v, .array ps => .map (Val.ofPairs (pairsOfJson k v ps))
  | .struct name, .object ms =>
    let given := membersOfJson (σ.layout name) ms
    .struct ((σ.layout name).map fun f => (given.lookup f.name).getD (σ.default f.type))
  | t, _ => σ.default t

/-- The elements of a list. -/
def elementsOfJson (t : Ty) : List Json → List Val
  | [] => []
  | j :: js => ofJson t j :: elementsOfJson t js

/-- The pairs of a map. What is no pair is passed over. -/
def pairsOfJson (kt vt : Ty) : List Json → List (Val × Val)
  | [] => []
  | .array [k, v] :: js => (ofJson kt k, ofJson vt v) :: pairsOfJson kt vt js
  | _ :: js => pairsOfJson kt vt js

/-- The fields of a struct by name. Members of other names are passed over. -/
def membersOfJson (fields : Layout) : List (Option String × Json) → List (String × Val)
  | [] => []
  | (key, j) :: ms =>
    match fields.find? fun f => key == some f.name with
    | some f => (f.name, ofJson f.type j) :: membersOfJson fields ms
    | none => membersOfJson fields ms

end

end Schema

end TaggedRpc.Wire
