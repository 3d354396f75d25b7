import TaggedRpc.Wire.Writer
import TaggedRpc.Wire.Reader

/-!
# Typed fields

A *type* says how a value is written as one field and read back: scalars, byte
sequences, lists, maps, and structs. A struct is a list of fields with their
tags, its *layout*; layouts have names, so that a struct can hold lists of
itself. A *schema* gives every name its layout.

A byte sequence is a type of its own: it goes raw on the wire, while a list
writes a head for every element. The pairs of a map go in the order in which
the value lists them: sorted by key for an ordered map, in any order for a hash
map. Reading a map always sorts, and of two pairs with one key keeps the later.

* `Schema.encode`, `Schema.decode`: one field, between struct begin and end if
  the type is a struct;
* `Schema.encodeFields`, `Schema.decodeFields`: the bare fields of a struct.

An optional field that is absent reads as the *default* of its type: zero, the
empty text or container, or the struct of all defaults.
-/

namespace TaggedRpc.Wire

/-! ## Types and values -/

/-- The integer types. -/
inductive IntType where
  | int8 | int16 | int32 | int64 | uint8 | uint16 | uint32
  deriving DecidableEq, Repr

/-- What the bytes of a byte sequence are to its readers. The wire does not tell. -/
inductive ByteKind where
  /-- Numbers from -128 to 127. -/
  | signed
  /-- Numbers from 0 to 255. -/
  | unsigned
  /-- A piece of data as a whole. -/
  | blob
  deriving DecidableEq, Repr

/-- The type of a field. -/
inductive Ty where
  /-- A truth value. -/
  | bool
  /-- An integer. -/
  | int (width : IntType)
  /-- A float of 32 bits. -/
  | float32
  /-- A float of 64 bits. -/
  | float64
  /-- A text. -/
  | string
  /-- A sequence of bytes. -/
  | bytes (kind : ByteKind)
  /-- A list of anything but bytes. -/
  | list (element : Ty)
  /-- A map, ordered or hashed. -/
  | map (key value : Ty)
  /-- The struct with a given name. -/
  | struct (name : String)
  deriving DecidableEq, Repr, Inhabited

/-- A value of some type. Floats are their bits; the fields of a struct are in
    the order of its layout. -/
inductive Val where
  | bool (v : Bool)
  | int (v : Int)
  | float32 (bits : UInt32)
  | float64 (bits : UInt64)
  | string (v : String)
  | bytes (v : Bytes)
  | list (elements : List Val)
  | map (pairs : List (Val × Val))
  | struct (fields : List Val)
  deriving Repr, Inhabited

/-- One field of a layout. -/
structure FieldType where
  /-- What the field is called. -/
  name : String
  /-- The tag of the field. -/
  tag : Tag
  /-- Whether the field must be present. -/
  required : Bool
  /-- The type of the field. -/
  type : Ty
  deriving DecidableEq, Repr

/-- The fields of a struct, in the order in which they are written and read. -/
abbrev Layout := List FieldType

/-- The layouts of the structs that have names. -/
abbrev Schema := List (String × Layout)

/-- The layout of a struct. -/
def Schema.layout (σ : Schema) (name : String) : Layout :=
  (σ.lookup name).getD []

/-! ## The order of keys -/

namespace Val

/-- Where a kind of value stands among the kinds. -/
def rank : Val → Nat
  | bool _ => 0
  | int _ => 1
  | float32 _ => 2
  | float64 _ => 3
  | string _ => 4
  | bytes _ => 5
  | list _ => 6
  | map _ => 7
  | struct _ => 8

mutual

/-- The order of the keys of a map: numbers by size, texts by code points, which
    is the order of their bytes, containers element by element. -/
def compare : Val → Val → Ordering
  | bool a, bool b => Ord.compare a.toNat b.toNat
  | int a, int b => Ord.compare a b
  | float32 a, float32 b => Ord.compare a.toNat b.toNat
  | float64 a, float64 b => Ord.compare a.toNat b.toNat
  | string a, string b => Ord.compare a b
  | bytes a, bytes b => compareOfLessAndEq a b
  | list a, list b => compareAll a b
  | struct a, struct b => compareAll a b
  | map a, map b => comparePairs a b
  | a, b => Ord.compare a.rank b.rank

/-- The order of the elements of two lists or structs: the first difference
    decides, and the shorter one is less if it is a beginning of the other. -/
def compareAll : List Val → List Val → Ordering
  | [], [] => .eq
  | [], _ :: _ => .lt
  | _ :: _, [] => .gt
  | a :: as, b :: bs => (compare a b).then (compareAll as bs)

/-- The order of the pairs of two maps. -/
def comparePairs : List (Val × Val) → List (Val × Val) → Ordering
  | [], [] => .eq
  | [], _ :: _ => .lt
  | _ :: _, [] => .gt
  | (k, v) :: as, (l, w) :: bs => ((compare k l).then (compare v w)).then (comparePairs as bs)

end

/-- Puts a pair into a map that is sorted by key, in place of the pair with the
    same key if there is one. -/
def insertPair (k v : Val) : List (Val × Val) → List (Val × Val)
  | [] => [(k, v)]
  | (l, w) :: rest =>
    match compare k l with
    | .lt => (k, v) :: (l, w) :: rest
    | .eq => (k, v) :: rest
    | .gt => (l, w) :: insertPair k v rest

/-- The map of a list of pairs: sorted by key, of two pairs with one key the later. -/
def ofPairs (pairs : List (Val × Val)) : List (Val × Val) :=
  pairs.foldl (fun m (k, v) => insertPair k v m) []

end Val

namespace Schema

variable (σ : Schema)

/-! ## Writing -/

/-- Writes an integer at the width of its type. -/
def encodeInt : IntType → Int → Tag → Bytes
  | .int8, v, tag => Writer.int8 (Int8.ofInt v) tag
  | .int16, v, tag => Writer.int16 (Int16.ofInt v) tag
  | .int32, v, tag => Writer.int32 (Int32.ofInt v) tag
  | .int64, v, tag => Writer.int64 (Int64.ofInt v) tag
  | .uint8, v, tag => Writer.uint8 (UInt8.ofNat v.toNat) tag
  | .uint16, v, tag => Writer.uint16 (UInt16.ofNat v.toNat) tag
  | .uint32, v, tag => Writer.uint32 (UInt32.ofNat v.toNat) tag

mutual

/-- Writes a value of a type as one field. A value of another type writes nothing. -/
def encode : Ty → Val → Tag → Bytes
  | .bool, .bool v, tag => Writer.bool v tag
  | .int t, .int v, tag => encodeInt t v tag
  | .float32, .float32 bits, tag => Writer.float32 bits tag
  | .float64, .float64 bits, tag => Writer.float64 bits tag
  | .string, .string s, tag => Writer.string s tag
  | .bytes _, .bytes bs, tag => Writer.bytes bs tag
  | .list t, .list vs, tag => Writer.listHeader vs.length tag ++ encodeElements t vs
  | .map k v, .map ps, tag => Writer.mapHeader ps.length tag ++ encodePairs k v ps
  | .struct name, .struct vs, tag => Writer.struct (encodeFields (σ.layout name) vs) tag
  | _, _, _ => []

/-- Writes the elements of a list, each at tag 0. -/
def encodeElements (t : Ty) : List Val → Bytes
  | [] => []
  | v :: vs => encode t v 0 ++ encodeElements t vs

/-- Writes the pairs of a map, each key at tag 0 and each value at tag 1. -/
def encodePairs (kt vt : Ty) : List (Val × Val) → Bytes
  | [] => []
  | (k, v) :: ps => encode kt k 0 ++ (encode vt v 1 ++ encodePairs kt vt ps)

/-- Writes the fields of a struct, without its begin and end. -/
def encodeFields : Layout → List Val → Bytes
  | f :: fs, v :: vs => encode f.type v f.tag ++ encodeFields fs vs
  | _, _ => []

end

/-! ## Reading -/

/-- The default of a type, with structs up to a depth. -/
def defaultWithin : (depth : Nat) → Ty → Val
  | _, .bool => .bool false
  | _, .int _ => .int 0
  | _, .float32 => .float32 0
  | _, .float64 => .float64 0
  | _, .string => .string ""
  | _, .bytes _ => .bytes []
  | _, .list _ => .list []
  | _, .map _ _ => .map []
  | 0, .struct _ => .struct []
  | depth + 1, .struct name => .struct ((σ.layout name).map fun f => defaultWithin depth f.type)

/-- The default of a type. No struct holds itself other than in a list or a map,
    so the structs inside one another have different names. -/
def default (t : Ty) : Val :=
  defaultWithin σ σ.length t

/-- Reads an integer at the width of its type. -/
def decodeInt (tag : Tag) (required : Bool) : IntType → Read (Option Int)
  | .int8 => do pure ((← Read.int8 tag required).map Int8.toInt)
  | .int16 => do pure ((← Read.int16 tag required).map Int16.toInt)
  | .int32 => do pure ((← Read.int32 tag required).map Int32.toInt)
  | .int64 => do pure ((← Read.int64 tag required).map Int64.toInt)
  | .uint8 => do pure ((← Read.uint8 tag required).map fun v => (v.toNat : Int))
  | .uint16 => do pure ((← Read.uint16 tag required).map fun v => (v.toNat : Int))
  | .uint32 => do pure ((← Read.uint32 tag required).map fun v => (v.toNat : Int))

/-- Reads one field, the fields of a struct with `fields`. -/
def decodeWith (fields : String → Read Val) : Ty → Tag → (required : Bool) → Read Val
  | .bool, tag, required => do pure (.bool ((← Read.bool tag required).getD false))
  | .int t, tag, required => do pure (.int ((← decodeInt tag required t).getD 0))
  | .float32, tag, required => do pure (.float32 ((← Read.float32 tag required).getD 0))
  | .float64, tag, required => do pure (.float64 ((← Read.float64 tag required).getD 0))
  | .string, tag, required => do pure (.string ((← Read.string tag required).getD ""))
  | .bytes _, tag, required => do pure (.bytes ((← Read.bytes tag required).getD []))
  | .list t, tag, required => do
    match ← Read.listLength tag required with
    | none => pure (.list [])
    | some n => pure (.list (← Read.replicate (decodeWith fields t 0 true) n))
  | .map k v, tag, required => do
    match ← Read.mapLength tag required with
    | none => pure (.map [])
    | some n =>
      let pair : Read (Val × Val) := do
        let key ← decodeWith fields k 0 true
        let value ← decodeWith fields v 1 true
        pure (key, value)
      pure (.map (Val.ofPairs (← Read.replicate pair n)))
  | .struct name, tag, required => do
    if ← Read.enterStruct tag required then Read.nested (fields name)
    else pure (σ.default (.struct name))

/-- Reads fields one after another. -/
def decodeAll (field : FieldType → Read Val) : Layout → Read (List Val)
  | [] => pure []
  | f :: fs => do
    let v ← field f
    let vs ← decodeAll field fs
    pure (v :: vs)

/-- Reads the bare fields of a struct, with at most `levels` structs inside one
    another. -/
def decodeFieldsWithin : (levels : Nat) → String → Read Val
  | 0, _ => throw (.tooDeep maxNesting)
  | levels + 1, name => do
    let field := fun f : FieldType =>
      decodeWith σ (decodeFieldsWithin levels) f.type f.tag f.required
    pure (.struct (← decodeAll field (σ.layout name)))

/-- Reads the bare fields of a struct. -/
def decodeFields (name : String) : Read Val := do
  decodeFieldsWithin σ (maxNesting + 1 - (← get).depth) name

/-- Reads a value of a type from one field. -/
def decode (t : Ty) (tag : Tag) (required : Bool) : Read Val := do
  decodeWith σ (decodeFieldsWithin σ (maxNesting - (← get).depth)) t tag required

end Schema

end TaggedRpc.Wire
