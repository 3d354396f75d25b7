import TaggedRpc.Wire.Reader
import TaggedRpc.Text.Quoted
import TaggedRpc.Float.Shortest

/-!
# Fields without a schema

Any well-formed byte string can be read without knowing its schema, into a
*tree*: the wire says where every field ends and what kind of value it holds.
It does not say how wide an integer was, so all integers are alike, and a zero
float is the integer zero.

* `Tree.readFields`: the fields up to the end of the bytes or a struct end;
* `Tree.render`: the fields as indented text, each after its tag in brackets.
-/

namespace TaggedRpc.Wire

/-- A value read without a schema. -/
inductive Tree where
  /-- An integer of any width. -/
  | int (v : Int)
  /-- The bits of a float of 32 bits. -/
  | float32 (bits : UInt32)
  /-- The bits of a float of 64 bits. -/
  | float64 (bits : UInt64)
  /-- A text. -/
  | string (s : String)
  /-- The bytes of a text that is not valid UTF-8. -/
  | rawString (bs : Bytes)
  /-- A raw byte sequence. -/
  | bytes (bs : Bytes)
  /-- The elements of a list. -/
  | list (elements : List Tree)
  /-- The pairs of a map, in the order of the wire. -/
  | map (pairs : List (Tree × Tree))
  /-- The fields of a struct. -/
  | struct (fields : List (Tag × Tree))
  deriving Repr, Inhabited

namespace Tree

/-! ## Reading -/

/-- Reads the fields of a struct up to its end, each payload with `payload`.
    Every turn consumes a head. -/
def structFields (payload : WireType → Read Tree) : (turns : Nat) → Read (List (Tag × Tree))
  | 0 => do
    let _ ← Read.head
    pure []
  | turns + 1 => do
    let h ← Read.head
    if h.type = .structEnd then pure []
    else do
      let v ← payload h.type
      let rest ← structFields payload turns
      pure ((h.tag, v) :: rest)

/-- Reads the payload of a field whose head is behind, with values up to a
    number of levels inside one another. -/
def payloadWithin : (levels : Nat) → WireType → Read Tree
  | 0, _ => throw (.tooDeep maxNesting)
  | levels + 1, type =>
    match type with
    | .zero => pure (.int 0)
    | .byte | .short | .int | .long => .int <$> Read.intPayload type 0 .long "int"
    | .float => (fun n => .float32 (UInt32.ofNat n)) <$> Read.rawNat 4
    | .double => (fun n => .float64 (UInt64.ofNat n)) <$> Read.rawNat 8
    | .string1 | .string4 => do
      let raw ← Read.stringPayload type 0
      pure (match Bytes.text? raw with
        | some s => .string s
        | none => .rawString raw)
    | .simpleList => .bytes <$> Read.simpleListPayload 0
    | .list => do
      let element : Read Tree := do payloadWithin levels (← Read.head).type
      pure (.list (← Read.replicate element (← Read.length)))
    | .map => do
      let pair : Read (Tree × Tree) := do
        let key ← payloadWithin levels (← Read.head).type
        let value ← payloadWithin levels (← Read.head).type
        pure (key, value)
      pure (.map (← Read.replicate pair (← Read.length)))
    | .structBegin => do
      let turns := (← get).rest.length
      pure (.struct (← structFields (payloadWithin levels) turns))
    | .structEnd => pure (.struct [])

/-- Reads fields until the bytes or the fields end. -/
def fieldsWithin : (turns : Nat) → Read (List (Tag × Tree))
  | 0 => pure []
  | turns + 1 => do
    if (← get).rest.isEmpty then pure []
    else do
      let h ← Read.head
      if h.type = .structEnd then pure []
      else do
        let v ← payloadWithin maxNesting h.type
        let rest ← fieldsWithin turns
        pure ((h.tag, v) :: rest)

/-- Reads every field up to the end of the bytes or a struct end. -/
def readFields : Read (List (Tag × Tree)) := do
  fieldsWithin (← get).rest.length

/-- The fields that a byte string holds. -/
def ofBytes (bs : Bytes) : Except DecodeError (List (Tag × Tree)) :=
  readFields.runOn bs

/-! ## Text -/

/-- How many bytes of a byte sequence a text shows. -/
def shownBytes : Nat := 32

/-- A byte sequence on one line: its length, and the first bytes of it. -/
def showBytes (bs : Bytes) : String :=
  s!"bytes({bs.length})" ++
    (if bs.isEmpty then "" else " " ++ Bytes.hex (bs.take shownBytes)) ++
    (if shownBytes < bs.length then ".." else "")

/-- A value on one line; of a container only its size. -/
def label : Tree → String
  | int v => toString v
  | float32 bits => Float.plain32 bits
  | float64 bits => Float.plain64 bits
  | string s => Text.quoted s
  | rawString bs => showBytes bs
  | bytes bs => showBytes bs
  | list vs => s!"list({vs.length})"
  | map ps => s!"map({ps.length})"
  | struct fs => s!"struct({fs.length})"

/-- The blanks in front of a line at a level of indentation. -/
def indentation (level : Nat) : String :=
  String.ofList (List.replicate (2 * level) ' ')

mutual

/-- The lines of a value, of which the first continues the current line. -/
def renderValue (level : Nat) : Tree → String
  | list vs => s!"list({vs.length})\n" ++ renderElements (level + 1) vs
  | map ps => s!"map({ps.length})\n" ++ renderPairs (level + 1) ps
  | struct fs => "struct\n" ++ renderFields (level + 1) fs
  | scalar => scalar.label ++ "\n"

/-- The lines of the elements of a list, each after a dash. -/
def renderElements (level : Nat) : List Tree → String
  | [] => ""
  | v :: vs => indentation level ++ "- " ++ renderValue level v ++ renderElements level vs

/-- The lines of the pairs of a map, each after its key. -/
def renderPairs (level : Nat) : List (Tree × Tree) → String
  | [] => ""
  | (k, v) :: ps =>
    indentation level ++ k.label ++ " => " ++ renderValue level v ++ renderPairs level ps

/-- The lines of fields, each after its tag. -/
def renderFields (level : Nat) : List (Tag × Tree) → String
  | [] => ""
  | (tag, v) :: fs =>
    indentation level ++ s!"[{tag}] " ++ renderValue level v ++ renderFields level fs

end

/-- The fields as indented text. -/
def render (fields : List (Tag × Tree)) : String :=
  renderFields 0 fields

end Tree

end TaggedRpc.Wire
