import TaggedRpc.Wire.Schema

/-!
# Scripts of reader operations

A *script* is a list of operations that one reader carries out one after
another, the first failure ending it. An operation may hold a script of its own,
which it runs inside a struct. What a script shows is an *entry* for each
operation that succeeded: its answer, and where the reader stood afterwards.

A struct whose script fails shows the entries up to the failure, and no
position.
-/

namespace TaggedRpc.Wire.Script

/-- An operation on a reader. -/
inductive Step where
  /-- Looks at the next head. -/
  | peek
  /-- Consumes the next head. -/
  | head
  /-- Advances to a field and past its head. -/
  | seek (tag : Tag) (required : Bool)
  /-- Skips a payload of the wire type with a given code. -/
  | skipField (code : Nat)
  /-- Skips a whole field. -/
  | skipAny
  /-- Skips the rest of a struct. -/
  | skipToStructEnd
  /-- Reads a scalar, a text or a byte sequence, if it is there. -/
  | optional (type : Ty) (tag : Tag) (required : Bool)
  /-- Reads the count of a list. -/
  | listLength (tag : Tag) (required : Bool)
  /-- Reads the count of a map. -/
  | mapLength (tag : Tag) (required : Bool)
  /-- Steps past the begin of a struct. -/
  | enterStruct (tag : Tag) (required : Bool)
  /-- Runs a script inside a struct. -/
  | nested (body : List Step)
  /-- Reads a value of a type, or its default. -/
  | decode (type : Ty) (tag : Tag) (required : Bool)
  /-- Tells how many bytes are left. -/
  | state
  deriving Repr, Inhabited

mutual

/-- The answer of an operation. -/
inductive Answer where
  /-- The head that is next. -/
  | peeked (h : Head)
  /-- The head that was next. -/
  | consumed (h : Head)
  /-- The wire type of the field, if it is there. -/
  | sought (type : Option WireType)
  /-- Nothing to tell. -/
  | done
  /-- The value of a type, if it is there. -/
  | value (type : Ty) (v : Option Val)
  /-- The count, if the container is there. -/
  | length (n : Option Nat)
  /-- Whether the struct is there. -/
  | entered (present : Bool)
  /-- The entries of a script inside a struct. -/
  | nested (entries : List Entry)
  /-- How many bytes are left. -/
  | remaining (n : Nat)

/-- What a script shows for one operation. -/
inductive Entry where
  /-- The answer, and the position afterwards. -/
  | passed (answer : Answer) (pos : Nat)
  /-- The entries of a script inside a struct that failed. -/
  | unfinished (entries : List Entry)

end

variable (σ : Schema)

/-- Reads a scalar, a text or a byte sequence, if it is there. -/
def readOptional (tag : Tag) (required : Bool) : Ty → Read (Option Val)
  | .bool => do pure ((← Read.bool tag required).map .bool)
  | .int t => do pure ((← Schema.decodeInt tag required t).map .int)
  | .float32 => do pure ((← Read.float32 tag required).map .float32)
  | .float64 => do pure ((← Read.float64 tag required).map .float64)
  | .string => do pure ((← Read.string tag required).map .string)
  | .bytes _ => do pure ((← Read.bytes tag required).map .bytes)
  | t => some <$> σ.decode t tag required

mutual

/-- Carries out an operation. -/
def exec : Step → Read Answer
  | .peek => .peeked <$> Read.peekHead
  | .head => .consumed <$> Read.head
  | .seek tag required => .sought <$> Read.seek tag required
  | .skipField code =>
    match WireType.ofCode? code with
    | none => throw (.invalidType code)
    | some type => do
      Read.skipField type
      pure .done
  | .skipAny => do
    Read.skipAny
    pure .done
  | .skipToStructEnd => do
    Read.skipToStructEnd
    pure .done
  | .optional type tag required => .value type <$> readOptional σ tag required type
  | .listLength tag required => .length <$> Read.listLength tag required
  | .mapLength tag required => .length <$> Read.mapLength tag required
  | .enterStruct tag required => .entered <$> Read.enterStruct tag required
  | .nested body => .nested <$> Read.nested (execAll body)
  | .decode type tag required => do
    pure (.value type (some (← σ.decode type tag required)))
  | .state => do pure (.remaining (← get).rest.length)

/-- Carries out a script. -/
def execAll : List Step → Read (List Entry)
  | [] => pure []
  | step :: steps => do
    let answer ← exec step
    let pos := (← get).pos
    let entries ← execAll steps
    pure (.passed answer pos :: entries)

end

/-- What a script shows up to its first failure. -/
def trace : List Step → Reader → List Entry
  | [], _ => []
  | step :: steps, r =>
    match exec σ step r with
    | .ok answer r' => .passed answer r'.pos :: trace steps r'
    | .error _ _ =>
      match step with
      | .nested body =>
        [.unfinished (if r.depth < maxNesting then trace body { r with depth := r.depth + 1 }
          else [])]
      | _ => []

/-- Runs a script on a byte string: what it shows, and the failure that ended it. -/
def run (steps : List Step) (bs : Bytes) : List Entry × Option DecodeError :=
  let r := Reader.ofBytes bs
  (trace σ steps r,
    match execAll σ steps r with
    | .ok _ _ => none
    | .error e _ => some e)

end TaggedRpc.Wire.Script
