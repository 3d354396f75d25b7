import TaggedRpc.Wire.Type

/-!
# Why decoding fails

One constructor for each cause, with what the message of the cause shows. The
wording is in `DecodeError.message` alone.
-/

namespace TaggedRpc.Wire

/-- A cause for which a byte string cannot be decoded. -/
inductive DecodeError where
  /-- The field at `tag` has a wire type that does not carry what was asked for. -/
  | typeMismatch (tag : Tag) (expected : String) (found : WireType)
  /-- A required field is absent. -/
  | missingTag (tag : Tag)
  /-- The bytes end before a payload of `needed` bytes at `offset`. -/
  | unexpectedEnd (offset needed : Nat)
  /-- A head has a code that no wire type has. -/
  | invalidType (code : Nat)
  /-- A count is negative or exceeds the bytes left. -/
  | invalidLength (tag : Tag) (length : Int)
  /-- A raw byte sequence stands where a list of other elements is wanted. -/
  | simpleListElement (tag : Tag)
  /-- A text is not valid UTF-8. -/
  | invalidText (tag : Tag)
  /-- A number does not fit the unsigned type that was asked for. -/
  | outOfRange (tag : Tag) (value : Int) (target : String)
  /-- Containers nest deeper than the limit. -/
  | tooDeep (limit : Nat)
  deriving DecidableEq, Repr, Inhabited

/-- The wording of a decoding error. -/
def DecodeError.message : DecodeError → String
  | .typeMismatch tag expected found => s!"tag {tag}: expected {expected}, found {found.name}"
  | .missingTag tag => s!"required tag {tag} not found"
  | .unexpectedEnd offset needed =>
    s!"unexpected end of buffer at offset {offset} (need {needed} bytes)"
  | .invalidType code => s!"invalid wire type code {code}"
  | .invalidLength tag length => s!"invalid length {length} at tag {tag}"
  | .simpleListElement tag => s!"tag {tag}: simple list can only decode into a byte sequence"
  | .invalidText tag => s!"tag {tag}: string is not valid utf-8"
  | .outOfRange tag value target => s!"tag {tag}: value {value} out of range for {target}"
  | .tooDeep limit => s!"nesting deeper than {limit} levels"

end TaggedRpc.Wire
