import TaggedRpc.Json.Token

/-!
# Reading JSON

The tokens are read from the left with a stack of the containers that are open.
Each container on the stack holds what has been read of it, last first; an
object also holds the key of the member under way. There are two situations: a
value is due, or a value has just ended. Every step takes a token, so reading
needs no bound on the nesting.
-/

namespace TaggedRpc.Json

/-- A container that is open, with its elements so far in reverse. -/
inductive Frame where
  | array (elements : List Json)
  | object (members : List (Option String × Json)) (key : Option String)

mutual

/-- Reads on where a value is due. -/
def parseValue : List Frame → List Token → Option Json
  | open_, .leftBracket :: .rightBracket :: ts => parseAfter open_ (array []) ts
  | open_, .leftBracket :: ts => parseValue (.array [] :: open_) ts
  | open_, .leftBrace :: .rightBrace :: ts => parseAfter open_ (object []) ts
  | open_, .leftBrace :: .string key :: .colon :: ts => parseValue (.object [] key :: open_) ts
  | open_, .null :: ts => parseAfter open_ null ts
  | open_, .bool b :: ts => parseAfter open_ (bool b) ts
  | open_, .number n :: ts => parseAfter open_ (number n) ts
  | open_, .string (some s) :: ts => parseAfter open_ (string s) ts
  | open_, .string none :: ts => parseAfter open_ brokenString ts
  | _, _ => none
termination_by _ ts => ts.length

/-- Reads on where the value `v` has just ended. -/
def parseAfter : List Frame → Json → List Token → Option Json
  | [], v, [] => some v
  | .array vs :: open_, v, .comma :: ts => parseValue (.array (v :: vs) :: open_) ts
  | .array vs :: open_, v, .rightBracket :: ts => parseAfter open_ (array (v :: vs).reverse) ts
  | .object ms key :: open_, v, .comma :: .string key' :: .colon :: ts =>
    parseValue (.object ((key, v) :: ms) key' :: open_) ts
  | .object ms key :: open_, v, .rightBrace :: ts =>
    parseAfter open_ (object ((key, v) :: ms).reverse) ts
  | _, _, _ => none
termination_by _ _ ts => ts.length

end

/-- The value of a text, if it is one JSON value between blanks. -/
def parse? (s : String) : Option Json := do
  parseValue [] (← Token.ofText s)

end TaggedRpc.Json
