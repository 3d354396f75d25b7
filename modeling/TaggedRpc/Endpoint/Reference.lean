import TaggedRpc.Endpoint.Parser

/-!
# References to objects

A *reference* names an object and may pin its endpoints: `name@descriptors`,
with a colon between two descriptors. An object without pinned endpoints is
looked up in the registry.
-/

namespace TaggedRpc

/-- A reference to an object. -/
structure Reference where
  /-- The name of the object. -/
  name : String
  /-- The pinned endpoints, if there are any. -/
  direct : Option (List Endpoint)
  deriving DecidableEq, Repr, Inhabited

namespace Reference

/-- Whether the endpoints are pinned. -/
def isDirect (r : Reference) : Bool := r.direct.isSome

/-- The endpoints of the parts between colons. Blank parts are passed over. -/
def parseParts : List String → Except Endpoint.ParseError (List Endpoint)
  | [] => .ok []
  | part :: parts =>
    if (Text.words part).isEmpty then parseParts parts
    else do
      let e ← Endpoint.parse part
      let es ← parseParts parts
      pure (e :: es)

/-- The reference that a text is. -/
def parse (s : String) : Except Endpoint.ParseError Reference :=
  let cs := Text.trimChars s.toList
  let name := cs.takeWhile (· ≠ '@')
  match cs.dropWhile (· ≠ '@') with
  | [] => .ok ⟨String.ofList name, none⟩
  | _ :: rest => do
    let endpoints ← parseParts (Text.split ':' (String.ofList rest))
    if endpoints.isEmpty then .error .empty
    else pure ⟨String.ofList (Text.trimChars name), some endpoints⟩

end Reference

end TaggedRpc
