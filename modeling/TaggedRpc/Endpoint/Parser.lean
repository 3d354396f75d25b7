import TaggedRpc.Endpoint.Basic
import TaggedRpc.Text.Blank
import TaggedRpc.Text.Number
import TaggedRpc.Text.Quoted

/-!
# Reading descriptors

A descriptor is a list of words: the transport, in letters of either case, and
then flags, each with the word after it as its value. A flag is a word that
starts with a hyphen and has more; its next character says which flag it is.
Words that are no flags are passed over, and flags that mean nothing here are
read and ignored. The last value of a flag counts.
-/

namespace TaggedRpc.Endpoint

/-- A cause for which a text is no descriptor. -/
inductive ParseError where
  /-- The first word names no transport. -/
  | unknownTransport (name : String)
  /-- The last word is a flag. -/
  | missingValue (flag : Char)
  /-- The value of a flag is not in the range of its type. -/
  | invalidValue (flag : Char) (value : String)
  /-- There is no host, or an empty one. -/
  | missingHost
  /-- There is no word at all. -/
  | empty
  deriving DecidableEq, Repr, Inhabited

/-- The wording of a parse error. -/
def ParseError.message : ParseError → String
  | .unknownTransport name =>
    "unknown transport " ++ Text.quoted name ++ " (expected tcp, udp or ssl)"
  | .missingValue flag => "missing value for flag -" ++ flag.toString
  | .invalidValue flag value =>
    "invalid value " ++ Text.quoted value ++ " for flag -" ++ flag.toString
  | .missingHost => "endpoint has no host"
  | .empty => "empty endpoint descriptor"

/-- The transport that a word names. -/
def transport? (word : String) : Except ParseError Transport :=
  let name := String.ofList (word.toList.map Char.toLower)
  if name = "tcp" then .ok .tcp
  else if name = "udp" then .ok .udp
  else if name = "ssl" then .ok .tls
  else .error (.unknownTransport name)

/-- What the flags say: an endpoint whose weight is as given, and the number for
    its weight type. -/
structure Draft where
  endpoint : Endpoint
  weightFlag : Int := 0

/-- The flag that a word is, if it is one. -/
def flag? (word : String) : Option Char :=
  match word.toList with
  | '-' :: flag :: _ => some flag
  | _ => none

/-- Notes the value of a flag. -/
def Draft.set (d : Draft) (flag : Char) (value : String) : Except ParseError Draft :=
  let invalid : ParseError := .invalidValue flag value
  let e := d.endpoint
  if flag = 'h' then .ok { d with endpoint := { e with host := value } }
  else if flag = 'p' then
    match Text.nat? 0xFFFF value with
    | some n => .ok { d with endpoint := { e with port := UInt16.ofNat n } }
    | none => .error invalid
  else if flag = 't' then
    match Text.nat? 0xFFFFFFFF value with
    | some n => .ok { d with endpoint := { e with timeoutMs := UInt32.ofNat n } }
    | none => .error invalid
  else if flag = 'w' then
    match Text.int? (-0x80000000) 0x7FFFFFFF value with
    | some v => .ok { d with endpoint := { e with weight := Int32.ofInt v } }
    | none => .error invalid
  else if flag = 'v' then
    match Text.int? (-0x80000000) 0x7FFFFFFF value with
    | some v => .ok { d with weightFlag := v }
    | none => .error invalid
  else if flag = 's' then .ok { d with endpoint := { e with setId := value } }
  else .ok d

/-- Reads the flags among words. -/
def Draft.setAll (d : Draft) : List String → Except ParseError Draft
  | [] => .ok d
  | word :: rest =>
    match flag? word, rest with
    | none, rest => d.setAll rest
    | some flag, [] => .error (.missingValue flag)
    | some flag, value :: rest =>
      match d.set flag value with
      | .ok d => d.setAll rest
      | .error e => .error e
termination_by words => words.length

/-- The endpoint of the flags. A weight that counts is clamped. -/
def Draft.finish (d : Draft) : Except ParseError Endpoint :=
  if d.endpoint.host = "" then .error .missingHost
  else if d.weightFlag = 0 then .ok d.endpoint
  else .ok (d.endpoint.withStaticWeight d.endpoint.weight)

/-- The endpoint that a descriptor describes. -/
def parse (s : String) : Except ParseError Endpoint :=
  match Text.words s with
  | [] => .error .empty
  | word :: flags => do
    let transport ← transport? word
    let draft ← Draft.setAll { endpoint := { host := "", port := 0, transport } } flags
    draft.finish

end TaggedRpc.Endpoint
