/-!
# Endpoints

An *endpoint* is a place where a server instance can be reached, with what is
known about it for choosing among several: a host and a port, the transport, a
timeout, a weight and whether it counts, and the set that the instance is in.

The host and the port say *which* endpoint it is: two descriptors of one host
and port are the same endpoint (`Endpoint.Same`), and its *key* names it. The
canonical text of a descriptor, which holds all of it, is `Endpoint.text`.
-/

namespace TaggedRpc

/-- The kind of socket that reaches an endpoint. -/
inductive Transport where
  | tcp
  | udp
  /-- A stream inside a secure session. -/
  | tls
  deriving DecidableEq, Repr, Inhabited

/-- The name of a transport in descriptors. -/
def Transport.name : Transport → String
  | .tcp => "tcp"
  | .udp => "udp"
  | .tls => "ssl"

/-- Whether the weight of an endpoint counts. -/
inductive WeightType where
  /-- Endpoints take turns, whatever their weights. -/
  | loop
  /-- Endpoints are picked in proportion to their weights. -/
  | static
  deriving DecidableEq, Repr, Inhabited

/-- The number that stands for a weight type in descriptors. -/
def WeightType.flag : WeightType → Nat
  | .loop => 0
  | .static => 1

/-- A place where a server instance can be reached. -/
structure Endpoint where
  host : String
  port : UInt16
  transport : Transport := .tcp
  /-- The timeout that the server asks for, in milliseconds. -/
  timeoutMs : UInt32 := 3000
  /-- The weight; -1 if none is set. -/
  weight : Int32 := -1
  weightType : WeightType := .loop
  /-- The set that the instance is in, or the empty text. -/
  setId : String := ""
  deriving DecidableEq, Repr, Inhabited

namespace Endpoint

/-- The greatest static weight. -/
def maxStaticWeight : Int32 := 100

/-- A static weight as it is used: one that is not set counts in full, and none
    counts for more. -/
def clampWeight (w : Int32) : Int32 :=
  if w = -1 ∨ maxStaticWeight < w then maxStaticWeight else w

/-- The endpoint with a static weight. -/
def withStaticWeight (e : Endpoint) (w : Int32) : Endpoint :=
  { e with weightType := .static, weight := clampWeight w }

/-- The endpoint in a set. -/
def withSetId (e : Endpoint) (setId : String) : Endpoint :=
  { e with setId }

/-- Whether the weight of an endpoint counts. -/
def isStatic (e : Endpoint) : Bool := e.weightType == .static

/-- Whether two descriptors are of one endpoint. -/
def Same (a b : Endpoint) : Prop := a.host = b.host ∧ a.port = b.port

instance : DecidableRel Same := fun _ _ => inferInstanceAs (Decidable (_ ∧ _))

/-- The name of an endpoint: its host and its port. -/
def key (e : Endpoint) : String := s!"{e.host}:{e.port}"

/-- The address of an endpoint for a socket. A host with colons goes in brackets,
    unless it has them. -/
def address (e : Endpoint) : String :=
  if e.host.toList.contains ':' ∧ e.host.toList.head? ≠ some '[' then s!"[{e.host}]:{e.port}"
  else e.key

/-- The canonical text of a descriptor. -/
def text (e : Endpoint) : String :=
  s!"{e.transport.name} -h {e.host} -p {e.port} -t {e.timeoutMs} -v {e.weightType.flag} -w " ++
    toString e.weight.toInt ++ (if e.setId = "" then "" else " -s " ++ e.setId)

theorem Same.refl (a : Endpoint) : Same a a := ⟨rfl, rfl⟩

theorem Same.symm {a b : Endpoint} (h : Same a b) : Same b a := ⟨h.1.symm, h.2.symm⟩

theorem Same.trans {a b c : Endpoint} (h : Same a b) (h' : Same b c) : Same a c :=
  ⟨h.1.trans h'.1, h.2.trans h'.2⟩

theorem key_eq_of_same {a b : Endpoint} (h : Same a b) : a.key = b.key := by
  rw [key, key, h.1, h.2]

end Endpoint

end TaggedRpc
