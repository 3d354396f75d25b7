import TaggedRpc.Selection.Error
import TaggedRpc.Endpoint.Basic
import TaggedRpc.Digest.Md5

/-!
# Consistent hashing

Codes of 32 bits are the places of a *ring*. Every endpoint owns *points* on it,
made from digests of its key, and a code belongs to the owner of the first point
at or after it, around the end of the ring if need be. When an endpoint comes or
goes, only codes that it owns move.

The points stand in the order of their places, and of equal places in the order
of the hosts and ports of their owners, so the ring depends on its members only.

An endpoint has a quarter of its weight in *virtual nodes*, at least one, or
none if its weight is not positive; where weights do not count all have 25. A
virtual node makes four points, or one. The digest is a parameter of what makes
points; the one in use is MD5.
-/

namespace TaggedRpc.Selection

/-- How a digest of four words makes points. -/
inductive PointRule where
  /-- Each word is a point. -/
  | four
  /-- The sum of the words without carries is a point. -/
  | one
  deriving DecidableEq, Repr, Inhabited

/-- The points that a digest makes. -/
def PointRule.points (rule : PointRule) (digest : Digest.Md5.State) : List UInt32 :=
  match rule with
  | .four => [digest.a, digest.b, digest.c, digest.d]
  | .one => [digest.a ^^^ digest.b ^^^ digest.c ^^^ digest.d]

/-- A point and its owner. -/
structure Point where
  place : UInt32
  owner : Endpoint
  deriving DecidableEq, Repr

/-- The order of the points on the ring. -/
def Point.le (a b : Point) : Bool :=
  a.place < b.place || (a.place == b.place &&
    (a.owner.host < b.owner.host ||
      (a.owner.host == b.owner.host && a.owner.port ≤ b.owner.port)))

/-- A ring of points. -/
structure Ring where
  /-- Whether weights count. -/
  weighted : Bool
  rule : PointRule
  /-- The keys of the members, which may own no point. -/
  keys : List String := []
  /-- The points in their order. -/
  points : List Point := []
  deriving DecidableEq, Repr, Inhabited

namespace Ring

def name : String := "consistent_hash"

/-- The weight of every endpoint where weights do not count. -/
def defaultWeight : Int := 100

/-- How many virtual nodes an endpoint has. -/
def virtualNodes (r : Ring) (e : Endpoint) : Nat :=
  let weight := if r.weighted then e.weight.toInt else defaultWeight
  if 0 < weight then max 1 (weight.toNat / 4) else 0

/-- The digest of a text. -/
def md5 (s : String) : Digest.Md5.State :=
  Digest.md5 (Bytes.ofText s)

/-- The places of the points of an endpoint, in the order of its virtual nodes. -/
def pointsFor (r : Ring) (e : Endpoint) (digest : String → Digest.Md5.State := md5) :
    List UInt32 :=
  (List.range (r.virtualNodes e)).flatMap fun i => r.rule.points (digest s!"{e.key}_{i}")

/-- Puts the points in order. -/
def sort (r : Ring) : Ring :=
  { r with points := r.points.mergeSort Point.le }

/-- Adds a member with its points, out of order. -/
def insert (r : Ring) (e : Endpoint) (digest : String → Digest.Md5.State := md5) :
    Except SelectError Ring :=
  if r.keys.contains e.key then .error (.alreadyExists name e.key)
  else .ok { r with keys := e.key :: r.keys
                    points := r.points ++ (r.pointsFor e digest).map fun p => ⟨p, e⟩ }

/-- Adds an endpoint. -/
def add (r : Ring) (e : Endpoint) (digest : String → Digest.Md5.State := md5) :
    Except SelectError Ring := do
  pure (← r.insert e digest).sort

/-- Removes an endpoint and its points. -/
def remove (r : Ring) (e : Endpoint) : Except SelectError Ring :=
  if r.keys.contains e.key then
    .ok { r with keys := r.keys.filter (· != e.key)
                 points := r.points.filter fun p => !decide (p.owner.Same e) }
  else .error (.notFound name e.key)

/-- Replaces the members. Of repeated endpoints the first is kept. -/
def refresh (r : Ring) (endpoints : List Endpoint)
    (digest : String → Digest.Md5.State := md5) : Ring :=
  let none : Ring := { r with keys := [], points := [] }
  (endpoints.foldl (fun r e => (r.insert e digest).toOption.getD r) none).sort

/-- The owner of a code. -/
def find? (r : Ring) (code : UInt32) : Option Endpoint :=
  match r.points.find? fun p => code ≤ p.place with
  | some p => some p.owner
  | none => r.points.head?.map Point.owner

/-- The owner of a text. -/
def findText? (r : Ring) (s : String) : Option Endpoint :=
  (r.rule.points (md5 s)).head?.bind r.find?

/-- The owner of a code. -/
def select (r : Ring) (code : UInt32) : Except SelectError Endpoint :=
  match r.find? code with
  | some e => .ok e
  | none => .error (.empty name)

end Ring

end TaggedRpc.Selection
