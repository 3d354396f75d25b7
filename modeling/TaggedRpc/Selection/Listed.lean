import TaggedRpc.Selection.Members

/-!
# List-based selectors

Three ways to select from a list of endpoints, or from its weight list where
weights count:

* `RoundRobin` takes turns. Its cursors count the picks, in words of 64 bits,
  and start at a random place after every change of the list, so that many
  clients that refresh at once do not all start with one endpoint;
* `Uniform` picks at random;
* `ModHash` takes a code modulo the length, so most codes move when the list
  changes.

Random numbers come from outside: an operation that needs one takes a natural
number and uses its residue.
-/

namespace TaggedRpc.Selection

/-! ## Taking turns -/

/-- The state of a rotation. -/
structure RoundRobin where
  /-- Whether weights count. -/
  weighted : Bool
  members : Members := {}
  /-- The number of the last pick from the endpoints. -/
  cursor : UInt64 := 0
  /-- The number of the last pick from the weight list. -/
  weightCursor : UInt64 := 0
  deriving DecidableEq, Repr, Inhabited

namespace RoundRobin

def name : String := "round_robin"

/-- A rotation of new members that starts at random places. -/
def rebuild (s : RoundRobin) (members : Members) (draw : Nat) : RoundRobin :=
  let members := members.reweigh s.weighted
  { s with
    members
    cursor := UInt64.ofNat (draw % members.endpoints.length)
    weightCursor := UInt64.ofNat (draw % members.weightList.length) }

/-- Replaces the endpoints. -/
def refresh (s : RoundRobin) (endpoints : List Endpoint) (draw : Nat) : RoundRobin :=
  s.rebuild (Members.ofList endpoints) draw

/-- Adds an endpoint. -/
def add (s : RoundRobin) (e : Endpoint) (draw : Nat) : Except SelectError RoundRobin := do
  pure (s.rebuild (← s.members.add name e) draw)

/-- Removes an endpoint. -/
def remove (s : RoundRobin) (e : Endpoint) (draw : Nat) : Except SelectError RoundRobin := do
  pure (s.rebuild (← s.members.remove name e) draw)

/-- The next endpoint in turn. -/
def select (s : RoundRobin) : Except SelectError Endpoint × RoundRobin :=
  if s.members.endpoints.isEmpty then (.error (.empty name), s)
  else if s.members.weightList.isEmpty then
    let cursor := s.cursor + 1
    (s.members.pick name cursor.toNat, { s with cursor })
  else
    let weightCursor := s.weightCursor + 1
    (s.members.pick name weightCursor.toNat, { s with weightCursor })

end RoundRobin

/-! ## Picking at random -/

/-- The state of a random choice. -/
structure Uniform where
  /-- Whether weights count. -/
  weighted : Bool
  members : Members := {}
  deriving DecidableEq, Repr, Inhabited

namespace Uniform

def name : String := "random"

/-- Replaces the endpoints. -/
def refresh (s : Uniform) (endpoints : List Endpoint) : Uniform :=
  { s with members := (Members.ofList endpoints).reweigh s.weighted }

/-- Adds an endpoint. -/
def add (s : Uniform) (e : Endpoint) : Except SelectError Uniform := do
  pure { s with members := (← s.members.add name e).reweigh s.weighted }

/-- Removes an endpoint. -/
def remove (s : Uniform) (e : Endpoint) : Except SelectError Uniform := do
  pure { s with members := (← s.members.remove name e).reweigh s.weighted }

/-- The endpoint that a random number picks. -/
def select (s : Uniform) (draw : Nat) : Except SelectError Endpoint :=
  s.members.pick name draw

end Uniform

/-! ## Picking by a code -/

/-- The state of a choice by a code modulo the length. -/
structure ModHash where
  /-- Whether weights count. -/
  weighted : Bool
  members : Members := {}
  deriving DecidableEq, Repr, Inhabited

namespace ModHash

def name : String := "mod_hash"

/-- Replaces the endpoints. -/
def refresh (s : ModHash) (endpoints : List Endpoint) : ModHash :=
  { s with members := (Members.ofList endpoints).reweigh s.weighted }

/-- Adds an endpoint. -/
def add (s : ModHash) (e : Endpoint) : Except SelectError ModHash := do
  pure { s with members := (← s.members.add name e).reweigh s.weighted }

/-- Removes an endpoint. -/
def remove (s : ModHash) (e : Endpoint) : Except SelectError ModHash := do
  pure { s with members := (← s.members.remove name e).reweigh s.weighted }

/-- The endpoint that a code picks. -/
def select (s : ModHash) (code : UInt32) : Except SelectError Endpoint :=
  s.members.pick name code.toNat

end ModHash

end TaggedRpc.Selection
