import TaggedRpc.Config.Basic
import TaggedRpc.Selection.HashKey
import TaggedRpc.Selection.Selector

/-!
# Alive sets

The endpoints of an object that calls may go to, with a selector for each way of
routing: calls without a hash take turns or go at random, and the others go by
their hash. Weights count if there are endpoints and all of them have static
weights.
-/

namespace TaggedRpc

open Selection

/-- How calls are routed. -/
structure RoutingConfig where
  loadBalance : LoadBalance := .roundRobin
  pointRule : PointRule := .four
  deriving DecidableEq, Repr, Inhabited

/-- A selector for calls without a hash, over no endpoints yet. -/
def LoadBalance.selector (kind : LoadBalance) (weighted : Bool) : Selector :=
  match kind with
  | .roundRobin => .roundRobin { weighted }
  | .random => .random { weighted }

/-- The endpoints that calls may go to. -/
structure AliveSet where
  endpoints : List Endpoint
  /-- The selector for calls without a hash. -/
  balance : Selector
  modHash : ModHash
  ring : Ring
  deriving DecidableEq, Repr, Inhabited

namespace AliveSet

/-- Whether weights count among endpoints. -/
def weighted (endpoints : List Endpoint) : Bool :=
  !endpoints.isEmpty && endpoints.all Endpoint.isStatic

/-- The alive set of endpoints. -/
def ofList (config : RoutingConfig) (endpoints : List Endpoint) (draw : Nat) : AliveSet :=
  let weighted := weighted endpoints
  { endpoints
    balance := (config.loadBalance.selector weighted).refresh endpoints draw
    modHash := ModHash.refresh { weighted } endpoints
    ring := Ring.refresh { weighted, rule := config.pointRule } endpoints }

/-- The endpoint for a call. -/
def select (s : AliveSet) (hash : Option HashKey) (draw : Nat) :
    Except SelectError Endpoint × AliveSet :=
  match hash with
  | some (.modulo code) => (s.modHash.select code, s)
  | some (.ring code) => (s.ring.select code, s)
  | none => let (r, balance) := s.balance.select 0 draw; (r, { s with balance })

/-- The other endpoints, in the order in which they stand in for one. -/
def others (s : AliveSet) (e : Endpoint) : List Endpoint :=
  let start := s.endpoints.findIdx fun x => decide (x.Same e)
  let start := if start < s.endpoints.length then start else 0
  s.endpoints.drop (start + 1) ++ s.endpoints.take start

end AliveSet

end TaggedRpc
