import TaggedRpc.Selection.Listed
import TaggedRpc.Selection.Ring

/-!
# Selectors

A selector of any kind, with what all of them can do: take endpoints in and out,
and select one for a code. Selectors that do not go by the code take no notice of
it, and those that do not choose at random take no notice of the random number.
-/

namespace TaggedRpc.Selection

/-- A selector of any kind. -/
inductive Selector where
  | roundRobin (s : RoundRobin)
  | random (s : Uniform)
  | modulo (s : ModHash)
  | ring (s : Ring)
  deriving DecidableEq, Repr, Inhabited

namespace Selector

/-- How many endpoints there are to select from. -/
def size : Selector → Nat
  | roundRobin s => s.members.endpoints.length
  | random s => s.members.endpoints.length
  | modulo s => s.members.endpoints.length
  | ring s => s.keys.length

/-- Adds an endpoint. -/
def add (s : Selector) (e : Endpoint) (draw : Nat) : Except SelectError Selector :=
  match s with
  | roundRobin s => roundRobin <$> s.add e draw
  | random s => random <$> s.add e
  | modulo s => modulo <$> s.add e
  | ring s => ring <$> s.add e

/-- Removes an endpoint. -/
def remove (s : Selector) (e : Endpoint) (draw : Nat) : Except SelectError Selector :=
  match s with
  | roundRobin s => roundRobin <$> s.remove e draw
  | random s => random <$> s.remove e
  | modulo s => modulo <$> s.remove e
  | ring s => ring <$> s.remove e

/-- Replaces the endpoints. -/
def refresh (s : Selector) (endpoints : List Endpoint) (draw : Nat) : Selector :=
  match s with
  | roundRobin s => roundRobin (s.refresh endpoints draw)
  | random s => random (s.refresh endpoints)
  | modulo s => modulo (s.refresh endpoints)
  | ring s => ring (s.refresh endpoints)

/-- Selects an endpoint. -/
def select (s : Selector) (code : UInt32) (draw : Nat) : Except SelectError Endpoint × Selector :=
  match s with
  | roundRobin s => let (r, s) := s.select; (r, roundRobin s)
  | random t => (t.select draw, s)
  | modulo t => (t.select code, s)
  | ring t => (t.select code, s)

end Selector

end TaggedRpc.Selection
