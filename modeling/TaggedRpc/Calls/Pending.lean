import TaggedRpc.Error
import TaggedRpc.Packet.Basic

/-!
# Calls that wait for an answer

Every call that expects an answer has a *slot* in a table, under its request id,
with the *waiter* that the answer goes to: a caller that is suspended, or a
callback. A slot is taken out exactly once, by the answer, by a cancellation, or
by a failure of all calls; whoever takes it out decides what the waiter gets.

A call that is registered under an id in use replaces the slot. The waiter that
was there gets nothing.
-/

namespace TaggedRpc

/-- What an answer goes to. -/
inductive Waiter where
  /-- A suspended caller, known by a number. -/
  | caller (ticket : Nat)
  /-- A callback, known by a label. -/
  | callback (label : String)
  deriving DecidableEq, Repr, Inhabited

/-- The name of a kind of waiter. -/
def Waiter.name : Waiter → String
  | .caller _ => "Waiter::Sync"
  | .callback _ => "Waiter::Callback"

/-- The label of a callback. -/
def Waiter.callback? : Waiter → Option String
  | .caller _ => none
  | .callback label => some label

/-- What a waiter gets at last. -/
abbrev Outcome := Except RpcError Response

/-- The table of the calls that wait. -/
structure Pending where
  slots : List (Int32 × Waiter) := []
  deriving DecidableEq, Repr, Inhabited

namespace Pending

/-- How many calls wait. -/
def size (p : Pending) : Nat := p.slots.length

/-- The ids in use, in the order in which they were registered. -/
def ids (p : Pending) : List Int32 := p.slots.map (·.1)

/-- Whether a call waits under an id. -/
def contains (p : Pending) (id : Int32) : Bool := p.slots.any fun s => s.1 == id

/-- The waiter under an id. -/
def waiter? (p : Pending) (id : Int32) : Option Waiter := p.slots.lookup id

/-- The table without the slot under an id. -/
def erase (p : Pending) (id : Int32) : Pending :=
  ⟨p.slots.filter fun s => s.1 != id⟩

/-- Registers a waiter under an id. -/
def register (p : Pending) (id : Int32) (w : Waiter) : Pending :=
  ⟨(p.erase id).slots ++ [(id, w)]⟩

/-- Takes out the slot under an id. -/
def cancel (p : Pending) (id : Int32) : Option Waiter × Pending :=
  match p.waiter? id with
  | some w => (some w, p.erase id)
  | none => (none, p)

/-- Takes out the slot of an answer. The waiter in it gets the answer. -/
def deliver (p : Pending) (r : Response) : Option Waiter × Pending :=
  p.cancel r.requestId

/-- Takes out every slot. The callbacks in them get a failure; the callers are
    told by the loss of their slots. -/
def failAll (p : Pending) : List Waiter × Pending :=
  (p.slots.map (·.2), ⟨[]⟩)

end Pending

end TaggedRpc
