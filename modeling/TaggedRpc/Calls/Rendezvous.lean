import TaggedRpc.Calls.Pending

/-!
# Callers and their answers

The table of waiting calls together with the *boxes* in which suspended callers
find their answers, and with the callbacks that have run. A box holds nothing
while its slot is in the table, then the answer, once; it is closed when the
answer has been taken or when its slot went without one.
-/

namespace TaggedRpc

/-- Where a suspended caller finds its answer. -/
inductive Box where
  /-- Nothing is there yet. -/
  | waiting
  /-- The answer is there. -/
  | answered (r : Response)
  /-- No answer will come any more. -/
  | closed
  /-- The caller has gone away. -/
  | abandoned
  deriving DecidableEq, Repr, Inhabited

/-- The table of the calls that wait, and the boxes of the callers so far. -/
structure Rendezvous where
  pending : Pending := {}
  boxes : List Box := []
  /-- The callbacks that have run, with what they got, oldest first. -/
  fired : List (String × Outcome) := []
  deriving Inhabited

namespace Rendezvous

/-- What a look into a box finds. -/
inductive Look where
  | answer (r : Response)
  | empty
  | closed
  | abandoned
  deriving DecidableEq, Repr

/-- Changes the box of a caller, unless the caller has gone away. -/
def putBox (s : Rendezvous) (ticket : Nat) (box : Box) : Rendezvous :=
  { s with boxes := s.boxes.modify ticket fun b => if b = .abandoned then .abandoned else box }

/-- Drops a waiter without an answer. -/
def drop (s : Rendezvous) : Option Waiter → Rendezvous
  | some (.caller ticket) => s.putBox ticket .closed
  | _ => s

/-- Registers a suspended caller with a new box, and gives the number of the box. -/
def register (s : Rendezvous) (id : Int32) : Nat × Rendezvous :=
  let ticket := s.boxes.length
  let s := s.drop (s.pending.waiter? id)
  (ticket, { s with pending := s.pending.register id (.caller ticket), boxes := s.boxes ++ [.waiting] })

/-- Registers a callback. -/
def registerCallback (s : Rendezvous) (id : Int32) (label : String) : Rendezvous :=
  let s := s.drop (s.pending.waiter? id)
  { s with pending := s.pending.register id (.callback label) }

/-- Hands an answer to its waiter. Says whether there was one. -/
def deliver (s : Rendezvous) (r : Response) : Bool × Rendezvous :=
  let (w, pending) := s.pending.deliver r
  let s := { s with pending }
  match w with
  | none => (false, s)
  | some (.caller ticket) => (true, s.putBox ticket (.answered r))
  | some (.callback label) => (true, { s with fired := s.fired ++ [(label, .ok r)] })

/-- Takes out a slot. Its waiter gets nothing. -/
def cancel (s : Rendezvous) (id : Int32) : Option Waiter × Rendezvous :=
  let (w, pending) := s.pending.cancel id
  (w, { s with pending }.drop w)

/-- Takes out a slot for a failure of all calls. A callback gets the failure, a caller
    nothing. -/
def fail (s : Rendezvous) (id : Int32) (e : RpcError) : Option Waiter × Rendezvous :=
  let (w, s) := s.cancel id
  match w with
  | some (.callback label) => (w, { s with fired := s.fired ++ [(label, .error e)] })
  | _ => (w, s)

/-- Fails all calls: takes out the slots under the ids in use, one after another. -/
def failAll (s : Rendezvous) (e : RpcError) : Rendezvous :=
  s.pending.ids.foldl (fun s id => (s.fail id e).2) s

/-- Looks into a box. An answer is taken out. -/
def poll (s : Rendezvous) (ticket : Nat) : Look × Rendezvous :=
  match s.boxes[ticket]? with
  | some .waiting => (.empty, s)
  | some (.answered r) => (.answer r, s.putBox ticket .closed)
  | some .abandoned => (.abandoned, s)
  | _ => (.closed, s)

/-- The caller goes away. -/
def abandon (s : Rendezvous) (ticket : Nat) : Rendezvous :=
  { s with boxes := s.boxes.modify ticket fun _ => .abandoned }

/-- Forgets the callbacks that have run. -/
def forgetFired (s : Rendezvous) : Rendezvous := { s with fired := [] }

end Rendezvous

end TaggedRpc
