import TaggedRpc.Bytes

/-!
# Outgoing frames

The frames of a connection wait in a *queue* that outlives its sockets. The loop
of one socket at a time *holds* the queue, from when it gets it until it ends, and
has at most one frame in its *hand*, which it is writing. A frame whose write
fails is *parked*, and the next loop that gets the queue takes it first.

So the frames that were written, the one in the hand, the parked one and the
queue, in this order, are the frames that were enqueued: `waiting` lists the ones
that are not written yet.
-/

namespace TaggedRpc

/-- The frames that are to be written. -/
structure Outbound where
  /-- How many frames may wait in the queue. -/
  capacity : Nat
  queue : List Bytes := []
  /-- The frame whose write failed. -/
  parked : Option Bytes := none
  /-- The generation of the socket whose loop holds the queue. -/
  holder : Option Nat := none
  /-- The frame that the holder is writing. -/
  hand : Option Bytes := none
  deriving DecidableEq, Repr, Inhabited

namespace Outbound

/-- The frames that are not written yet, in the order in which they will be. -/
def waiting (o : Outbound) : List Bytes := o.hand.toList ++ o.parked.toList ++ o.queue

/-- Puts a frame at the end of the queue, if there is room. -/
def enqueue? (o : Outbound) (frame : Bytes) : Option Outbound :=
  if o.queue.length < o.capacity then some { o with queue := o.queue ++ [frame] } else none

/-- The loop of a socket gets the queue, if no other one holds it. The parked frame
    goes into its hand. -/
def acquire? (o : Outbound) (generation : Nat) : Option Outbound :=
  if o.holder.isNone then some { o with holder := some generation, hand := o.parked, parked := none }
  else none

/-- The holder takes the next frame into its empty hand. -/
def take? (o : Outbound) (generation : Nat) : Option Outbound :=
  if o.holder = some generation ∧ o.hand.isNone then
    match o.queue with
    | frame :: queue => some { o with queue, hand := some frame }
    | [] => none
  else none

/-- The holder has written the frame in its hand. -/
def written? (o : Outbound) (generation : Nat) : Option (Bytes × Outbound) :=
  if o.holder = some generation then o.hand.map fun frame => (frame, { o with hand := none })
  else none

/-- The write of the frame in the hand has failed. The frame is parked, and the
    loop ends. -/
def failed? (o : Outbound) (generation : Nat) : Option Outbound :=
  if o.holder = some generation then
    o.hand.map fun frame => { o with holder := none, hand := none, parked := some frame }
  else none

/-- The loop of the holder ends between two frames. -/
def release? (o : Outbound) (generation : Nat) : Option Outbound :=
  if o.holder = some generation ∧ o.hand.isNone then some { o with holder := none } else none

end Outbound

end TaggedRpc
