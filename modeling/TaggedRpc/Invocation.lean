import TaggedRpc.Endpoint.Basic
import TaggedRpc.Packet.Basic
import TaggedRpc.Packet.ReturnCode
import TaggedRpc.Selection.HashKey
import TaggedRpc.Text.Duration

/-!
# Invocations

An *invocation* is one call as its filters see it: the request, which they may
change before it is sent, and what has become of it, which they may look at
afterwards. Its *cost* is the time from its start to its end, or to now while it
runs; the first end counts.
-/

namespace TaggedRpc

/-- A call as its filters see it. -/
structure Invocation where
  request : Request
  /-- The answer, once there is one. -/
  response : Option Response := none
  /-- How the call asks to be routed, if it does. -/
  hash : Option HashKey := none
  /-- The endpoint that the call was sent to. -/
  endpoint : Option Endpoint := none
  /-- The return code of the outcome. -/
  status : Int32 := ReturnCode.success
  /-- When the call started, in nanoseconds. -/
  start : Nat := 0
  /-- When the call ended, in nanoseconds. -/
  stop : Option Nat := none
  deriving Inhabited

namespace Invocation

/-- The id of the request. -/
def id (v : Invocation) : Int32 := v.request.requestId

/-- Whether no answer is expected. -/
def isOneway (v : Invocation) : Bool := v.request.isOneway

/-- Notes the end of the call, unless it has ended. -/
def finish (v : Invocation) (now : Nat) : Invocation :=
  { v with stop := some (v.stop.getD now) }

/-- The time from the start to the end, or to now. -/
def cost (v : Invocation) (now : Nat) : Duration := ⟨v.stop.getD now - v.start⟩

/-- The cost of a call that has ended does not change. -/
theorem cost_finish (v : Invocation) (now later : Nat) :
    (v.finish now).cost later = (v.finish now).cost now := by
  simp [finish, cost]

end Invocation

end TaggedRpc
