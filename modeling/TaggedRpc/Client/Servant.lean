import TaggedRpc.Calls.InFlight
import TaggedRpc.Invocation

/-!
# Servants

A *servant* stands for a remote object in a client: which manager looks after its
endpoints, the timeouts of its calls, and how many of them are under way. Servants
of one object in one set share their manager and nothing else.
-/

namespace TaggedRpc

/-- A remote object as its callers see it. -/
structure Servant where
  /-- The name of the object. -/
  name : String
  /-- The number of the manager. -/
  manager : Nat
  /-- The timeout of calls that wait for their answer. -/
  timeout : Duration
  /-- The timeout of calls whose answer goes to a callback. -/
  asyncTimeout : Duration
  inFlight : InFlight
  /-- The name of the callback for the pushes of its endpoints. -/
  pushCallback : Option String := none
  deriving DecidableEq, Repr, Inhabited

/-- What a caller may set for one call. -/
structure CallOptions where
  /-- The timeout, in place of the one of the servant. -/
  timeout : Option Duration := none
  context : Context := .empty
  status : Context := .empty
  hash : Option HashKey := none
  deriving Inhabited

/-- The whole milliseconds of a duration as a signed word of 32 bits, the greatest
    one for all that are greater. -/
def Duration.clampedMillis (d : Duration) : Int32 := Int32.ofNat (min d.millis 0x7FFFFFFF)

/-- The entry of the status with the name of the set. -/
def Packet.setNameKey : String := "SETNAME"

namespace Servant

/-- A call to a function of the servant. Flags in the message type tell of a hash,
    and of the set, whose name goes into the status. -/
def invocation (s : Servant) (set : Option String) (func : String) (buffer : Bytes)
    (packetType : Int8) (o : CallOptions) (id : Int32) (timeout : Duration) (now : Nat) :
    Invocation :=
  let hashed := if o.hash.isSome then Packet.hashFlag else 0
  let inSet := if set.isSome then Packet.setNameFlag else 0
  { request := {
      version := Packet.version
      packetType
      messageType := hashed ||| inSet
      requestId := id
      servant := s.name
      func
      buffer
      timeout := timeout.clampedMillis
      context := o.context
      status := match set with
        | some set => o.status.insert Packet.setNameKey set
        | none => o.status }
    hash := o.hash
    start := now }

end Servant

end TaggedRpc
