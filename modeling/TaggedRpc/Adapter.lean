import TaggedRpc.Calls.Pending
import TaggedRpc.Connection.Basic
import TaggedRpc.Endpoint.Health
import TaggedRpc.Packet.RequestId

/-!
# Adapters

An *adapter* is a client's side of one endpoint: its connection, its health, and
the calls that wait for an answer from it. A server may ask, by a push with a
certain description, to be connected anew; then a fresh connection takes over and
the old one drains, so an adapter has a *current* connection and *past* ones. A
call is counted on the connection that its request went out on, which is known by
its number.

Every operation is one step: it takes the adapter as it is and gives the adapter
as it is afterwards, with what the caller learns.
-/

namespace TaggedRpc

/-- The description of a push that asks to be connected anew. -/
def Packet.reconnectDirective : String := "_reconnect_"

/-- The function that is called to see whether a servant is there. -/
def Packet.pingFunction : String := "tars_ping"

/-- What the adapters of an object have in common. -/
structure AdapterConfig where
  /-- The name of the object. -/
  object : String
  transport : TransportConfig := {}
  health : HealthConfig := {}
  /-- How long a connection that is replaced may drain, in milliseconds. -/
  reconnectGrace : Nat := 3000
  deriving DecidableEq, Repr, Inhabited

/-- A client's side of one endpoint. -/
structure Adapter where
  endpoint : Endpoint
  config : AdapterConfig
  health : Health
  pending : Pending := {}
  /-- The current connection. -/
  connection : Connection
  /-- The connections before, oldest first. -/
  past : List Connection := []
  /-- The name of the callback that pushes go to. -/
  pushTo : Option String := none
  closed : Bool := false
  deriving Inhabited

/-- What an answer or a push has led to. -/
inductive Arrival where
  /-- It goes to the waiter of its call. -/
  | answered (w : Waiter) (r : Response)
  /-- It is a push for a callback. -/
  | pushed (callback : String) (payload : Bytes)
  /-- It asked to be connected anew. -/
  | reconnected
  /-- Nobody takes it. -/
  | dropped
  deriving DecidableEq, Repr, Inhabited

/-- What a check of health has led to. -/
inductive HealthEvent where
  | nothing
  | becameUnhealthy
  | recovered
  deriving DecidableEq, Repr, Inhabited

namespace Adapter

/-- A new adapter, which is healthy and has not dialled yet. -/
def new (e : Endpoint) (config : AdapterConfig) (now : Nat) : Adapter where
  endpoint := e
  config := config
  health := .new config.health now
  connection := .new e config.transport now

/-- The name of the endpoint. -/
def key (a : Adapter) : String := a.endpoint.key

/-- Whether the endpoint is healthy. -/
def isHealthy (a : Adapter) : Bool := a.health.healthy

/-- The number of the current connection. -/
def current (a : Adapter) : Nat := a.past.length

/-- Changes the connection with a number. -/
def modifyConnection (a : Adapter) (number : Nat) (f : Connection → Connection) : Adapter :=
  if number = a.current then { a with connection := f a.connection }
  else { a with past := a.past.modify number f }

/-! ## Calls -/

/-- Registers a waiter for the answer to a request. -/
def register (a : Adapter) (id : Int32) (w : Waiter) : Adapter :=
  { a with pending := a.pending.register id w }

/-- Takes out the slot of a call. -/
def cancel (a : Adapter) (id : Int32) : Option Waiter × Adapter :=
  let (w, pending) := a.pending.cancel id
  (w, { a with pending })

/-- Counts an outcome. -/
def record (a : Adapter) (success : Bool) (now : Nat) : Adapter :=
  { a with health := if success then a.health.onSuccess now else a.health.onFailure }

/-- Sends a request. Gives the number of the connection that it goes out on. -/
def send (a : Adapter) (dial : Dialer) (r : Request) (now : Nat) :
    Except RpcError Nat × Adapter :=
  if a.closed then (.error (.connection s!"adapter {a.key} is closed"), a)
  else
    let health := a.health.onSend
    match a.connection.send dial (fun _ => r.pack) (!r.isOneway) now with
    | (.ok (), connection) => (.ok a.current, { a with health, connection })
    | (.error e, connection) =>
      (.error (.ofTransport e), { a with health := health.onFailure, connection })

/-- A call that expected an answer has ended. It is counted, and it gives its place
    on its connection back. -/
def finishCall (a : Adapter) (number : Nat) (success : Bool) (now : Nat) : Adapter :=
  (a.modifyConnection number fun c => c.finishCall.poll now).record success now

/-- Makes the endpoint healthy. -/
def heal (a : Adapter) (now : Nat) : Adapter := { a with health := a.health.reset now }

/-! ## Answers and pushes -/

/-- Lets a fresh connection take over. -/
def replaceConnection (a : Adapter) (now : Nat) : Adapter :=
  if a.closed then a
  else
    { a with
      past := a.past ++ [a.connection.drain a.config.reconnectGrace now]
      connection := .new a.endpoint a.config.transport now }

/-- Takes an answer or a push in. -/
def onResponse (a : Adapter) (r : Response) (now : Nat) : Arrival × Adapter :=
  if r.isPush then
    if r.description = Packet.reconnectDirective then (.reconnected, a.replaceConnection now)
    else
      match a.pushTo with
      | some callback => (.pushed callback r.buffer, a)
      | none => (.dropped, a)
  else if r.packetType = Packet.oneway then (.dropped, a)
  else
    match a.pending.deliver r with
    | (some w, pending) => (.answered w r, { a with pending })
    | (none, pending) => (.dropped, { a with pending })

/-- Takes answers and pushes in, one after another. -/
def onResponses (a : Adapter) (now : Nat) : List Response → List Arrival × Adapter
  | [] => ([], a)
  | r :: rs =>
    let (arrival, a) := a.onResponse r now
    let (arrivals, a) := a.onResponses now rs
    (arrival :: arrivals, a)

/-- What one read on the current connection leads to. Frames that do not decode are
    dropped. -/
def receive (a : Adapter) (chunk : Bytes) (now : Nat) : List Arrival × Adapter :=
  let (frames, connection) := a.connection.receive chunk now
  { a with connection }.onResponses now (frames.filterMap fun f => (Response.unpack f).toOption)

/-! ## Health -/

/-- The request that keeps a connection alive. It is not answered. -/
def ping (a : Adapter) (id : Int32) : Request where
  version := Packet.version
  packetType := Packet.oneway
  messageType := 0
  requestId := id
  servant := a.config.object
  func := Packet.pingFunction
  buffer := []
  timeout := Int32.ofNat a.config.transport.writeTimeout.toNat
  context := .empty
  status := .empty

/-- Pings on a connection that has been quiet for an interval, with the id after
    `lastId`. Gives the last id in use. -/
def keepAlive (a : Adapter) (dial : Dialer) (interval : Nat) (lastId : Int32) (now : Nat) :
    Int32 × Adapter :=
  if a.closed ∨ a.connection.idleFor now < interval then (lastId, a)
  else
    let id := RequestId.next lastId
    (id, (a.send dial (a.ping id) now).2)

/-- Checks the health, and reconnects if that is due. -/
def checkHealth (a : Adapter) (dial : Dialer) (now : Nat) : HealthEvent × Adapter :=
  let (found, health) := a.health.check now
  let a := { a with health }
  match found with
  | .unchanged => (.nothing, a)
  | .tripped => (.becameUnhealthy, a)
  | .retry =>
    match a.connection.reconnect dial now with
    | (.ok (), connection) => (.recovered, { a with connection }.heal now)
    | (.error _, connection) => (.nothing, { a with connection })

/-! ## Closing -/

/-- Takes out the slots of all calls. -/
def failAll (a : Adapter) : List Waiter × Adapter :=
  let (ws, pending) := a.pending.failAll
  (ws, { a with pending })

/-- Closes the adapter at once. Gives the waiters that get no answer any more. -/
def close (a : Adapter) : List Waiter × Adapter :=
  { a with closed := true, connection := a.connection.shutdown }.failAll

/-- Refuses further calls, and drains the connection for some time at most. -/
def drain (a : Adapter) (grace now : Nat) : Adapter :=
  { a with closed := true, connection := a.connection.drain grace now }

/-- Closes connections that have drained. An adapter whose current connection has
    drained takes out the slots of all calls. -/
def poll (a : Adapter) (now : Nat) : List Waiter × Adapter :=
  let a := { a with connection := a.connection.poll now, past := a.past.map (·.poll now) }
  if a.closed ∧ a.connection.closed then a.failAll else ([], a)

end Adapter

end TaggedRpc
