import TaggedRpc.Config.Basic
import TaggedRpc.Connection.Inbound
import TaggedRpc.Connection.Outbound
import TaggedRpc.Error

/-!
# Connections

A connection to one endpoint has at most one *live* socket. It dials when it has
something to send and no socket is live, and it dials again after its socket has
gone, until it is *closed*, which is for good. Every socket has a *generation*,
and what happens late to an old socket does not touch its successor.

A connection counts the calls under way on it that expect an answer. It closes
its socket when there are none and nothing has been read or written for the idle
time. A connection that is to be replaced *drains*: it is closed when the last
call has ended, or at a deadline.

The outcome of an attempt to dial comes from outside, as does the time, in
milliseconds.
-/

namespace TaggedRpc

/-- What comes of an attempt to reach an address. -/
abbrev Dialer := Transport → String → Except TransportError Unit

/-- The dialer of a build without secure sessions over one that reaches sockets. -/
def Dialer.withoutTls (dial : Dialer) : Dialer
  | .tls, _ => .error (.unsupported Transport.tls.name)
  | transport, address => dial transport address

/-- A connection to an endpoint. -/
structure Connection where
  address : String
  transport : Transport
  config : TransportConfig
  outbound : Outbound
  /-- The generation of the live socket. -/
  live : Option Nat := none
  /-- What the live socket has brought after its last complete frame. -/
  kept : Bytes := []
  /-- The last generation that was given to a socket. -/
  generations : Nat := 0
  /-- Whether the connection is closed for good. -/
  closed : Bool := false
  /-- When a connection that drains is closed at the latest. -/
  deadline : Option Nat := none
  /-- The calls under way that expect an answer. -/
  calls : Nat := 0
  /-- When something was last read or written. -/
  lastActive : Nat
  deriving Inhabited

namespace Connection

/-- A connection that has not dialled yet. -/
def new (e : Endpoint) (config : TransportConfig) (now : Nat) : Connection where
  address := e.address
  transport := e.transport
  config := config
  outbound := { capacity := max 1 config.queueLength.toNat }
  lastActive := now

/-- Whether a socket is live. -/
def isConnected (c : Connection) : Bool := c.live.isSome

/-- The time since something was read or written. -/
def idleFor (c : Connection) (now : Nat) : Nat := now - c.lastActive

/-! ## Sockets -/

/-- Closes the live socket. -/
def disconnect (c : Connection) : Connection := { c with live := none, kept := [] }

/-- Closes the socket of a generation, if it is the live one. -/
def closeGeneration (c : Connection) (generation : Nat) : Connection :=
  if c.live = some generation then c.disconnect else c

/-- Closes the connection for good. -/
def shutdown (c : Connection) : Connection := { c.disconnect with closed := true }

/-- Makes a fresh socket the live one. -/
def publish (c : Connection) (now : Nat) : Connection :=
  { c with live := some (c.generations + 1), generations := c.generations + 1, kept := []
           lastActive := now }

/-- Dials a fresh socket. -/
def dialFresh (c : Connection) (dial : Dialer) (now : Nat) :
    Except TransportError Unit × Connection :=
  match dial c.transport c.address with
  | .error e => (.error e, c)
  | .ok () => if c.closed then (.error .closed, c) else (.ok (), c.publish now)

/-- Dials unless a socket is live. -/
def connect (c : Connection) (dial : Dialer) (now : Nat) :
    Except TransportError Unit × Connection :=
  if c.closed then (.error .closed, c)
  else if c.isConnected then (.ok (), c)
  else c.dialFresh dial now

/-- Closes the live socket and dials a fresh one. -/
def reconnect (c : Connection) (dial : Dialer) (now : Nat) :
    Except TransportError Unit × Connection :=
  if c.closed then (.error .closed, c) else c.disconnect.dialFresh dial now

/-- Closes a socket on which nothing has happened for too long. -/
def closeIdle (c : Connection) (now : Nat) : Connection :=
  if c.calls = 0 ∧ c.config.idleTimeout.toNat ≤ c.idleFor now then c.disconnect else c

/-! ## Frames -/

/-- Puts a frame into the queue, and counts a call if an answer is expected. -/
def enqueue (c : Connection) (frame : Bytes) (expectsReply : Bool) :
    Except TransportError Unit × Connection :=
  match c.outbound.enqueue? frame with
  | some outbound =>
    (.ok (), { c with outbound, calls := if expectsReply then c.calls + 1 else c.calls })
  | none => (.error (.queueFull c.address), c)

/-- Sends a frame, which is made when there is a socket for it. -/
def send (c : Connection) (dial : Dialer) (frame : Unit → Bytes) (expectsReply : Bool)
    (now : Nat) : Except TransportError Unit × Connection :=
  match c.connect dial now with
  | (.error e, c) => (.error e, c)
  | (.ok (), c) => c.enqueue (frame ()) expectsReply

/-- What one read from the live socket brings: the frames that it completes. An
    impossible header closes the socket. -/
def receive (c : Connection) (chunk : Bytes) (now : Nat) : List Bytes × Connection :=
  match Inbound.feed c.config.maxPackageLength.toNat (c.transport == .udp) c.kept chunk with
  | (frames, .ok kept) => (frames, { c with kept, lastActive := now })
  | (frames, .error _) => (frames, { c with lastActive := now }.disconnect)

/-- Hands frames to a handler, one after another. What the handler says of a frame
    is passed over, a failure as well. -/
def dispatch {σ ε : Type} (handle : Bytes → σ → Except ε Unit × σ) (s : σ)
    (frames : List Bytes) : σ :=
  frames.foldl (fun s frame => (handle frame s).2) s

/-- What a sequence of reads from the live socket, each at its time, brings to a
    handler. Nothing is read once the socket has gone. -/
def receiveAll {σ ε : Type} (handle : Bytes → σ → Except ε Unit × σ) (c : Connection) (s : σ) :
    (reads : List (Bytes × Nat)) → Connection × σ
  | [] => (c, s)
  | (chunk, now) :: reads =>
    if c.isConnected then
      let (frames, c) := c.receive chunk now
      receiveAll handle c (dispatch handle s frames) reads
    else (c, s)

/-- A call that expected an answer has ended. -/
def finishCall (c : Connection) : Connection := { c with calls := c.calls - 1 }

/-! ## Draining -/

/-- Closes a connection that drains, if its last call has ended or its deadline has
    come. -/
def poll (c : Connection) (now : Nat) : Connection :=
  match c.deadline with
  | some deadline => if c.calls = 0 ∨ deadline ≤ now then c.shutdown else c
  | none => c

/-- Drains the connection for some time at most. -/
def drain (c : Connection) (grace now : Nat) : Connection :=
  { c with deadline := some (now + grace) }.poll now

end Connection

end TaggedRpc
