import TaggedRpc.Endpoint.Parser
import TaggedRpc.Packet.ReturnCode
import TaggedRpc.Selection.Error
import TaggedRpc.Text.Duration
import TaggedRpc.Wire.Error

/-!
# Why calls fail

One cause for each way in which a call can fail, its wording, the return code
that stands for it, and whether it speaks against the endpoint. The failures of
the parts, of a connection, a configuration, a selector or a descriptor, turn
into failures of a call by `ofTransport` and its neighbours.
-/

namespace TaggedRpc

/-! ## Connections -/

/-- A failure of a connection. -/
inductive TransportError where
  /-- The system refused the connection, for a reason that it gives. -/
  | dial (address reason : String)
  /-- The connection was not made in time. -/
  | dialTimeout (address : String)
  /-- The system refused a write, for a reason that it gives. -/
  | write (reason : String)
  /-- The frames that wait for the connection are too many. -/
  | queueFull (address : String)
  /-- The connection is closed for good. -/
  | closed
  /-- The transport is not built in. -/
  | unsupported (transport : String)
  /-- The secure session was not set up. -/
  | tls (reason : String)
  /-- A header declared an impossible length. -/
  | framing (declared : Nat)
  deriving DecidableEq, Repr, Inhabited

/-- The wording of a failure of a connection. -/
def TransportError.message : TransportError → String
  | .dial address reason => s!"dial {address} failed: {reason}"
  | .dialTimeout address => s!"dial {address} timed out"
  | .write reason => s!"write failed: {reason}"
  | .queueFull address => s!"send queue to {address} is full"
  | .closed => "connection closed"
  | .unsupported transport => s!"transport {transport} is not supported"
  | .tls reason => s!"tls setup failed: {reason}"
  | .framing declared => s!"invalid declared package length {declared}"

/-! ## Calls -/

/-- A failure of a call. -/
inductive RpcError where
  /-- A frame is malformed. -/
  | framing (reason : String)
  /-- A packet does not decode. -/
  | decode (cause : Wire.DecodeError)
  /-- There is no endpoint to call. -/
  | noEndpoint (what : String)
  /-- The frames that wait for a connection are too many. -/
  | queueFull (address : String)
  /-- The calls of an object that are under way are too many. -/
  | overloaded (object : String) (inFlight : Nat)
  /-- No answer came in time. -/
  | timeout (requestId : Int32) (elapsed : Duration)
  /-- The servant answered with a return code other than zero. -/
  | application (code : Int32) (reason : String)
  /-- The connection failed. -/
  | connection (reason : String)
  /-- A filter refused the call. -/
  | filter (reason : String)
  /-- The registry failed. -/
  | registry (reason : String)
  /-- A reference or a descriptor is malformed. -/
  | invalidEndpoint (reason : String)
  /-- The configuration is no good. -/
  | config (reason : String)
  /-- The client has been shut down. -/
  | shutdown
  deriving DecidableEq, Repr, Inhabited

namespace RpcError

/-- The wording of a failure. -/
def message : RpcError → String
  | framing reason => s!"framing error: {reason}"
  | decode cause => s!"decode error: {cause.message}"
  | noEndpoint what => s!"no endpoint available for {what}"
  | queueFull address => s!"send queue full for {address}"
  | overloaded object n => s!"{object}: {n} invocations in flight"
  | timeout id elapsed => s!"request {id.toInt} timed out after {elapsed.text}"
  | application code reason =>
    s!"server returned {code.toInt} ({ReturnCode.name code}): {reason}"
  | connection reason => s!"connection error: {reason}"
  | filter reason => s!"filter error: {reason}"
  | registry reason => s!"registry error: {reason}"
  | invalidEndpoint reason => s!"invalid endpoint: {reason}"
  | config reason => s!"configuration error: {reason}"
  | shutdown => "communicator shut down"

/-- The return code that stands for a failure. -/
def code : RpcError → Int32
  | framing _ | decode _ => ReturnCode.clientDecodeError
  | noEndpoint _ => ReturnCode.adapterNull
  | queueFull _ | connection _ => ReturnCode.sendRequestError
  | overloaded _ _ => ReturnCode.overload
  | timeout _ _ => ReturnCode.invokeTimeout
  | application code _ => code
  | invalidEndpoint _ => ReturnCode.proxyConnectError
  | filter _ | registry _ | config _ | shutdown => ReturnCode.unknown

/-- Whether a failure speaks against the health of the endpoint. -/
def isEndpointFailure : RpcError → Bool
  | timeout _ _ | connection _ | queueFull _ => true
  | _ => false

/-- What a failure of a connection is for a call. -/
def ofTransport : TransportError → RpcError
  | .queueFull address => queueFull address
  | .framing declared => framing s!"declared package length {declared}"
  | e => connection e.message

/-- What a failure of a selector is for a call. -/
def ofSelect (e : Selection.SelectError) : RpcError := noEndpoint e.message

/-- What a malformed descriptor is for a call. -/
def ofParse (e : Endpoint.ParseError) : RpcError := invalidEndpoint e.message

/-- What an invalid configuration is for a call. -/
def ofValidation (reason : String) : RpcError := config s!"Invalid configuration: {reason}"

end RpcError

end TaggedRpc
