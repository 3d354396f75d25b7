import TaggedRpc.Endpoint.Health
import TaggedRpc.Float.Binary
import TaggedRpc.Float.Shortest
import TaggedRpc.Frame
import TaggedRpc.Selection.Ring
import TaggedRpc.Text.Duration

/-!
# The configuration of a client

Every setting has a default. A configuration is *valid* if its queues, its
timeouts and its greatest frame leave room to work with, and the ratio of
failures is one that can be reached; `Config.fault?` tells the first setting at
fault.

Times are in milliseconds unless a name says otherwise.
-/

namespace TaggedRpc

/-- How calls without a hash are spread. -/
inductive LoadBalance where
  | roundRobin
  | random
  deriving DecidableEq, Repr, Inhabited

/-- The settings of secure sessions. -/
structure TlsConfig where
  /-- A file with the roots that are trusted. -/
  caFile : Option String := none
  /-- A file with the chain of the client's own certificate. -/
  certFile : Option String := none
  /-- A file with the client's own key. -/
  keyFile : Option String := none
  /-- The name that the server's certificate must have. -/
  serverName : Option String := none
  /-- Whether every certificate is accepted. -/
  insecureSkipVerify : Bool := false
  deriving DecidableEq, Repr, Inhabited

/-- The settings of connections. -/
structure TransportConfig where
  /-- How many frames may wait for a connection. -/
  queueLength : UInt64 := 10000
  /-- After how long without traffic and without a call an idle socket is closed. -/
  idleTimeout : UInt64 := 600000
  /-- How long a frame waits for room in the queue, and a write for the socket. -/
  writeTimeout : UInt64 := 3000
  dialTimeout : UInt64 := 3000
  /-- The greatest length of a frame that is taken, its header included. -/
  maxPackageLength : UInt64 := UInt64.ofNat Frame.defaultMaxLength
  /-- How often a connection that is closing looks for calls under way. -/
  gracePollInterval : UInt64 := 500
  /-- Whether small segments are sent at once. -/
  tcpNoDelay : Bool := true
  /-- The time between two probes of a silent peer, in seconds; 0 leaves it to the
      system. -/
  tcpKeepaliveSeconds : UInt64 := 60
  tls : TlsConfig := {}
  deriving DecidableEq, Repr, Inhabited

/-- The settings of a client. -/
structure Config where
  /-- The reference of the registry, if endpoints come from one. -/
  locator : Option String := none
  /-- The set that endpoints are looked up in. -/
  setDivision : Option String := none
  /-- The time between two looks at the registry. -/
  refreshEndpointInterval : UInt64 := 60000
  /-- The time between two checks of health. -/
  checkStatusInterval : UInt64 := 1000
  /-- The time between two pings on an idle connection; 0 for none. -/
  keepAliveInterval : UInt64 := 0
  /-- The timeout of calls that wait for their answer. -/
  requestTimeout : UInt64 := 3000
  /-- The timeout of calls whose answer goes to a callback. -/
  asyncInvokeTimeout : UInt64 := 3000
  /-- How many calls of an object may be under way. -/
  objectQueueMax : UInt64 := 100000
  loadBalance : LoadBalance := .roundRobin
  /-- How the points of a consistent hash are made. -/
  pointRule : Selection.PointRule := .four
  /-- Whether an unhealthy endpoint is called if there is no healthy one. -/
  degradeToUnhealthy : Bool := true
  /-- The file of the endpoint cache. -/
  endpointCachePath : Option String := none
  transport : TransportConfig := {}
  health : HealthConfig := {}
  deriving DecidableEq, Repr, Inhabited

/-- A cause for which there is no configuration. -/
inductive ConfigError where
  /-- The file cannot be read. -/
  | unreadable
  /-- The text is not TOML, or a setting is of the wrong type. -/
  | malformed
  /-- A setting is at fault. -/
  | invalid (reason : String)
  deriving DecidableEq, Repr, Inhabited

/-- The wording of a cause. -/
def ConfigError.message : ConfigError → String
  | .unreadable => "I/O error"
  | .malformed => "TOML parse error"
  | .invalid reason => s!"Invalid configuration: {reason}"

/-- Whether a float of 64 bits is in the range from 0, exclusive, to 1. Positive
    floats stand in the order of their words. -/
def isRatio (bits : UInt64) : Bool := 0 < bits && bits ≤ 0x3FF0000000000000

namespace Config

/-- The settings that must not be zero, with their names. -/
def positive (c : Config) : List (String × UInt64) := [
  ("request_timeout_ms", c.requestTimeout),
  ("async_invoke_timeout_ms", c.asyncInvokeTimeout),
  ("refresh_endpoint_interval_ms", c.refreshEndpointInterval),
  ("check_status_interval_ms", c.checkStatusInterval),
  ("transport.write_timeout_ms", c.transport.writeTimeout),
  ("transport.dial_timeout_ms", c.transport.dialTimeout)]

/-- The wording of a setting that must not be zero. -/
def mustBePositive (name : String) : String := s!"{name} must be > 0"

/-- The first setting at fault, in words. -/
def fault? (c : Config) : Option String :=
  if c.transport.queueLength = 0 then some (mustBePositive "transport.queue_len")
  else if c.transport.maxPackageLength.toNat < Frame.headerSize then
    some s!"transport.max_package_length {c.transport.maxPackageLength} is below the frame header size"
  else
    match c.positive.find? fun s => s.2 == 0 with
    | some (name, _) => some (mustBePositive name)
    | none =>
      if !isRatio c.health.failRatio then
        some ("health.fail_ratio " ++ Float.plain64 c.health.failRatio ++ " must be in (0, 1]")
      else if c.objectQueueMax = 0 then some (mustBePositive "obj_queue_max")
      else none

/-- The configuration, if no setting is at fault. -/
def validate (c : Config) : Except ConfigError Config :=
  match c.fault? with
  | some reason => .error (.invalid reason)
  | none => .ok c

/-- The time between two pings, if there are any. -/
def keepAlive? (c : Config) : Option UInt64 :=
  if c.keepAliveInterval = 0 then none else some c.keepAliveInterval

/-- The configuration with a timeout for calls that wait. -/
def withRequestTimeout (c : Config) (timeout : Duration) : Config :=
  { c with requestTimeout := UInt64.ofNat timeout.millis }

/-- The configuration with a set. -/
def withSetDivision (c : Config) (set : String) : Config :=
  { c with setDivision := some set }

end Config

end TaggedRpc
