import TaggedRpc.Config.Basic
import TaggedRpc.Toml.Parser
import TaggedRpc.Toml.Printer
import TaggedRpc.Toml.Record

/-!
# Configurations as TOML

A configuration is a table with one entry for each setting, and subtables for
connections, secure sessions and health. What is left out has its default, and
unknown keys are passed over. Written out, a configuration shows every setting
that has a value.

* `Config.ofToml`: the valid configuration that a text is;
* `Config.toToml`: its text.
-/

namespace TaggedRpc

open Toml

/-! ## Reading -/

/-- A setting without a default. -/
def Toml.optional {α : Type} (read : Toml → Option α) : Option Toml → Option (Option α)
  | none => some none
  | some v => (read v).map some

/-- The settings of secure sessions that a value is. -/
def TlsConfig.ofToml? (v : Toml) : Option TlsConfig := do
  match ← v.record? ["ca_file", "cert_file", "key_file", "server_name",
      "insecure_skip_verify"] with
  | [caFile, certFile, keyFile, serverName, insecure] =>
    pure {
      caFile := ← optional text? caFile
      certFile := ← optional text? certFile
      keyFile := ← optional text? keyFile
      serverName := ← optional text? serverName
      insecureSkipVerify := ← orDefault false bool? insecure }
  | _ => none

/-- The settings of connections that a value is. -/
def TransportConfig.ofToml? (v : Toml) : Option TransportConfig := do
  let d : TransportConfig := {}
  match ← v.record? ["queue_len", "idle_timeout_ms", "write_timeout_ms", "dial_timeout_ms",
      "max_package_length", "grace_poll_interval_ms", "tcp_nodelay", "tcp_keepalive_secs",
      "tls"] with
  | [queue, idle, write, dial, package, grace, noDelay, keepalive, tls] =>
    pure {
      queueLength := ← orDefault d.queueLength word64? queue
      idleTimeout := ← orDefault d.idleTimeout word64? idle
      writeTimeout := ← orDefault d.writeTimeout word64? write
      dialTimeout := ← orDefault d.dialTimeout word64? dial
      maxPackageLength := ← orDefault d.maxPackageLength word64? package
      gracePollInterval := ← orDefault d.gracePollInterval word64? grace
      tcpNoDelay := ← orDefault d.tcpNoDelay bool? noDelay
      tcpKeepaliveSeconds := ← orDefault d.tcpKeepaliveSeconds word64? keepalive
      tls := ← orDefault d.tls TlsConfig.ofToml? tls }
  | _ => none

/-- The limits of health that a value is. -/
def HealthConfig.ofToml? (v : Toml) : Option HealthConfig := do
  let d : HealthConfig := {}
  match ← v.record? ["fail_window_ms", "fail_threshold", "check_interval_ms",
      "min_fail_samples", "fail_ratio", "retry_interval_ms"] with
  | [window, threshold, check, samples, ratio, retry] =>
    pure {
      failWindowMs := ← orDefault d.failWindowMs word64? window
      failThreshold := ← orDefault d.failThreshold word32? threshold
      checkIntervalMs := ← orDefault d.checkIntervalMs word64? check
      minFailSamples := ← orDefault d.minFailSamples word32? samples
      failRatio := ← orDefault d.failRatio float? ratio
      retryIntervalMs := ← orDefault d.retryIntervalMs word64? retry }
  | _ => none

/-- The names of the ways to spread calls. -/
def LoadBalance.names : List (String × LoadBalance) :=
  [("round_robin", .roundRobin), ("random", .random)]

/-- The names of the rules for points. -/
def Selection.PointRule.names : List (String × Selection.PointRule) :=
  [("ketama", .four), ("default", .one)]

/-- The configuration that a value is. -/
def Config.ofValue? (v : Toml) : Option Config := do
  let d : Config := {}
  match ← v.record? ["locator", "set_division", "refresh_endpoint_interval_ms",
      "check_status_interval_ms", "keep_alive_interval_ms", "request_timeout_ms",
      "async_invoke_timeout_ms", "obj_queue_max", "load_balance", "consistent_hash_algorithm",
      "degrade_to_unhealthy", "endpoint_cache_path", "transport", "health"] with
  | [locator, set, refresh, check, keepAlive, request, async, queue, balance, rule, degrade,
      cache, transport, health] =>
    pure {
      locator := ← optional text? locator
      setDivision := ← optional text? set
      refreshEndpointInterval := ← orDefault d.refreshEndpointInterval word64? refresh
      checkStatusInterval := ← orDefault d.checkStatusInterval word64? check
      keepAliveInterval := ← orDefault d.keepAliveInterval word64? keepAlive
      requestTimeout := ← orDefault d.requestTimeout word64? request
      asyncInvokeTimeout := ← orDefault d.asyncInvokeTimeout word64? async
      objectQueueMax := ← orDefault d.objectQueueMax word64? queue
      loadBalance := ← orDefault d.loadBalance (named? LoadBalance.names) balance
      pointRule := ← orDefault d.pointRule (named? Selection.PointRule.names) rule
      degradeToUnhealthy := ← orDefault d.degradeToUnhealthy bool? degrade
      endpointCachePath := ← optional text? cache
      transport := ← orDefault d.transport TransportConfig.ofToml? transport
      health := ← orDefault d.health HealthConfig.ofToml? health }
  | _ => none

/-- The valid configuration that a text is. -/
def Config.ofToml (s : String) : Except ConfigError Config :=
  match (Toml.parse? s).bind Config.ofValue? with
  | some c => c.validate
  | none => .error .malformed

/-- The valid configuration in a file, given its text if it can be read. -/
def Config.ofFile : Option String → Except ConfigError Config
  | some s => Config.ofToml s
  | none => .error .unreadable

/-! ## Writing -/

/-- The entry of a text that may be missing. -/
def Toml.textEntry (key : String) (v : Option String) : String × Option Setting :=
  (key, v.map .text)

/-- The entry of a number. -/
def Toml.wordEntry (key : String) (v : UInt64) : String × Option Setting :=
  (key, some (.natural v.toNat))

/-- The entry of a truth value. -/
def Toml.boolEntry (key : String) (v : Bool) : String × Option Setting :=
  (key, some (.bool v))

/-- The name of a way to spread calls. -/
def LoadBalance.name : LoadBalance → String
  | .roundRobin => "round_robin"
  | .random => "random"

/-- The name of a rule for points. -/
def Selection.PointRule.name : Selection.PointRule → String
  | .four => "ketama"
  | .one => "default"

/-- The settings of secure sessions. -/
def TlsConfig.entries (c : TlsConfig) : List (String × Option Setting) := [
  textEntry "ca_file" c.caFile,
  textEntry "cert_file" c.certFile,
  textEntry "key_file" c.keyFile,
  textEntry "server_name" c.serverName,
  boolEntry "insecure_skip_verify" c.insecureSkipVerify]

/-- The settings of connections. -/
def TransportConfig.entries (c : TransportConfig) : List (String × Option Setting) := [
  wordEntry "queue_len" c.queueLength,
  wordEntry "idle_timeout_ms" c.idleTimeout,
  wordEntry "write_timeout_ms" c.writeTimeout,
  wordEntry "dial_timeout_ms" c.dialTimeout,
  wordEntry "max_package_length" c.maxPackageLength,
  wordEntry "grace_poll_interval_ms" c.gracePollInterval,
  boolEntry "tcp_nodelay" c.tcpNoDelay,
  wordEntry "tcp_keepalive_secs" c.tcpKeepaliveSeconds]

/-- The limits of health. -/
def HealthConfig.entries (c : HealthConfig) : List (String × Option Setting) := [
  wordEntry "fail_window_ms" c.failWindowMs,
  ("fail_threshold", some (.natural c.failThreshold.toNat)),
  wordEntry "check_interval_ms" c.checkIntervalMs,
  ("min_fail_samples", some (.natural c.minFailSamples.toNat)),
  ("fail_ratio", some (.float c.failRatio)),
  wordEntry "retry_interval_ms" c.retryIntervalMs]

/-- The settings of a client, without those of its parts. -/
def Config.entries (c : Config) : List (String × Option Setting) := [
  textEntry "locator" c.locator,
  textEntry "set_division" c.setDivision,
  wordEntry "refresh_endpoint_interval_ms" c.refreshEndpointInterval,
  wordEntry "check_status_interval_ms" c.checkStatusInterval,
  wordEntry "keep_alive_interval_ms" c.keepAliveInterval,
  wordEntry "request_timeout_ms" c.requestTimeout,
  wordEntry "async_invoke_timeout_ms" c.asyncInvokeTimeout,
  wordEntry "obj_queue_max" c.objectQueueMax,
  ("load_balance", some (.text c.loadBalance.name)),
  ("consistent_hash_algorithm", some (.text c.pointRule.name)),
  boolEntry "degrade_to_unhealthy" c.degradeToUnhealthy,
  textEntry "endpoint_cache_path" c.endpointCachePath]

/-- The sections of a configuration. -/
def Config.blocks (c : Config) : List Block := [
  { header := "", entries := c.entries },
  { header := "transport", entries := c.transport.entries },
  { header := "transport.tls", entries := c.transport.tls.entries },
  { header := "health", entries := c.health.entries }]

/-- The text of a configuration. -/
def Config.toToml (c : Config) : String := Toml.render c.blocks

end TaggedRpc
