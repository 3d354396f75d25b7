import TaggedRpc.Float.Nearest

/-!
# The health of an endpoint

An endpoint is healthy until it fails too much, and unhealthy until a reconnect
succeeds. Sends and outcomes are counted, and time comes from outside, in ticks
after some origin. How many ticks a millisecond has is a parameter of what compares
times; it is one where nothing else is said. A *check* moves the machine on:

* a healthy endpoint *trips* if it has failed `failThreshold` times in a row and
  had no success for `failWindow`; or if, at the end of a check interval, it has
  at least `minFailSamples` failures and the ratio of failures to sends reaches
  `failRatio`;
* an unhealthy one is due for a *retry* once in every `retryInterval`.

Only a reset makes an endpoint healthy again. Counters are words of 32 bits, and
time that goes backwards counts as no time.
-/

namespace TaggedRpc

/-- The limits of health. -/
structure HealthConfig where
  /-- The time without a success before failures in a row count, in milliseconds. -/
  failWindowMs : UInt64 := 5000
  /-- The failures in a row that trip the endpoint. -/
  failThreshold : UInt32 := 5
  /-- The time between two looks at the ratio, in milliseconds. -/
  checkIntervalMs : UInt64 := 60000
  /-- The failures that the ratio needs to count. -/
  minFailSamples : UInt32 := 2
  /-- The bits of the ratio of failures to sends that trips the endpoint: one half. -/
  failRatio : UInt64 := 0x3FE0000000000000
  /-- The time between two retries, in milliseconds. -/
  retryIntervalMs : UInt64 := 30000
  deriving DecidableEq, Repr, Inhabited

/-- What a check finds. -/
inductive HealthCheck where
  /-- Nothing is to do. -/
  | unchanged
  /-- The endpoint has just become unhealthy. -/
  | tripped
  /-- The endpoint is unhealthy, and a reconnect is due. -/
  | retry
  deriving DecidableEq, Repr, Inhabited

/-- The health of an endpoint. -/
structure Health where
  config : HealthConfig
  healthy : Bool := true
  sends : UInt32 := 0
  successes : UInt32 := 0
  failures : UInt32 := 0
  /-- The failures since the last success. -/
  failuresInRow : UInt32 := 0
  lastSuccess : Nat
  lastCheck : Nat
  lastBlock : Nat
  deriving DecidableEq, Repr, Inhabited

namespace Health

/-- A new endpoint. -/
def new (config : HealthConfig) (now : Nat) : Health :=
  { config, lastSuccess := now, lastCheck := now, lastBlock := now }

/-- Counts a send. -/
def onSend (h : Health) : Health := { h with sends := h.sends + 1 }

/-- Counts a number of sends. -/
def onSends (h : Health) (n : Nat) : Health := { h with sends := h.sends + UInt32.ofNat n }

/-- Counts a success. -/
def onSuccess (h : Health) (now : Nat) : Health :=
  { h with successes := h.successes + 1, failuresInRow := 0, lastSuccess := now }

/-- Counts a failure. -/
def onFailure (h : Health) : Health :=
  { h with failures := h.failures + 1, failuresInRow := h.failuresInRow + 1 }

/-- Makes an endpoint healthy, with nothing counted. -/
def reset (h : Health) (now : Nat) : Health :=
  { h with healthy := true, sends := 0, successes := 0, failures := 0, failuresInRow := 0
           lastSuccess := now, lastCheck := now }

/-- Whether the endpoint has failed too often in a row for too long. -/
def failsInRow (h : Health) (now : Nat) (ticks : Nat := 1) : Bool :=
  h.config.failWindowMs.toNat * ticks ≤ now - h.lastSuccess &&
    h.config.failThreshold ≤ h.failuresInRow

/-- Whether too many of the sends have failed. -/
def failsOften (h : Health) : Bool :=
  h.config.minFailSamples ≤ h.failures &&
    Float.quotientReaches h.failures.toNat (max h.sends.toNat 1) h.config.failRatio

/-- An endpoint that becomes unhealthy. -/
def trip (h : Health) (now : Nat) : HealthCheck × Health :=
  (.tripped, { h with healthy := false, lastBlock := now })

/-- Moves the machine on. -/
def check (h : Health) (now : Nat) (ticks : Nat := 1) : HealthCheck × Health :=
  if !h.healthy then
    if h.config.retryIntervalMs.toNat * ticks ≤ now - h.lastBlock then
      (.retry, { h with lastBlock := now })
    else (.unchanged, h)
  else if h.failsInRow now ticks then h.trip now
  else if h.config.checkIntervalMs.toNat * ticks ≤ now - h.lastCheck then
    let h := { h with lastCheck := now }
    if h.failsOften then h.trip now else (.unchanged, h)
  else (.unchanged, h)

end Health

end TaggedRpc
