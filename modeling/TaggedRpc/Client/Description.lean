import TaggedRpc.Client.Basic
import TaggedRpc.Text.Record

/-!
# Descriptions

One line on each part of a client, for its log: what it is called, and the counts
and states that tell how it is doing. The names of the records and their fields
are those that readers of the log look for.
-/

namespace TaggedRpc

/-- The name of a transport in a description. -/
def Transport.label : Transport → String
  | .tcp => "Tcp"
  | .udp => "Udp"
  | .tls => "Tls"

/-- How many filters there are in each place. -/
def FilterChain.description {σ : Type} (c : FilterChain σ) : String :=
  Text.record "FilterChain" [
    ("pre", toString c.before.length),
    ("primary", toString c.middle.isSome),
    ("post", toString c.after.length)]

/-- The counters of health. -/
def Health.description (h : Health) : String :=
  Text.record "HealthStats" [
    ("healthy", toString h.healthy),
    ("send_count", toString h.sends),
    ("success_count", toString h.successes),
    ("fail_count", toString h.failures),
    ("last_fail_count", toString h.failuresInRow)]

/-- Where a connection goes, and whether it is up. -/
def Connection.description (c : Connection) : String :=
  Text.record "Connection" [
    ("addr", Text.quoted c.address),
    ("transport", c.transport.label),
    ("connected", toString c.isConnected),
    ("invoke_num", toString c.calls)]

/-- An endpoint, its health and the calls on it. -/
def Adapter.description (a : Adapter) : String :=
  Text.record "AdapterProxy" [
    ("endpoint", Text.quoted a.key),
    ("health", a.health.description),
    ("pending", toString a.pending.size),
    ("closed", toString a.closed)]

/-- An object and how many endpoints there are for it. -/
def Manager.description (m : Manager) : String :=
  Text.record "EndpointManager" [
    ("obj_name", Text.quoted m.object),
    ("set", Text.optional (m.set.map Text.quoted)),
    ("direct", toString m.direct),
    ("active", toString m.roster.active.length),
    ("alive", toString m.alive.endpoints.length),
    ("adapters", toString m.adapters.length)]

/-- A servant, and the filters of its client. -/
def Servant.description {σ : Type} (s : Servant) (filters : FilterChain σ) : String :=
  Text.record "ServantProxy" [
    ("name", Text.quoted s.name),
    ("timeout", s.timeout.text),
    ("in_flight", toString s.inFlight.count),
    ("filters", filters.description)]

/-- A client and its filters. -/
def Client.description {σ : Type} (c : Client) (filters : FilterChain σ) : String :=
  Text.record "Communicator" [
    ("locator", Text.optional (c.config.locator.map Text.quoted)),
    ("set_division", Text.optional (c.config.setDivision.map Text.quoted)),
    ("filters", filters.description),
    ("shutdown", toString c.closed)]

end TaggedRpc
