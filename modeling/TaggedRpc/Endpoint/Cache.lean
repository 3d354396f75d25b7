import TaggedRpc.Endpoint.Directory
import TaggedRpc.Json.Parser
import TaggedRpc.Json.Printer
import TaggedRpc.Json.Record
import TaggedRpc.Bytes

/-!
# The endpoint cache

The endpoints of objects as they were last known, kept in a JSON file for times
when the directory is out of reach. There is one entry for each triple of an
object, a set and a locator; storing an entry writes the whole file.

The file is written beside itself and then put in place, so a write that fails
leaves the old file, but what was stored is known until the cache is opened
again. A file that is missing, is no UTF-8 or is malformed is an empty cache.
-/

namespace TaggedRpc

/-- The endpoints of an object in a set under a locator. -/
structure CacheEntry where
  name : String
  setId : String
  locator : String
  roster : Roster
  deriving DecidableEq, Repr, Inhabited

/-- A cache and its file. -/
structure Cache where
  entries : List CacheEntry := []
  /-- The bytes of the file, if it exists. -/
  file : Option Bytes := none
  /-- Whether the file can be written. -/
  writable : Bool := true
  deriving DecidableEq, Repr, Inhabited

/-! ## Writing the file -/

/-- The name of a transport in the file. -/
def Transport.fileName : Transport → String
  | .tcp => "tcp"
  | .udp => "udp"
  | .tls => "tls"

/-- The name of a weight type in the file. -/
def WeightType.fileName : WeightType → String
  | .loop => "loop"
  | .static => "static"

/-- An endpoint in the file. -/
def Endpoint.toJson (e : Endpoint) : Json :=
  .ofMembers [
    ("host", .string e.host),
    ("port", .nat e.port.toNat),
    ("transport", .string e.transport.fileName),
    ("timeout_ms", .nat e.timeoutMs.toNat),
    ("weight", .int e.weight.toInt),
    ("weight_type", .string e.weightType.fileName),
    ("set_id", .string e.setId)]

/-- An entry in the file. -/
def CacheEntry.toJson (c : CacheEntry) : Json :=
  .ofMembers [
    ("name", .string c.name),
    ("set_id", .string c.setId),
    ("locator", .string c.locator),
    ("endpoints", .array (c.roster.active.map Endpoint.toJson)),
    ("inactive_endpoints", .array (c.roster.inactive.map Endpoint.toJson))]

/-- The text of the file, with the time of writing in seconds. -/
def Cache.render (entries : List CacheEntry) (time : Nat) : String :=
  Json.pretty (.ofMembers [
    ("modify_time", .nat time),
    ("objects", .array (entries.map CacheEntry.toJson))])

/-! ## Reading the file -/

/-- The endpoint that a value is. -/
def Endpoint.ofJson? (v : Json) : Option Endpoint := do
  match ← v.record? ["host", "port", "transport", "timeout_ms", "weight", "weight_type",
      "set_id"] with
  | [host, port, transport, timeoutMs, weight, weightType, setId] =>
    pure {
      host := ← (← host).text?
      port := UInt16.ofNat (← (← port).nat? 0xFFFF)
      transport := ← (← transport).named? [("tcp", .tcp), ("udp", .udp), ("tls", .tls)]
      timeoutMs := UInt32.ofNat (← (← timeoutMs).nat? 0xFFFFFFFF)
      weight := Int32.ofInt (← (← weight).int? (-0x80000000) 0x7FFFFFFF)
      weightType := ← (← weightType).named? [("loop", .loop), ("static", .static)]
      setId := ← Json.orDefault "" Json.text? setId }
  | _ => none

/-- The entry that a value is. -/
def CacheEntry.ofJson? (v : Json) : Option CacheEntry := do
  match ← v.record? ["name", "set_id", "locator", "endpoints", "inactive_endpoints"] with
  | [name, setId, locator, active, inactive] =>
    pure {
      name := ← (← name).text?
      setId := ← Json.orDefault "" Json.text? setId
      locator := ← Json.orDefault "" Json.text? locator
      roster := {
        active := ← (← active).list? Endpoint.ofJson?
        inactive := ← Json.orDefault [] (Json.list? Endpoint.ofJson?) inactive } }
  | _ => none

namespace Cache

/-- The entries in a file. -/
def parse? (file : Bytes) : Option (List CacheEntry) := do
  match ← (← Json.parse? (← Bytes.text? file)).record? ["modify_time", "objects"] with
  | [time, objects] =>
    let _ ← (← time).nat? 0xFFFFFFFFFFFFFFFF
    (← objects).list? CacheEntry.ofJson?
  | _ => none

/-! ## Using the cache -/

/-- The cache over a file, or over none yet. -/
def load (file : Option Bytes) (writable : Bool) : Cache :=
  { entries := (file.bind parse?).getD [], file, writable }

/-- Opens the cache again over the file as it is. -/
def reopen (c : Cache) : Cache := load c.file c.writable

end Cache

/-- Whether an entry is the one for an object in a set under a locator. -/
def CacheEntry.matches (c : CacheEntry) (name setId locator : String) : Bool :=
  c.name == name && c.setId == setId && c.locator == locator

namespace Cache

/-- The endpoints of an object in a set under a locator. -/
def lookup? (c : Cache) (name setId locator : String) : Option Roster :=
  (c.entries.find? fun e => e.matches name setId locator).map CacheEntry.roster

/-- Puts an entry in place of the first one for the same triple, or at the end. -/
def upsert (entry : CacheEntry) : List CacheEntry → List CacheEntry
  | [] => [entry]
  | e :: es =>
    if e.matches entry.name entry.setId entry.locator then entry :: es else e :: upsert entry es

/-- Stores the endpoints of an object at a time in seconds. Says whether the
    file was written. -/
def store (c : Cache) (name setId locator : String) (roster : Roster) (time : Nat) :
    Bool × Cache :=
  let entries := upsert { name, setId, locator, roster } c.entries
  if c.writable then
    (true, { c with entries, file := some (Bytes.ofText (render entries time)) })
  else (false, { c with entries })

end Cache

end TaggedRpc
