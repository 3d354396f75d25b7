import TaggedRpc.Adapter
import TaggedRpc.Digest.Crc32
import TaggedRpc.Endpoint.Cache
import TaggedRpc.Endpoint.Reference
import TaggedRpc.Manager.Alive

/-!
# Managers

A *manager* looks after the endpoints of one object, in one set. It has the
*roster* of active and inactive endpoints, the *alive set* of the active ones that
are not known to be unhealthy, and a *pool* of adapters, one for each endpoint
that has been picked.

* The roster of an object with pinned endpoints is fixed. Otherwise it comes from
  a directory (`refresh`), or at the start from the cache if the directory does not
  answer. A roster without active endpoints is ignored.
* The adapters of endpoints that are no longer active leave the pool and drain.
* `select` picks the adapter for a call. The alive set lags behind health, so an
  unhealthy pick is passed over for the next healthy endpoint of the set. If there
  is none the pick is *degraded*: any active endpoint will do, if that is allowed.
* `checkStatus` pings idle connections, checks health, and builds the alive set
  again if the health of an endpoint has changed.

The order of the alive set depends on the keys of its endpoints only, and so does
the order of the roster on its texts, so all clients route alike.

Random numbers come from outside, as natural numbers of which a residue is taken.
-/

namespace TaggedRpc

/-- How a manager works. -/
structure ManagerConfig where
  routing : RoutingConfig := {}
  /-- Whether an unhealthy endpoint is called if there is no healthy one. -/
  degradeToUnhealthy : Bool := true
  /-- What the directory is known by in the cache. -/
  locator : String := ""
  adapter : AdapterConfig
  deriving DecidableEq, Repr, Inhabited

/-- Where rosters come from and are kept. -/
structure Sources where
  directory : Option Directory := none
  cache : Option Cache := none
  /-- The time that goes into the file of the cache, in seconds. -/
  time : Nat := 0
  deriving Inhabited

/-- The endpoints of one object in one set. -/
structure Manager where
  object : String
  /-- The set; never the empty text. -/
  set : Option String
  /-- Whether the endpoints are pinned. -/
  direct : Bool
  config : ManagerConfig
  roster : Roster := ⟨[], []⟩
  alive : AliveSet
  /-- The pool of adapters. -/
  adapters : List Adapter := []
  /-- Adapters that have left the pool and drain. -/
  leaving : List Adapter := []
  closed : Bool := false
  /-- When the manager was made, in milliseconds. -/
  started : Nat := 0
  deriving Inhabited

namespace Manager

/-- The set as the cache knows it. -/
def cacheSet (m : Manager) : String := m.set.getD ""

/-! ## The pool -/

/-- The adapter of an endpoint, by its key. -/
def adapter? (m : Manager) (key : String) : Option Adapter :=
  m.adapters.find? fun a => a.key == key

/-- Changes the adapter with a key. -/
def modifyAdapter (m : Manager) (key : String) (f : Adapter → Adapter) : Manager :=
  { m with adapters := m.adapters.map fun a => if a.key = key then f a else a }

/-- Acts on the adapter with a key, if it is in the pool. -/
def onAdapter? {α : Type} (m : Manager) (key : String) (f : Adapter → α × Adapter) :
    Option α × Manager :=
  match m.adapter? key with
  | some a =>
    let (r, a') := f a
    (some r, m.modifyAdapter key fun _ => a')
  | none => (none, m)

/-- Acts on the adapter on which a call waits, wherever it is. -/
def onCall? {α : Type} (m : Manager) (id : Int32) (f : Adapter → α × Adapter) :
    Option α × Manager :=
  let waits := fun a : Adapter => a.pending.contains id
  let change := fun a : Adapter => if waits a then (f a).2 else a
  match (m.adapters ++ m.leaving).find? waits with
  | some a =>
    (some (f a).1, { m with adapters := m.adapters.map change, leaving := m.leaving.map change })
  | none => (none, m)

/-- The adapter of an endpoint, which is made if it is not in the pool. -/
def adapterFor (m : Manager) (e : Endpoint) (now : Nat) : Adapter × Manager :=
  match m.adapter? e.key with
  | some a => (a, m)
  | none =>
    let a := Adapter.new e m.config.adapter now
    (a, { m with adapters := m.adapters ++ [a] })

/-! ## The alive set -/

/-- Whether an endpoint has no adapter or a healthy one. -/
def isEligible (m : Manager) (e : Endpoint) : Bool :=
  match m.adapter? e.key with
  | some a => a.isHealthy
  | none => true

/-- The order of the alive set. -/
def aliveLe (a b : Endpoint) : Bool :=
  Digest.crc32 (Bytes.ofText a.key) ≤ Digest.crc32 (Bytes.ofText b.key)

/-- The active endpoints that are eligible, in the order of the alive set. -/
def eligible (m : Manager) : List Endpoint :=
  (m.roster.active.filter m.isEligible).mergeSort aliveLe

/-- Builds the alive set again. -/
def rebuildAlive (m : Manager) (draw : Nat) : Manager :=
  { m with alive := .ofList m.config.routing m.eligible draw }

/-- Puts an endpoint that has recovered back into the alive set. -/
def addAlive (m : Manager) (e : Endpoint) (draw : Nat) : Manager :=
  let isIn := fun (es : List Endpoint) => es.any fun x => decide (x.Same e)
  if isIn m.roster.active && !isIn m.alive.endpoints then m.rebuildAlive draw else m

/-! ## The roster -/

/-- The order of a roster. -/
def textLe (a b : Endpoint) : Bool := a.text ≤ b.text

/-- A roster in order. -/
def sorted (r : Roster) : Roster :=
  ⟨r.active.mergeSort textLe, r.inactive.mergeSort textLe⟩

/-- Whether two lists of endpoints have the same texts. -/
def sameTexts (a b : List Endpoint) : Bool := a.map Endpoint.text == b.map Endpoint.text

/-- Whether an endpoint is the active endpoint with its key. -/
def isActiveKey (r : Roster) (key : String) : Bool := r.active.any fun e => e.key == key

/-- Makes the adapters of endpoints that are not active leave. -/
def evict (m : Manager) (now : Nat) : Manager :=
  let stale := m.adapters.filter fun a => !isActiveKey m.roster a.key
  { m with
    adapters := m.adapters.filter fun a => isActiveKey m.roster a.key
    leaving := m.leaving ++ stale.map fun a => a.drain m.config.adapter.reconnectGrace now }

/-- Takes a roster over. Says whether anything has changed. -/
def apply (m : Manager) (r : Roster) (draw now : Nat) : Bool × Manager :=
  if r.active.isEmpty then (false, m)
  else
    let r := sorted r
    if sameTexts m.roster.active r.active && sameTexts m.roster.inactive r.inactive then (false, m)
    else (true, ({ m with roster := r }.evict now).rebuildAlive draw)

/-- Keeps the roster in the cache. -/
def persist (m : Manager) (s : Sources) : Sources :=
  { s with cache := s.cache.map fun c =>
      (c.store m.object m.cacheSet m.config.locator m.roster s.time).2 }

/-- Asks the directory. Says whether anything has changed. Pinned endpoints and a
    closed manager stay as they are. -/
def refresh (m : Manager) (s : Sources) (draw now : Nat) :
    Except RpcError Bool × Sources × Manager :=
  if m.direct || m.closed then (.ok false, s, m)
  else
    match s.directory with
    | none => (.error (.registry s!"no registry for {m.object}"), s, m)
    | some d =>
      let (answer, d) := d.query m.object m.set
      let s := { s with directory := some d }
      match answer with
      | .error e => (.error e, s, m)
      | .ok r =>
        let (changed, m) := m.apply r draw now
        (.ok changed, if changed then m.persist s else s, m)

/-- The roster in the cache. -/
def cached? (m : Manager) (s : Sources) : Option Roster :=
  s.cache.bind fun c => c.lookup? m.object m.cacheSet m.config.locator

/-- A manager without endpoints. -/
def empty (ref : Reference) (set : Option String) (config : ManagerConfig) (draw now : Nat) :
    Manager where
  object := ref.name
  set := set.filter (· ≠ "")
  direct := ref.isDirect
  config := config
  alive := .ofList config.routing [] draw
  started := now

/-- The manager of a reference, with its first roster. -/
def load (ref : Reference) (set : Option String) (config : ManagerConfig) (s : Sources)
    (draw now : Nat) : Except RpcError Manager × Sources :=
  let m := empty ref set config draw now
  match ref.direct, s.directory with
  | some endpoints, _ => (.ok (m.apply ⟨endpoints, []⟩ draw now).2, s)
  | none, none =>
    (.error (.config s!"{ref.name} has no endpoints and no registry is configured"), s)
  | none, some _ =>
    match m.refresh s draw now with
    | (.ok _, s, m) => (.ok m, s)
    | (.error _, s, m) =>
      match m.cached? s with
      | some r => (.ok (m.apply r draw now).2, s)
      | none => (.ok m, s)

/-! ## Selecting -/

/-- The first endpoint of a list whose adapter is healthy. Adapters are made on the
    way. -/
def firstHealthy (m : Manager) (now : Nat) : List Endpoint → Option Endpoint × Manager
  | [] => (none, m)
  | e :: es =>
    let (a, m) := m.adapterFor e now
    if a.isHealthy then (some e, m) else m.firstHealthy now es

/-- The key of the adapter for a call, and whether the pick is degraded. -/
def select (m : Manager) (hash : Option HashKey) (draw now : Nat) :
    Except RpcError (String × Bool) × Manager :=
  if m.closed then (.error .shutdown, m)
  else
    let (picked, alive) := m.alive.select hash draw
    let m := { m with alive }
    let (found, m) := match picked with
      | .ok e => m.firstHealthy now (e :: alive.others e)
      | .error _ => (none, m)
    match found with
    | some e => (.ok (e.key, false), m)
    | none =>
      if !m.config.degradeToUnhealthy then (.error (.noEndpoint m.object), m)
      else
        match m.roster.active[draw % m.roster.active.length]? with
        | some e => (.ok (e.key, true), (m.adapterFor e now).2)
        | none => (.error (.noEndpoint m.object), m)

/-! ## Status -/

/-- Pings and checks one adapter. Says whether its health has changed. -/
def checkAdapter (dial : Dialer) (keepAlive : Option Nat) (now : Nat) (lastId : Int32)
    (a : Adapter) : Bool × Int32 × Adapter :=
  let (lastId, a) := match keepAlive with
    | some interval =>
      if a.isHealthy then a.keepAlive dial interval lastId now else (lastId, a)
    | none => (lastId, a)
  let (event, a) := a.checkHealth dial now
  (event != .nothing, lastId, a)

/-- Pings and checks adapters, one after another. -/
def checkAdapters (dial : Dialer) (keepAlive : Option Nat) (now : Nat) (lastId : Int32) :
    List Adapter → Bool × Int32 × List Adapter
  | [] => (false, lastId, [])
  | a :: as =>
    let (changed, lastId, a) := checkAdapter dial keepAlive now lastId a
    let (others, lastId, as) := checkAdapters dial keepAlive now lastId as
    (changed || others, lastId, a :: as)

/-- Pings idle connections if there is an interval for that, and checks the health
    of all endpoints in the pool. Gives the last request id in use. -/
def checkStatus (m : Manager) (dial : Dialer) (keepAlive : Option Nat) (lastId : Int32)
    (draw now : Nat) : Int32 × Manager :=
  if m.closed then (lastId, m)
  else
    let (changed, lastId, adapters) := checkAdapters dial keepAlive now lastId m.adapters
    let m := { m with adapters }
    (lastId, if changed then m.rebuildAlive draw else m)

/-! ## Closing -/

/-- Selects no more, and drains all adapters. -/
def close (m : Manager) (grace now : Nat) : Manager :=
  { m with
    closed := true
    adapters := []
    leaving := m.leaving ++ m.adapters.map fun a => a.drain grace now }

/-- Closes what has drained, and the sockets on which nothing has happened for too
    long. Adapters that have drained are gone. Gives the waiters that get no answer
    any more. -/
def poll (m : Manager) (now : Nat) : List Waiter × Manager :=
  let idle := fun a : Adapter => { a with connection := a.connection.closeIdle now }
  let leaving := m.leaving.map (·.poll now)
  (leaving.flatMap (·.1),
    { m with
      adapters := m.adapters.map fun a => idle (a.poll now).2
      leaving := (leaving.map (·.2)).filter fun a => !a.connection.closed })

end Manager

end TaggedRpc
