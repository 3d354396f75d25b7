import TaggedRpc.Client.Servant
import TaggedRpc.Filter.Stock
import TaggedRpc.Manager.Basic

/-!
# Clients

A *client* has a configuration, the managers of the objects that it calls, one for
each object in a set, the servants that stand for these objects, and the ids of
its requests. It is shut down once and for all.

What happens outside is given: the outcome of an attempt to dial, and what a peer
sends while a call waits (`Outside`). Time is a clock in milliseconds that moves
when a call waits or the client sleeps. While it moves the client looks after its
managers: at regular intervals it asks the directory and checks health, it ends
the calls whose time is up, and it closes what has drained.

* `Client.proxy`: a servant for an object;
* `Client.sleep`: lets time pass;
* `Client.shutdown`: closes all managers.
-/

namespace TaggedRpc

/-- What happens outside of a client. -/
structure Outside where
  dial : Dialer
  /-- What the peer of a call sends while the call waits: one byte string for each
      read. -/
  arrivals : Request → Duration → List Bytes := fun _ _ => []

/-- An outside in which no socket can be connected, for a reason. -/
def Outside.unreachable (reason : String) : Outside where
  dial := Dialer.withoutTls fun _ address => .error (.dial address reason)

/-- A call that waits for its answer to go to a callback. -/
structure Expected where
  id : Int32
  /-- The name of the callback. -/
  label : String
  /-- The number of the servant. -/
  servant : Nat
  /-- The number of the manager. -/
  manager : Nat
  /-- The number of the connection of the adapter. -/
  connection : Nat
  /-- Whether the endpoint was a degraded pick. -/
  degraded : Bool
  started : Nat
  timeout : Duration
  deriving Inhabited

/-- The callback of a call, as the adapter knows it: the id in digits. -/
def Expected.callback (id : Int32) : Waiter := .callback (toString id.toInt)

/-- A client. -/
structure Client where
  config : Config
  sources : Sources
  /-- The id of the last request. -/
  lastId : Int32 := 0
  /-- All managers ever made, by number. -/
  managers : List Manager := []
  /-- The numbers of the managers in use, by object and set. -/
  table : List (String × Nat) := []
  /-- All servants, by number. -/
  servants : List Servant := []
  closed : Bool := false
  /-- The time, in milliseconds. -/
  clock : Nat := 0
  /-- How many random numbers have been drawn. -/
  draws : Nat := 0
  /-- The calls that wait for a callback. -/
  expected : List Expected := []
  /-- The calls for a callback that have not been sent yet, by id. -/
  offered : List Int32 := []
  /-- The callbacks that have run, oldest first. -/
  fired : List (String × Outcome) := []
  /-- The pushes that have come, with the callbacks that they went to. -/
  pushes : List (String × Bytes) := []
  /-- What tracing filters have seen. -/
  trace : List TraceEvent := []
  deriving Inhabited

namespace Client

/-- A client with a valid configuration. -/
def new (config : Config) (sources : Sources) : Except ConfigError Client :=
  match config.validate with
  | .ok config => .ok { config, sources }
  | .error e => .error e

/-! ## Parts of the state -/

/-- The time in nanoseconds. -/
def nanos (c : Client) : Nat := c.clock * 1000000

/-- A random number. -/
def draw : StateM Client Nat := modifyGet fun c => (c.draws, { c with draws := c.draws + 1 })

/-- The id of a new request. -/
def nextId : StateM Client Int32 :=
  modifyGet fun c => let id := RequestId.next c.lastId; (id, { c with lastId := id })

/-- Notes what a tracing filter sees. -/
def note : Filter.Note Client := fun e => modify fun c => { c with trace := c.trace ++ [e] }

/-- Changes a servant. -/
def modifyServant (number : Nat) (f : Servant → Servant) : StateM Client Unit :=
  modify fun c => { c with servants := c.servants.modify number f }

/-- Changes a manager. -/
def modifyManager (number : Nat) (f : Manager → Manager) : StateM Client Unit :=
  modify fun c => { c with managers := c.managers.modify number f }

/-- Acts on a manager. -/
def onManager {α : Type} (number : Nat) (default : α) (f : Manager → α × Manager) :
    StateM Client α :=
  modifyGet fun c =>
    match c.managers[number]? with
    | some m => let (r, m) := f m; (r, { c with managers := c.managers.set number m })
    | none => (default, c)

/-- Acts on an adapter of a manager. -/
def onAdapter {α : Type} (manager : Nat) (key : String) (default : α)
    (f : Adapter → α × Adapter) : StateM Client α := do
  pure ((← onManager manager none fun m => m.onAdapter? key f).getD default)

/-! ## Callbacks -/

/-- Runs the callback of a call, which is no longer under way. -/
def fire (e : Expected) (outcome : Outcome) : StateM Client Unit := do
  modifyServant e.servant fun s => { s with inFlight := s.inFlight.leave }
  modify fun c =>
    { c with
      expected := c.expected.filter fun x => x.id != e.id
      fired := c.fired ++ [(e.label, outcome)] }

/-- Runs the callbacks of waiters that get no answer any more. -/
def failWaiters (manager : Nat) (ws : List Waiter) : StateM Client Unit := do
  for e in (← get).expected.filter fun e => e.manager = manager ∧ Expected.callback e.id ∈ ws do
    fire e (.error .shutdown)

/-- Ends a call for a callback whose time is up. -/
def expire (e : Expected) : StateM Client Unit := do
  let now := (← get).clock
  let ended ← onManager e.manager none fun m => m.onCall? e.id fun a =>
    ((), (a.cancel e.id).2.finishCall e.connection false now)
  if ended.isSome then
    fire e (.error (.timeout e.id ⟨(now - e.started) * 1000000⟩))

/-! ## Time -/

/-- Whether a manager is due for something that happens at regular intervals. -/
def isDue (c : Client) (m : Manager) (interval : UInt64) : Bool :=
  m.started < c.clock && (c.clock - m.started) % interval.toNat == 0

/-- Asks the directory for the roster of a manager. -/
def refresh (number : Nat) : StateM Client (Except RpcError Bool) := do
  let draw ← draw
  let c ← get
  match c.managers[number]? with
  | none => pure (.ok false)
  | some m =>
    let (answer, sources, m) := m.refresh c.sources draw c.clock
    set { c with sources, managers := c.managers.set number m }
    pure answer

/-- Pings and checks the endpoints of a manager. -/
def checkStatus (out : Outside) (keepAlive : Option Nat) (number : Nat) : StateM Client Unit := do
  let draw ← draw
  let c ← get
  let lastId ← onManager number c.lastId fun m =>
    m.checkStatus out.dial keepAlive c.lastId draw c.clock
  modify fun c => { c with lastId }

/-- Looks after a manager. -/
def maintain (out : Outside) (number : Nat) : StateM Client Unit := do
  let c ← get
  match c.managers[number]? with
  | none => pure ()
  | some m =>
    if !c.closed then
      if !m.direct && c.isDue m c.config.refreshEndpointInterval then
        let _ ← refresh number
      if c.isDue m c.config.checkStatusInterval then
        checkStatus out (c.config.keepAlive?.map UInt64.toNat) number
    let dropped ← onManager number [] fun m => m.poll c.clock
    failWaiters number dropped

/-- Lets a millisecond pass. -/
def tick (out : Outside) : StateM Client Unit := do
  modify fun c => { c with clock := c.clock + 1 }
  let c ← get
  for number in List.range c.managers.length do
    maintain out number
  for e in c.expected.filter fun e => e.timeout.nanos ≤ (c.clock - e.started) * 1000000 do
    expire e

/-- Lets milliseconds pass. -/
def sleep (out : Outside) : (ms : Nat) → StateM Client Unit
  | 0 => pure ()
  | ms + 1 => do
    tick out
    sleep out ms

/-! ## Objects -/

/-- What the managers of the client have in common. -/
def managerConfig (c : Client) (object : String) : ManagerConfig where
  routing := { loadBalance := c.config.loadBalance, pointRule := c.config.pointRule }
  degradeToUnhealthy := c.config.degradeToUnhealthy
  locator := c.config.locator.getD ""
  adapter := {
    object
    transport := c.config.transport
    health := c.config.health
    reconnectGrace := c.config.requestTimeout.toNat }

/-- What a manager is known by: the text of the reference, and the set. -/
def tableKey (text : String) (set : Option String) : String :=
  match set with
  | some set => Text.trim text ++ "#" ++ set
  | none => Text.trim text

/-- The number of the manager for a reference in a set, which is made if it is not
    there. The empty set is no set. -/
def manager (text : String) (set : Option String) : StateM Client (Except RpcError Nat) := do
  let c ← get
  if c.closed then pure (.error .shutdown)
  else
    match Reference.parse text with
    | .error e => pure (.error (.ofParse e))
    | .ok ref =>
      let set := set.filter (· ≠ "")
      let key := tableKey text set
      match c.table.lookup key with
      | some number => pure (.ok number)
      | none =>
        let (loaded, sources) := Manager.load ref set (c.managerConfig ref.name) c.sources (← draw) c.clock
        modify fun c => { c with sources }
        match loaded with
        | .error e => pure (.error e)
        | .ok m =>
          let number := c.managers.length
          modify fun c =>
            { c with managers := c.managers ++ [m], table := c.table ++ [(key, number)] }
          pure (.ok number)

/-- A servant for a reference in a set. Gives its number. -/
def proxyIn (text : String) (set : Option String) : StateM Client (Except RpcError Nat) := do
  match ← manager text set with
  | .error e => pure (.error e)
  | .ok number =>
    let c ← get
    let servant : Servant :=
      { name := (c.managers[number]?.map Manager.object).getD ""
        manager := number
        timeout := .ofMillis c.config.requestTimeout.toNat
        asyncTimeout := .ofMillis c.config.asyncInvokeTimeout.toNat
        inFlight := { limit := c.config.objectQueueMax.toNat } }
    modify fun c => { c with servants := c.servants ++ [servant] }
    pure (.ok c.servants.length)

/-- A servant for a reference, in the set of the configuration. -/
def proxy (text : String) : StateM Client (Except RpcError Nat) := do
  proxyIn text (← get).config.setDivision

/-! ## Shutting down -/

/-- Whether everything that drains has drained. -/
def isDrained (c : Client) : Bool := c.managers.all fun m => m.leaving.isEmpty

/-- Lets time pass until everything has drained. -/
def settle (out : Outside) : (ms : Nat) → StateM Client Unit
  | 0 => pure ()
  | ms + 1 => do
    if !(← get).isDrained then
      tick out
      settle out ms

/-- Closes all managers, and lets the calls under way end for some time at most. -/
def shutdown (out : Outside) (grace : Duration) : StateM Client Unit := do
  let c ← get
  if !c.closed then
    for number in c.table.map (·.2) do
      modifyManager number fun m => m.close grace.millis c.clock
    modify fun c => { c with closed := true, table := [] }
    for number in List.range c.managers.length do
      maintain out number
    settle out (grace.millis + 1)

end Client

end TaggedRpc
