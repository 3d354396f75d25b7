import TaggedRpc.Client.Basic

/-!
# Calls

A call goes through the filters of the client and is then *dispatched*: an
endpoint is selected, the request is sent to it, and

* a call that waits gets the answer, or its time runs out;
* a oneway call is over when it has been sent;
* a call for a callback is under way when it has been sent, and the callback runs
  when the answer comes or the time runs out. If it is not sent, the callback does
  not run.

An answer with a return code other than zero is a failure of the call, but speaks
for the endpoint. An answer from a degraded pick puts the endpoint back among the
alive ones.

Filters see what the servant is told: the time that is left to a call goes into its
request when it is dispatched.
-/

namespace TaggedRpc.Client

/-- The endpoint that a call goes to. -/
structure Target where
  /-- The number of the manager. -/
  manager : Nat
  endpoint : Endpoint
  degraded : Bool

/-- The key of the endpoint. -/
def Target.key (t : Target) : String := t.endpoint.key

/-- Sets the callback for the pushes of the endpoints that a servant calls. -/
def setPushCallback (number : Nat) (callback : String) : StateM Client Unit :=
  modifyServant number fun s => { s with pushCallback := some callback }

/-- Selects the endpoint for a call of a servant. Its pushes go to the callback of the
    servant, if they do not go to another one. -/
def select (number : Nat) (hash : Option HashKey) : StateM Client (Except RpcError Target) := do
  let draw ← draw
  let c ← get
  match c.servants[number]? with
  | none => pure (.error .shutdown)
  | some s =>
    let picked ← onManager s.manager (.error .shutdown) fun m => m.select hash draw c.clock
    match picked with
    | .error e => pure (.error e)
    | .ok (key, degraded) =>
      let endpoint ← onAdapter s.manager key default fun a =>
        (a.endpoint, { a with pushTo := a.pushTo.or s.pushCallback })
      pure (.ok { manager := s.manager, endpoint, degraded })

/-- Acts on the adapter of a target. -/
def onTarget {α : Type} (t : Target) (default : α) (f : Adapter → Nat → α × Adapter) :
    StateM Client α := do
  let now := (← get).clock
  onAdapter t.manager t.key default fun a => f a now

/-- Sends a request. Gives the number of the connection. -/
def send (out : Outside) (t : Target) (r : Request) : StateM Client (Except RpcError Nat) :=
  onTarget t (.error .shutdown) fun a now => a.send out.dial r now

/-- Puts a degraded pick that has answered back among the alive endpoints. -/
def revive (manager : Nat) (e : Endpoint) (degraded : Bool) : StateM Client Unit := do
  if degraded then
    let draw ← draw
    let now := (← get).clock
    onAdapter manager e.key () fun a => ((), a.heal now)
    modifyManager manager fun m => m.addAlive e draw

/-- The outcome that an answer is. -/
def outcomeOf (r : Response) : Outcome :=
  if r.ret = ReturnCode.success then .ok r else .error (.application r.ret r.description)

/-- Takes in what has arrived from a target. Gives the answer for the caller that
    waits, if it is there. -/
def takeIn (t : Target) : Arrival → StateM Client (Option Response)
  | .answered (.caller _) r => pure (some r)
  | .answered (.callback _) r => do
    match (← get).expected.find? fun e => e.id == r.requestId with
    | some e =>
      onTarget t () fun a now => ((), a.finishCall e.connection true now)
      revive t.manager t.endpoint e.degraded
      fire e (outcomeOf r)
    | none => pure ()
    pure none
  | .pushed callback payload => do
    modify fun c => { c with pushes := c.pushes ++ [(callback, payload)] }
    pure none
  | .reconnected | .dropped => pure none

/-- Takes in what has arrived from a target, one after another. -/
def takeAllIn (t : Target) (arrivals : List Arrival) : StateM Client (Option Response) := do
  let answers ← arrivals.mapM (takeIn t)
  pure (answers.findSome? id)

/-- Reads from a target. -/
def read (t : Target) : (chunks : List Bytes) → StateM Client (Option Response)
  | [] => pure none
  | chunk :: chunks => do
    let arrivals ← onTarget t [] fun a now => a.receive chunk now
    let answer ← takeAllIn t arrivals
    let later ← read t chunks
    pure (answer.or later)

/-! ## Dispatching -/

/-- Ends an invocation. -/
def ended (v : Invocation) (c : Client) : Invocation := v.finish c.nanos

/-- An invocation that could not be sent. -/
def unsent (v : Invocation) (e : RpcError) : StateM Client Completion := do
  pure (.error e, { v.finish (← get).nanos with status := e.code })

/-- Dispatches a oneway call. -/
def dispatchOneway (out : Outside) (t : Target) (v : Invocation) : StateM Client Completion := do
  match ← send out t v.request with
  | .error e => unsent v e
  | .ok _ =>
    onTarget t () fun a now => ((), a.record true now)
    pure (.ok (), ended v (← get))

/-- Dispatches a call that waits for its answer. -/
def dispatchWaiting (out : Outside) (t : Target) (v : Invocation) (timeout : Duration) :
    StateM Client Completion := do
  onTarget t () fun a _ => ((), a.register v.id (.caller 0))
  match ← send out t v.request with
  | .error e =>
    onTarget t () fun a _ => ((), (a.cancel v.id).2)
    unsent v e
  | .ok connection =>
    match ← read t (out.arrivals v.request timeout) with
    | some r =>
      onTarget t () fun a now => ((), a.finishCall connection true now)
      revive t.manager t.endpoint t.degraded
      let v := { ended v (← get) with status := r.ret, response := some r }
      pure ((outcomeOf r).map fun _ => (), v)
    | none =>
      sleep out timeout.millis
      let v := ended v (← get)
      let e := RpcError.timeout v.id (v.cost 0)
      onTarget t () fun a now => ((), (a.cancel v.id).2.finishCall connection false now)
      pure (.error e, { v with status := e.code })

/-- Dispatches a call of a servant. -/
def dispatch (out : Outside) (servant : Nat) : Call Client := fun v timeout => do
  let v := { v with request := { v.request with timeout := timeout.clampedMillis } }
  match ← select servant v.hash with
  | .error e => pure (.error e, v)
  | .ok t =>
    let v := { v with endpoint := some t.endpoint }
    if v.isOneway then dispatchOneway out t v else dispatchWaiting out t v timeout

/-- Dispatches a call for a callback. It has been offered under its first id, and can
    be sent once. -/
def dispatchCallback (out : Outside) (servant : Nat) (offer : Int32) (label : String) :
    Call Client := fun v timeout => do
  if offer ∉ (← get).offered then
    pure (.error (.filter "callback call dispatched twice"), v)
  else
    modify fun c => { c with offered := c.offered.filter (· != offer) }
    let leave := modifyServant servant fun s => { s with inFlight := s.inFlight.leave }
    let v := { v with request := { v.request with timeout := timeout.clampedMillis } }
    match ← select servant v.hash with
    | .error e =>
      leave
      pure (.error e, v)
    | .ok t =>
      let v := { v with endpoint := some t.endpoint }
      onTarget t () fun a _ => ((), a.register v.id (Expected.callback v.id))
      match ← send out t v.request with
      | .error e =>
        onTarget t () fun a _ => ((), (a.cancel v.id).2)
        leave
        unsent v e
      | .ok connection =>
        modify fun c =>
          { c with expected := c.expected ++ [{
              id := v.id, label, servant, manager := t.manager, connection
              degraded := t.degraded, started := c.clock, timeout }] }
        let _ ← read t (out.arrivals v.request timeout)
        pure (.ok (), v)

/-! ## Calling -/

/-- Counts a call of a servant, if there is room for it. -/
def acquire (servant : Nat) : StateM Client (Except RpcError Unit) := do
  match (← get).servants[servant]? with
  | none => pure (.error .shutdown)
  | some s =>
    let (admitted, inFlight) := s.inFlight.acquire
    modifyServant servant fun s => { s with inFlight }
    match admitted with
    | .ok () => pure (.ok ())
    | .error previous => pure (.error (.overloaded s.name previous))

/-- A call of a servant is over. -/
def release (servant : Nat) : StateM Client Unit :=
  modifyServant servant fun s => { s with inFlight := s.inFlight.leave }

/-- A new invocation of a servant. -/
def start (servant : Nat) (func : String) (buffer : Bytes) (packetType : Int8) (o : CallOptions)
    (timeout : Duration) : StateM Client Invocation := do
  let id ← nextId
  let c ← get
  let s := (c.servants[servant]?).getD default
  let set := (c.managers[s.manager]?).bind Manager.set
  pure (s.invocation set func buffer packetType o id timeout c.nanos)

/-- The timeout of a call. -/
def timeoutOf (servant : Nat) (o : CallOptions) (default : Servant → Duration) :
    StateM Client Duration := do
  pure (o.timeout.getD (((← get).servants[servant]?.map default).getD ⟨0⟩))

/-- Calls a function of a servant, and waits for the answer. -/
def invoke (out : Outside) (filters : FilterChain Client) (servant : Nat) (func : String)
    (buffer : Bytes) (o : CallOptions) : StateM Client Outcome := do
  let timeout ← timeoutOf servant o Servant.timeout
  match ← acquire servant with
  | .error e => pure (.error e)
  | .ok () =>
    let v ← start servant func buffer Packet.normal o timeout
    let (verdict, v) ← filters.run (dispatch out servant) v timeout
    release servant
    match verdict, v.response with
    | .error e, _ => pure (.error e)
    | .ok (), some r => pure (.ok r)
    | .ok (), none => pure (.error (.filter s!"{func} returned without a response"))

/-- Calls a function of a servant that is not answered. -/
def invokeOneway (out : Outside) (filters : FilterChain Client) (servant : Nat) (func : String)
    (buffer : Bytes) (o : CallOptions) : StateM Client (Except RpcError Unit) := do
  let timeout ← timeoutOf servant o Servant.timeout
  match ← acquire servant with
  | .error e => pure (.error e)
  | .ok () =>
    let v ← start servant func buffer Packet.oneway o timeout
    let (verdict, _) ← filters.run (dispatch out servant) v timeout
    release servant
    pure verdict

/-- Calls a function of a servant whose answer goes to a callback with a name. A call
    that no filter has let through to the end is over. -/
def invokeAsync (out : Outside) (filters : FilterChain Client) (servant : Nat) (func : String)
    (buffer : Bytes) (o : CallOptions) (label : String) : StateM Client (Except RpcError Unit) := do
  let timeout ← timeoutOf servant o Servant.asyncTimeout
  match ← acquire servant with
  | .error e => pure (.error e)
  | .ok () =>
    let v ← start servant func buffer Packet.normal o timeout
    let request := { v.request with messageType := v.request.messageType ||| Packet.asyncFlag }
    let v := { v with request }
    modify fun c => { c with offered := v.id :: c.offered }
    let (verdict, _) ← filters.run (dispatchCallback out servant v.id label) v timeout
    if v.id ∈ (← get).offered then
      modify fun c => { c with offered := c.offered.filter (· != v.id) }
      release servant
    pure verdict

end TaggedRpc.Client
