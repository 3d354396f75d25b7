import TaggedRpc.Filter.Basic

/-!
# Stock filters

Filters that change the request or its time on the way in, filters that end a
call early, filters that change the outcome on the way out, and filters that keep
a *trace*: a list of what they see, oldest first. A trace is kept in a part of the
state that the filter is told about.
-/

namespace TaggedRpc

/-! ## Traces -/

/-- How a step went, without the answer. -/
abbrev Verdict := Except RpcError Unit

/-- What a tracing filter sees. -/
inductive TraceEvent where
  /-- An invocation on its way in, at a filter or, without a name, at the end. -/
  | entered (name : Option String) (invocation : Invocation) (timeout : Duration)
  /-- The way back from the rest, at a filter. -/
  | left (name : String) (verdict : Verdict)
  /-- An invocation on its way back, at a filter. -/
  | outcome (name : String) (invocation : Invocation) (verdict : Verdict)
  /-- The way back from a first try of the rest. -/
  | first (verdict : Verdict)
  deriving Inhabited

namespace Filter

variable {σ : Type}

/-- A way to keep a trace in a state. -/
abbrev Note (σ : Type) := TraceEvent → StateM σ Unit

/-! ## On the way in -/

/-- Changes the invocation and the time. -/
def mapEntry (change : Invocation → Duration → Invocation × Duration) : Filter σ :=
  fun rest v timeout =>
    let (v, timeout) := change v timeout
    rest v timeout

/-- Changes the request. -/
def mapRequest (change : Request → Request) : Filter σ :=
  mapEntry fun v timeout => ({ v with request := change v.request }, timeout)

/-- Multiplies the time with a fraction, rounded down to nanoseconds. -/
def scale (num den : Nat) : Filter σ :=
  mapEntry fun v timeout => (v, ⟨timeout.nanos * num / den⟩)

/-- Bounds the time. -/
def atMost (bound : Duration) : Filter σ :=
  mapEntry fun v timeout => (v, ⟨min timeout.nanos bound.nanos⟩)

/-- Sets an entry of the context. -/
def setContext (key value : String) : Filter σ :=
  mapRequest fun r => { r with context := r.context.insert key value }

/-- Sets an entry of the status. -/
def setStatus (key value : String) : Filter σ :=
  mapRequest fun r => { r with status := r.status.insert key value }

/-- Calls another function. -/
def rename (func : String) : Filter σ := mapRequest fun r => { r with func }

/-- Routes the call otherwise. -/
def rehash (hash : Option HashKey) : Filter σ :=
  mapEntry fun v timeout => ({ v with hash }, timeout)

/-! ## Ending early -/

/-- Fails without going on. -/
def fail (e : RpcError) : Filter σ := fun _ v _ => pure (.error e, v)

/-- Refuses the call, for a reason. -/
def refuse (reason : String) : Filter σ := fail (.filter reason)

/-- Succeeds without going on. -/
def skip : Filter σ := fun _ v _ => pure (.ok (), v)

/-- Answers the call without going on. -/
def answer (ret : Int32) (buffer : Bytes) : Filter σ :=
  fun _ v _ => pure (.ok (), { v with response := some (.replyTo v.request ret buffer) })

/-! ## On the way out -/

/-- Changes how the rest went. -/
def mapExit (change : Completion → Completion) : Filter σ :=
  fun rest v timeout => change <$> rest v timeout

/-- Takes every outcome for a success. -/
def swallow : Filter σ := mapExit fun (_, v) => (.ok (), v)

/-- Appends to the result, if there is an answer. -/
def append (buffer : Bytes) : Filter σ :=
  mapExit fun (verdict, v) =>
    (verdict, { v with response := v.response.map fun r => { r with buffer := r.buffer ++ buffer } })

/-- Drops the answer. -/
def dropResponse : Filter σ := mapExit fun (verdict, v) => (verdict, { v with response := none })

/-! ## Tracing -/

/-- Notes the way in and the way back. -/
def record (note : Note σ) (name : String) : Filter σ := fun rest v timeout => do
  note (.entered (some name) v timeout)
  let (verdict, v) ← rest v timeout
  note (.left name verdict)
  pure (verdict, v)

/-- Notes what has become of the invocation. -/
def outcome (note : Note σ) (name : String) : Filter σ := fun rest v timeout => do
  let (verdict, v) ← rest v timeout
  note (.outcome name v verdict)
  pure (verdict, v)

/-- Tries the rest on a copy of the invocation, and then goes on. -/
def twice (note : Note σ) : Filter σ := fun rest v timeout => do
  let (verdict, _) ← rest v timeout
  note (.first verdict)
  rest v timeout

end Filter

/-! ## Last steps -/

namespace Call

variable {σ : Type}

/-- Notes the invocation and answers it. -/
def reply (note : Filter.Note σ) (ret : Int32) (buffer : Bytes) (description : String) : Call σ :=
  fun v timeout => do
    note (.entered none v timeout)
    let r := { Response.replyTo v.request ret buffer with description }
    pure (.ok (), { v with response := some r, status := ret })

/-- Notes the invocation and fails. -/
def fail (note : Filter.Note σ) (e : RpcError) : Call σ := fun v timeout => do
  note (.entered none v timeout)
  pure (.error e, { v with status := e.code })

end Call

end TaggedRpc
