import TaggedRpc.Proofs.Client.Beside

/-!
# What happens to a client

Calls and time change a client step by step (`Client.Step`). Most steps are quiet. The others leave
*events*: a servant gets a callback for pushes, a call of a servant is dispatched to an endpoint, an
endpoint pushes something, and a refresh brings other endpoints. Whatever a program for calls or
time does is a row of such steps, with its events newest first (`Client.Trace`).

No step closes the client, makes a servant or a manager, or makes another manager of a manager
(`Client.Trace.onward`).
-/

namespace TaggedRpc

namespace Client

/-- Something that has to do with servants or with pushes. -/
inductive Event where
  /-- A servant was made for a reference in a set. -/
  | asked (text : String) (set : Option String) (servant : Nat)
  /-- A servant got a callback for pushes. -/
  | subscribed (servant : Nat) (callback : String)
  /-- A call of a servant was dispatched to an endpoint of a manager. -/
  | dispatched (servant manager : Nat) (key : String)
  /-- An endpoint of a manager has pushed a payload. -/
  | pushed (manager : Nat) (key : String) (payload : Bytes)
  /-- A refresh has changed the endpoints of a manager, and these are active now. -/
  | listed (manager : Nat) (keys : List String)
  deriving DecidableEq, Repr

/-- The events of a selection. -/
def dispatchedBy (servant : Nat) : Except RpcError Target → List Event
  | .ok t => [.dispatched servant t.manager t.key]
  | .error _ => []

/-- The keys of the active endpoints of a manager. -/
def activeKeys (c : Client) (number : Nat) : List String :=
  (c.managers[number]?.map fun m => m.roster.active.map Endpoint.key).getD []

/-- The events of a refresh. -/
def listedBy (number : Nat) : Except RpcError Bool × Client → List Event
  | (.ok true, c) => [.listed number (c.activeKeys number)]
  | _ => []

/-- The adapter of a target, if it is in the pool. -/
def adapterOf? (c : Client) (t : Target) : Option Adapter :=
  c.managers[t.manager]?.bind fun m => m.adapter? t.key

/-- The events of a read, newest first. -/
def pushedBy (t : Target) (chunk : Bytes) (c : Client) : List Event :=
  match c.adapterOf? t with
  | some a => ((a.payloads chunk c.clock).map (.pushed t.manager t.key)).reverse
  | none => []

/-- One read from a target. -/
def readOnce (t : Target) (chunk : Bytes) : StateM Client (Option Response) := do
  takeAllIn t (← onTarget t [] fun a now => a.receive chunk now)

/-- One step of a call or of time, with its events. -/
inductive Step : Client → List Event → Client → Prop
  | quiet {c c' : Client} : c.Quiet c' → Step c [] c'
  | refresh (c : Client) (number : Nat) :
      Step c (listedBy number (Client.refresh number c)) (Client.refresh number c).2
  | select (c : Client) (number : Nat) (hash : Option HashKey) :
      Step c (dispatchedBy number (Client.select number hash c).1) (Client.select number hash c).2
  | read (c : Client) (t : Target) (chunk : Bytes) :
      Step c (pushedBy t chunk c) (readOnce t chunk c).2
  | subscribe {c : Client} (number : Nat) (callback : String) : number < c.servants.length →
      Step c [.subscribed number callback] (setPushCallback number callback c).2

/-- One step after another, with all events, newest first. -/
inductive Trace : Client → List Event → Client → Prop
  | refl (c : Client) : Trace c [] c
  | tail {c c' c'' : Client} {es h : List Event} : Trace c h c' → Step c' es c'' →
      Trace c (es ++ h) c''

theorem Trace.trans {c c' c'' : Client} {h h' : List Event} (htrace : Trace c h c')
    (htrace' : Trace c' h' c'') : Trace c (h' ++ h) c'' := by
  induction htrace' with
  | refl => exact htrace
  | tail _ hstep ih =>
    rw [List.append_assoc]
    exact ih.tail hstep

/-- There is a row of steps from one client to another. -/
def Traces (c c' : Client) : Prop := ∃ h, Trace c h c'

theorem Step.traces {c c' : Client} {es : List Event} (h : Step c es c') : c.Traces c' :=
  ⟨_, (Trace.refl c).tail h⟩

instance : Std.Refl Traces := ⟨fun c => ⟨[], .refl c⟩⟩

instance : IsTrans Client Traces :=
  ⟨fun _ _ _ ⟨_, htrace⟩ ⟨_, htrace'⟩ => ⟨_, htrace.trans htrace'⟩⟩

/-! ## Programs -/

section Programs

variable {α : Type} {out : Outside} {number : Nat} {hash : Option HashKey} {t : Target}
  {v : Invocation} {timeout : Duration}

theorem Moves.traces {x : StateM Client α} (h : Moves Quiet x) : Moves Traces x :=
  h.mono fun _ _ hquiet => (Step.quiet hquiet).traces

theorem traces_refresh : Moves Traces (refresh number) := fun c => (Step.refresh c number).traces

theorem traces_select : Moves Traces (select number hash) := fun c =>
  (Step.select c number hash).traces

theorem traces_maintain : Moves Traces (maintain out number) := by
  refine moves_get_bind fun c => ?_
  dsimp only
  cases c.managers[number]? with
  | none => exact refl_of Traces c
  | some m =>
    have hpoll : Moves Traces (onManager number [] (·.poll c.clock) >>= failWaiters number) :=
      quiet_poll.traces
    have hcheck (keepAlive : Option Nat) : Moves Traces (checkStatus out keepAlive number) :=
      quiet_checkStatus.traces
    dsimp only
    split
    · split <;> split
      · exact (traces_refresh.bind fun _ => (hcheck _).bind fun _ => hpoll) c
      · exact (traces_refresh.bind fun _ => hpoll) c
      · exact ((hcheck _).bind fun _ => hpoll) c
      · exact hpoll c
    · exact hpoll c

theorem traces_tick : Moves Traces (tick out) := by
  refine .bind (quiet_of_eq fun _ => ?_).traces fun _ => moves_get_bind fun c => ?_
  · exact ⟨rfl, rfl, rfl, rfl, rfl, rfl⟩
  · exact ((moves_forIn fun _ => traces_maintain).bind fun _ =>
      (moves_forIn fun _ => quiet_expire.traces).bind fun _ => moves_pure) c

theorem traces_sleep {ms : Nat} : Moves Traces (sleep out ms) := by
  induction ms with
  | zero => exact moves_pure
  | succ ms ih => exact traces_tick.bind fun _ => ih

theorem traces_settle {ms : Nat} : Moves Traces (settle out ms) := by
  induction ms with
  | zero => exact moves_pure
  | succ ms ih =>
    refine moves_get_bind fun c => ?_
    split
    · exact (traces_tick.bind fun _ => ih) c
    · exact refl_of Traces c

/-! ### Calls -/

theorem read_cons (t : Target) (chunk : Bytes) (chunks : List Bytes) :
    read t (chunk :: chunks) = (do
      let answer ← readOnce t chunk
      let later ← read t chunks
      pure (answer.or later)) := rfl

theorem traces_read {chunks : List Bytes} : Moves Traces (read t chunks) := by
  induction chunks with
  | nil => exact moves_pure
  | cons chunk chunks ih =>
    rw [read_cons]
    exact Moves.bind (fun c => (Step.read c t chunk).traces) fun _ => ih.bind fun _ => moves_pure

theorem traces_onTarget {default : α} {f : Adapter → Nat → α × Adapter}
    (hf : ∀ (a : Adapter) now, a.Beside (f a now).2) : Moves Traces (onTarget t default f) :=
  (quiet_onTarget hf).traces

theorem traces_cancel {id : Int32} :
    Moves Traces (onTarget t () fun a _ => ((), (a.cancel id).2)) :=
  traces_onTarget fun a _ => a.beside_cancel id

theorem traces_register {id : Int32} {w : Waiter} :
    Moves Traces (onTarget t () fun a _ => ((), a.register id w)) :=
  traces_onTarget fun _ _ => ⟨rfl, rfl⟩

theorem traces_unsent {e : RpcError} : Moves Traces (unsent v e) := refl_of Traces

theorem traces_dispatchOneway : Moves Traces (dispatchOneway out t v) := by
  refine quiet_send.traces.bind fun sent => ?_
  cases sent with
  | error e => exact traces_unsent
  | ok _ =>
    refine (traces_onTarget fun a now => ?_).bind fun _ => refl_of Traces
    exact ⟨rfl, rfl⟩

theorem traces_dispatchWaiting : Moves Traces (dispatchWaiting out t v timeout) := by
  refine traces_register.bind fun _ => quiet_send.traces.bind fun sent => ?_
  cases sent with
  | error e => exact traces_cancel.bind fun _ => traces_unsent
  | ok connection =>
    refine traces_read.bind fun answer => ?_
    cases answer with
    | some r =>
      refine (traces_onTarget fun a now => ?_).bind fun _ => quiet_revive.traces.bind fun _ =>
        refl_of Traces
      exact a.beside_finishCall connection true now
    | none =>
      refine traces_sleep.bind fun _ => moves_get_bind fun c => ?_
      refine Moves.bind (traces_onTarget fun a now => ?_) (fun _ => moves_pure) c
      exact (a.beside_cancel v.id).trans (Adapter.beside_finishCall ..)

/-- A call that waits for its answer, or is not answered. -/
theorem traces_dispatch : Moves Traces (dispatch out number v timeout) := by
  refine traces_select.bind fun picked => ?_
  cases picked with
  | error e => exact moves_pure
  | ok t =>
    dsimp only
    split
    · exact traces_dispatchOneway
    · exact traces_dispatchWaiting

/-- A call for a callback. -/
theorem traces_dispatchCallback {offer : Int32} {label : String} :
    Moves Traces (dispatchCallback out number offer label v timeout) := by
  refine moves_get_bind fun c => ?_
  split
  · exact refl_of Traces c
  refine Moves.bind (quiet_of_eq fun _ => ?_).traces
    (fun _ => traces_select.bind fun picked => ?_) c
  · exact ⟨rfl, rfl, rfl, rfl, rfl, rfl⟩
  cases picked with
  | error e => exact quiet_release.traces.bind fun _ => moves_pure
  | ok t =>
    refine traces_register.bind fun _ => quiet_send.traces.bind fun sent => ?_
    cases sent with
    | error e =>
      exact traces_cancel.bind fun _ => quiet_release.traces.bind fun _ => traces_unsent
    | ok connection =>
      refine .bind (quiet_of_eq fun _ => ?_).traces fun _ => traces_read.bind fun _ => moves_pure
      exact ⟨rfl, rfl, rfl, rfl, rfl, rfl⟩

/-- A filter that does no more than calls and time do, as long as the rest of the way does not. -/
def Mild (filter : Filter Client) : Prop :=
  ∀ rest : Call Client, (∀ v timeout, Moves Traces (rest v timeout)) →
    ∀ v timeout, Moves Traces (filter rest v timeout)

theorem traces_wrap {filters : List (Filter Client)} (hfilters : ∀ f ∈ filters, Mild f)
    {last : Call Client} (hlast : ∀ v timeout, Moves Traces (last v timeout)) (v : Invocation)
    (timeout : Duration) : Moves Traces (FilterChain.wrap filters last v timeout) := by
  induction filters generalizing v timeout with
  | nil => exact hlast v timeout
  | cons f filters ih =>
    obtain ⟨hf, hfilters⟩ := List.forall_mem_cons.1 hfilters
    exact hf _ (ih hfilters) v timeout

section Invoking

variable {filters : FilterChain Client} (hfilters : ∀ f ∈ filters.ordered, Mild f)
  {func : String} {buffer : Bytes} {o : CallOptions}

include hfilters

theorem traces_invoke : Moves Traces (invoke out filters number func buffer o) := by
  refine .bind (refl_of Traces) fun timeout => quiet_acquire.traces.bind fun admitted => ?_
  cases admitted with
  | error e => exact moves_pure
  | ok _ =>
    refine quiet_start.traces.bind fun v =>
      .bind (traces_wrap hfilters (fun _ _ => traces_dispatch) _ _) fun completion =>
        quiet_release.traces.bind fun _ => ?_
    split <;> exact moves_pure

theorem traces_invokeOneway : Moves Traces (invokeOneway out filters number func buffer o) := by
  refine .bind (refl_of Traces) fun timeout => quiet_acquire.traces.bind fun admitted => ?_
  cases admitted with
  | error e => exact moves_pure
  | ok _ =>
    exact quiet_start.traces.bind fun v =>
      .bind (traces_wrap hfilters (fun _ _ => traces_dispatch) _ _) fun _ =>
        quiet_release.traces.bind fun _ => moves_pure

theorem traces_invokeAsync {label : String} :
    Moves Traces (invokeAsync out filters number func buffer o label) := by
  refine .bind (refl_of Traces) fun timeout => quiet_acquire.traces.bind fun admitted => ?_
  cases admitted with
  | error e => exact moves_pure
  | ok _ =>
    refine quiet_start.traces.bind fun v => .bind (quiet_of_eq fun _ => ?_).traces fun _ =>
      .bind (traces_wrap hfilters (fun _ _ => traces_dispatchCallback) _ _) fun _ =>
        moves_get_bind fun c => ?_
    · exact ⟨rfl, rfl, rfl, rfl, rfl, rfl⟩
    split
    · refine Moves.bind (quiet_of_eq fun _ => ?_).traces
        (fun _ => quiet_release.traces.bind fun _ => moves_pure) c
      exact ⟨rfl, rfl, rfl, rfl, rfl, rfl⟩
    · exact refl_of Traces c

end Invoking

end Programs

/-! ## What the steps do -/

section Steps

variable {c c' c'' : Client} {number : Nat}

theorem refresh_of_none (hm : c.managers[number]? = none) :
    refresh number c = (.ok false, { c with draws := c.draws + 1 }) := by
  rw [refresh, bind_apply, draw_apply, bind_apply, get_apply]
  dsimp only
  rw [hm]
  rfl

theorem refresh_of_getElem? {m : Manager} (hm : c.managers[number]? = some m) :
    refresh number c = ((m.refresh c.sources c.draws c.clock).1, { c with
      draws := c.draws + 1
      sources := (m.refresh c.sources c.draws c.clock).2.1
      managers := c.managers.set number (m.refresh c.sources c.draws c.clock).2.2 }) := by
  rw [refresh, bind_apply, draw_apply, bind_apply, get_apply]
  dsimp only
  rw [hm]
  rfl

/-- The adapter of the endpoint that a servant calls gets the callback of the servant, if it has
    none. -/
def subscribeTo (m : Manager) (key : String) (s : Servant) : Manager :=
  (m.onAdapter? key fun a => (a.endpoint, { a with pushTo := a.pushTo.or s.pushCallback })).2

theorem onward_subscribeTo (m : Manager) (key : String) (s : Servant) :
    m.Onward (subscribeTo m key s) := m.onward_onAdapter? key _

/-- Either there is no endpoint for a call, or its adapter is in the pool. -/
theorem select_cases (servant : Nat) (hash : Option HashKey) (c : Client) :
    (∃ e, (select servant hash c).1 = .error e ∧ c.Quiet (select servant hash c).2) ∨
    ∃ s m key degraded a, c.servants[servant]? = some s ∧ c.managers[s.manager]? = some m ∧
      (m.select hash c.draws c.clock).2.adapter? key = some a ∧
      select servant hash c = (.ok { manager := s.manager, endpoint := a.endpoint, degraded },
        { c with
          draws := c.draws + 1
          managers :=
            c.managers.set s.manager (subscribeTo (m.select hash c.draws c.clock).2 key s) }) := by
  rw [select, bind_apply, draw_apply, bind_apply, get_apply]
  dsimp only
  cases hs : c.servants[servant]? with
  | none => exact .inl ⟨_, rfl, .of_eq rfl rfl rfl rfl rfl, rfl⟩
  | some s =>
    dsimp only
    rw [bind_apply]
    cases hm : c.managers[s.manager]? with
    | none =>
      have hnone := onManager_of_none (c := { c with draws := c.draws + 1 }) hm
        (.error .shutdown) fun m => m.select hash c.draws c.clock
      rw [hnone]
      exact .inl ⟨_, rfl, .of_eq rfl rfl rfl rfl rfl, rfl⟩
    | some m =>
      have hsome := onManager_of_getElem? (c := { c with draws := c.draws + 1 }) hm
        (.error .shutdown) fun m => m.select hash c.draws c.clock
      have hbeside := rel_set Manager.Beside.refl hm (m.beside_select hash c.draws c.clock)
      rw [hsome]
      dsimp only
      rcases hpicked : m.select hash c.draws c.clock with ⟨_ | ⟨key, degraded⟩, m'⟩
      · rw [hpicked] at hbeside
        exact .inl ⟨_, rfl, ⟨rfl, rfl, rfl, hbeside, rfl⟩, rfl⟩
      · obtain ⟨a, ha⟩ := Manager.adapter?_select (congrArg Prod.fst hpicked)
        refine .inr ⟨s, m, key, degraded, a, rfl, hm, ha, ?_⟩
        rw [hpicked] at ha ⊢
        -- This selection may have made the adapter, so it is looked up in the manager after.
        have hm' := List.getElem?_set_self (a := m') (List.getElem?_eq_some_iff.1 hm).1
        dsimp only
        rw [bind_apply, onAdapter_of_adapter? hm' ha]
        dsimp only
        rw [List.set_set]
        rfl

/-- Callbacks run, and nothing else shows. -/
structure Hears (pushes : List (String × Bytes)) (c c' : Client) : Prop extends Beside c c' where
  pushes : c'.pushes = c.pushes ++ pushes

theorem Quiet.hears (hquiet : c.Quiet c') : c.Hears [] c' :=
  ⟨hquiet.toBeside, hquiet.pushes.trans (List.append_nil _).symm⟩

theorem Hears.trans {pushes pushes' : List (String × Bytes)}
    (hhears : Hears pushes c c') (hhears' : Hears pushes' c' c'') :
    Hears (pushes ++ pushes') c c'' where
  toBeside := hhears.toBeside.trans hhears'.toBeside
  pushes := by rw [hhears'.pushes, hhears.pushes, List.append_assoc]

theorem hears_takeIn (t : Target) (a : Arrival) (c : Client) :
    Hears a.push?.toList c (takeIn t a c).2 := by
  cases a with
  | answered w r => exact Quiet.hears (quiet_takeIn c)
  | pushed callback payload => exact ⟨.of_eq rfl rfl rfl rfl rfl, rfl⟩
  | reconnected | dropped => exact Quiet.hears (refl_of Quiet c)

theorem hears_mapM_takeIn (t : Target) (as : List Arrival) (c : Client) :
    Hears (as.filterMap Arrival.push?) c (as.mapM (takeIn t) c).2 := by
  induction as generalizing c with
  | nil => exact Quiet.hears (refl_of Quiet c)
  | cons a as ih =>
    have hrest := (hears_takeIn t a c).trans (ih _)
    rw [List.mapM_cons, List.filterMap_cons]
    cases ha : a.push? <;> rw [ha] at hrest <;> exact hrest

theorem onTarget_fst {α : Type} (t : Target) (default : α) (f : Adapter → Nat → α × Adapter)
    (c : Client) : (onTarget t default f c).1 =
      ((c.adapterOf? t).map fun a => (f a c.clock).1).getD default := by
  rw [onTarget, bind_apply, get_apply, adapterOf?]
  dsimp only
  cases hm : c.managers[t.manager]? with
  | none =>
    rw [onAdapter, bind_apply, onManager_of_none hm]
    rfl
  | some m =>
    rw [onAdapter, bind_apply, onManager_of_getElem? hm, Manager.onAdapter?, Option.bind_some]
    cases m.adapter? t.key <;> rfl

/-- All pushes that are read run the callback of the endpoint, if it has one. -/
theorem hears_readOnce (t : Target) (chunk : Bytes) (c : Client) :
    Hears ((c.adapterOf? t).elim [] fun a => (a.payloads chunk c.clock).filterMap fun payload =>
      a.pushTo.map (·, payload)) c (readOnce t chunk c).2 := by
  let receive : StateM Client (List Arrival) := onTarget t [] fun a now => a.receive chunk now
  have hreceived : Moves Quiet receive := quiet_onTarget fun a now => a.beside_receive chunk now
  have harrivals : (receive c).1.filterMap Arrival.push? =
      (c.adapterOf? t).elim [] fun a => (a.payloads chunk c.clock).filterMap fun payload =>
        a.pushTo.map (·, payload) := by
    rw [onTarget_fst]
    cases c.adapterOf? t with
    | none => rfl
    | some a => exact a.push?_receive c.clock chunk
  -- All arrivals are there before the first one is taken in, so no callback comes in between.
  have htaken := (hreceived c).hears.trans (hears_mapM_takeIn t (receive c).1 (receive c).2)
  rw [harrivals] at htaken
  exact htaken

end Steps

/-! ## Staying the same client -/

/-- A client with the same servants, each with its manager, and with the same managers. -/
structure Onward (c c' : Client) : Prop where
  config : c'.config = c.config
  closed : c'.closed = c.closed
  table : c'.table = c.table
  managers (n : Nat) : Option.Rel Manager.Onward c.managers[n]? c'.managers[n]?
  servants : c'.servants.map Servant.manager = c.servants.map Servant.manager

instance : Std.Refl Onward :=
  ⟨fun _ => ⟨rfl, rfl, rfl, fun _ => rel_refl Manager.Onward.refl _, rfl⟩⟩

instance : IsTrans Client Onward where
  trans _ _ _ h h' := {
    config := h'.config.trans h.config
    closed := h'.closed.trans h.closed
    table := h'.table.trans h.table
    managers n := rel_trans (fun _ _ _ hab hbc => hab.trans hbc) (h.managers n) (h'.managers n)
    servants := h'.servants.trans h.servants }

theorem Beside.onward {c c' : Client} (h : c.Beside c') : c.Onward c' where
  config := h.config
  closed := h.closed
  table := h.table
  managers n := rel_mono (fun _ _ hbeside => hbeside.toOnward) (h.managers n)
  servants := by
    have hservants := congrArg (List.map Prod.fst) h.servants
    rwa [List.map_map, List.map_map] at hservants

theorem Step.onward {c c' : Client} {es : List Event} (h : Step c es c') : c.Onward c' := by
  cases h with
  | quiet h => exact h.toBeside.onward
  | refresh number =>
    cases hm : c.managers[number]? with
    | none =>
      rw [refresh_of_none hm]
      exact ⟨rfl, rfl, rfl, fun _ => rel_refl Manager.Onward.refl _, rfl⟩
    | some m =>
      rw [refresh_of_getElem? hm]
      have honward := m.onward_refresh c.sources c.draws c.clock
      exact ⟨rfl, rfl, rfl, rel_set Manager.Onward.refl hm honward, rfl⟩
  | select number hash =>
    rcases select_cases number hash c with ⟨_, -, hquiet⟩ |
      ⟨s, m, key, degraded, a, -, hm, -, heq⟩
    · exact hquiet.toBeside.onward
    · rw [heq]
      have honward := (m.beside_select hash c.draws c.clock).toOnward.trans
        (onward_subscribeTo _ key s)
      exact ⟨rfl, rfl, rfl, rel_set Manager.Onward.refl hm honward, rfl⟩
  | read t chunk => exact (hears_readOnce t chunk c).toBeside.onward
  | subscribe number callback =>
    refine ⟨rfl, rfl, rfl, fun _ => rel_refl Manager.Onward.refl _, ?_⟩
    let subscribe (s : Servant) : Servant := { s with pushCallback := some callback }
    exact map_modify_eq (f := subscribe) (fun _ => rfl) c.servants _

/-- No program for calls or time closes the client, or makes a servant or a manager. -/
theorem Trace.onward {c c' : Client} {h : List Event} (htrace : Trace c h c') : c.Onward c' := by
  induction htrace with
  | refl => exact refl_of Onward c
  | tail _ hstep ih => exact trans_of Onward ih hstep.onward

/-! ## Lives of clients -/

/-- The events when a servant is asked for. -/
def askedBy (text : String) (set : Option String) : Except RpcError Nat → List Event
  | .ok servant => [.asked text set servant]
  | .error _ => []

/-- What has happened to a client since it was made, newest first. -/
inductive Run (config : Config) (sources : Sources) : List Event → Client → Prop
  | new : Run config sources [] { config, sources }
  | step {c c' : Client} {h es : List Event} : Run config sources h c → Step c es c' →
      Run config sources (es ++ h) c'
  | ask {c : Client} {h : List Event} (text : String) (set : Option String) :
      Run config sources h c →
      Run config sources (askedBy text set (proxyIn text set c).1 ++ h) (proxyIn text set c).2

/-- Calls are made, and time goes by. -/
theorem Run.trace {config : Config} {sources : Sources} {c c' : Client} {h h' : List Event}
    (hrun : Run config sources h c) (htrace : Trace c h' c') : Run config sources (h' ++ h) c' := by
  induction htrace with
  | refl => exact hrun
  | tail _ hstep ih =>
    rw [List.append_assoc]
    exact ih.step hstep

/-- So what is true of all lives is true after every call (`traces_invoke`, `traces_invokeOneway`,
    `traces_invokeAsync`), and after any time (`traces_sleep`). -/
theorem Run.program {config : Config} {sources : Sources} {c : Client} {h : List Event} {α : Type}
    {x : StateM Client α} (hrun : Run config sources h c) (hx : Moves Traces x) :
    ∃ h', Run config sources (h' ++ h) (x c).2 := by
  obtain ⟨h', htrace⟩ := hx c
  exact ⟨h', hrun.trace htrace⟩

/-- How the number of a manager is found: there is none, it is in the table, or the manager is made
    and put there. -/
theorem manager_cases (text : String) (set : Option String) (c : Client) :
    (∃ e, (manager text set c).1 = .error e ∧ c.Quiet (manager text set c).2) ∨
    ∃ ref, Reference.parse text = .ok ref ∧
      ((∃ number, c.table.lookup (tableKey text (set.filter (· ≠ ""))) = some number ∧
          manager text set c = (.ok number, c)) ∨
        ∃ m sources, c.table.lookup (tableKey text (set.filter (· ≠ ""))) = none ∧
          Manager.load ref (set.filter (· ≠ "")) (c.managerConfig ref.name) c.sources c.draws
            c.clock = (.ok m, sources) ∧
          manager text set c = (.ok c.managers.length, { c with
            draws := c.draws + 1
            sources
            managers := c.managers ++ [m]
            table := c.table ++ [(tableKey text (set.filter (· ≠ "")), c.managers.length)] })) := by
  rw [manager, bind_apply, get_apply]
  dsimp only
  split
  · exact .inl ⟨_, rfl, refl_of Quiet c⟩
  · cases hparse : Reference.parse text with
    | error e => exact .inl ⟨_, rfl, refl_of Quiet c⟩
    | ok ref =>
      dsimp only
      cases hlookup : c.table.lookup (tableKey text (set.filter (· ≠ ""))) with
      | some number => exact .inr ⟨ref, rfl, .inl ⟨number, rfl, rfl⟩⟩
      | none =>
        dsimp only
        rw [bind_apply, draw_apply]
        dsimp only
        rcases hload : Manager.load ref (set.filter (· ≠ "")) (c.managerConfig ref.name) c.sources
          c.draws c.clock with ⟨_ | m, sources⟩
        · exact .inl ⟨_, rfl, .of_eq rfl rfl rfl rfl rfl, rfl⟩
        · exact .inr ⟨ref, rfl, .inr ⟨m, sources, rfl, hload, rfl⟩⟩

/-- A servant that is made has the manager that was found, and no callback for pushes. -/
theorem proxyIn_cases (text : String) (set : Option String) (c : Client) :
    (∃ e, (manager text set c).1 = .error e ∧ (proxyIn text set c).1 = .error e ∧
      (proxyIn text set c).2 = (manager text set c).2) ∨
    ∃ number servant, (manager text set c).1 = .ok number ∧ servant.manager = number ∧
      servant.pushCallback = none ∧
      proxyIn text set c = (.ok (manager text set c).2.servants.length,
        { (manager text set c).2 with
          servants := (manager text set c).2.servants ++ [servant] }) := by
  rw [proxyIn, bind_apply]
  rcases manager text set c with ⟨_ | number, c'⟩
  · exact .inl ⟨_, rfl, rfl, rfl⟩
  · exact .inr ⟨number, _, rfl, rfl, rfl, rfl⟩

end Client

end TaggedRpc
