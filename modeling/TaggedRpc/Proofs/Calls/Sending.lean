import Mathlib.Logic.Relation
import TaggedRpc.Adapter

/-!
# Sending in steps

`Adapter.send` is one step. A caller that sends goes through several, and others
act in between: it sees whether the adapter is open, counts the send, chooses a
connection, dials if it has to, takes a *ticket*, which counts a call on the
connection, and waits for room in the queue. If there is none in time it gives the
ticket back. What fails after the send was counted is counted as a failure.

* `Sending.Step`: one step of a caller that sends a request;
* `Adapter.exists_steps_send`: when nothing comes in between, the steps add up to
  `Adapter.send`;
* `Sending.Accounts`: what has been counted for the caller so far. Its steps keep
  that (`Sending.Accounts.step`), and so does whatever happens apart from it
  (`Sending.Accounts.apart`).
-/

namespace TaggedRpc

/-- Counts a call. -/
def Connection.startCall (c : Connection) : Connection := { c with calls := c.calls + 1 }

theorem Connection.calls_of_enqueue {c c' : Connection} {frame : Bytes}
    (h : c.enqueue frame false = (.ok (), c')) : c'.calls = c.calls := by
  rw [enqueue] at h
  split at h
  · cases h
    rfl
  · cases h

namespace Adapter

/-- The connection with a number. -/
def connection? (a : Adapter) (number : Nat) : Option Connection :=
  if number = a.current then some a.connection else a.past[number]?

/-- The calls under way on the connection with a number. -/
def callsOn (a : Adapter) (number : Nat) : Nat := (a.connection? number).elim 0 Connection.calls

variable {a : Adapter} {number : Nat} {f : Connection → Connection}

theorem connection?_eq_getElem? (a : Adapter) (m : Nat) :
    a.connection? m = (a.past ++ [a.connection])[m]? := by
  rw [connection?, current, List.getElem?_append]
  rcases Nat.lt_trichotomy m a.past.length with h | rfl | h
  · rw [if_neg (Nat.ne_of_lt h), if_pos h]
  · rw [if_pos rfl, if_neg (Nat.lt_irrefl _), Nat.sub_self, List.getElem?_cons_zero]
  · rw [if_neg (Nat.ne_of_gt h), if_neg (Nat.lt_asymm h), List.getElem?_eq_none (Nat.le_of_lt h),
      List.getElem?_eq_none (Nat.sub_pos_of_lt h)]

theorem connection?_current (a : Adapter) : a.connection? a.current = some a.connection :=
  if_pos rfl

@[simp] theorem current_modifyConnection : (a.modifyConnection number f).current = a.current := by
  rw [modifyConnection]
  split
  · rfl
  · exact List.length_modify ..

@[simp] theorem pending_modifyConnection : (a.modifyConnection number f).pending = a.pending := by
  rw [modifyConnection]
  split <;> rfl

@[simp] theorem health_modifyConnection : (a.modifyConnection number f).health = a.health := by
  rw [modifyConnection]
  split <;> rfl

theorem connection?_modifyConnection_self :
    (a.modifyConnection number f).connection? number = (a.connection? number).map f := by
  rw [connection?, connection?, current_modifyConnection, modifyConnection]
  split
  · rfl
  · exact List.getElem?_modify_eq ..

theorem connection?_modifyConnection_of_ne {m : Nat} (h : m ≠ number) :
    (a.modifyConnection number f).connection? m = a.connection? m := by
  rw [connection?, connection?, current_modifyConnection, modifyConnection]
  by_cases hnumber : number = a.current
  · subst hnumber
    rw [if_neg h, if_neg h, if_pos rfl]
  · rw [if_neg hnumber]
    by_cases hm : m = a.current
    · rw [if_pos hm, if_pos hm]
    · rw [if_neg hm, if_neg hm, List.getElem?_modify_ne _ _ h.symm]

theorem isSome_connection?_modifyConnection (m : Nat) :
    ((a.modifyConnection number f).connection? m).isSome = (a.connection? m).isSome := by
  by_cases h : m = number
  · rw [h, connection?_modifyConnection_self, Option.isSome_map]
  · rw [connection?_modifyConnection_of_ne h]

theorem callsOn_modifyConnection_of_ne {m : Nat} (h : m ≠ number) :
    (a.modifyConnection number f).callsOn m = a.callsOn m := by
  rw [callsOn, connection?_modifyConnection_of_ne h, callsOn]

theorem callsOn_modifyConnection_of_calls
    (hf : ∀ c, a.connection? number = some c → (f c).calls = c.calls) (m : Nat) :
    (a.modifyConnection number f).callsOn m = a.callsOn m := by
  by_cases h : m = number
  · rw [h, callsOn, connection?_modifyConnection_self, callsOn]
    cases hc : a.connection? number with
    | none => rfl
    | some c => exact hf c hc
  · exact callsOn_modifyConnection_of_ne h

/-- A call is counted on a connection that is there. -/
theorem callsOn_startCall (h : (a.connection? number).isSome) (m : Nat) :
    (a.modifyConnection number Connection.startCall).callsOn m =
      a.callsOn m + if number = m then 1 else 0 := by
  by_cases hm : m = number
  · subst hm
    obtain ⟨c, hc⟩ := Option.isSome_iff_exists.1 h
    rw [callsOn, connection?_modifyConnection_self, callsOn, hc, if_pos rfl]
    rfl
  · rw [callsOn_modifyConnection_of_ne hm, if_neg (Ne.symm hm), Nat.add_zero]

/-- A call gives its place back. -/
theorem callsOn_giveBack {n : Nat → Nat} (hf : ∀ c, (f c).calls = c.calls - 1)
    (hcalls : ∀ m, a.callsOn m = n m + if number = m then 1 else 0) (m : Nat) :
    (a.modifyConnection number f).callsOn m = n m := by
  by_cases hm : m = number
  · subst hm
    have hself := hcalls m
    rw [callsOn, if_pos rfl] at hself
    rw [callsOn, connection?_modifyConnection_self]
    cases hc : a.connection? m with
    | none =>
      -- A connection that is not there counts no calls, not even one.
      rw [hc] at hself
      exact absurd hself (Nat.succ_ne_zero _).symm
    | some c =>
      rw [hc] at hself
      exact (hf c).trans (by rw [show c.calls = n m + 1 from hself]; rfl)
  · rw [callsOn_modifyConnection_of_ne hm, hcalls, if_neg (Ne.symm hm), Nat.add_zero]

/-- What happens apart from a caller: nothing is counted, and no connection is lost. -/
structure Apart (a a' : Adapter) : Prop where
  health : a'.health = a.health
  calls : ∀ m, a'.callsOn m = a.callsOn m
  connection : ∀ m, (a.connection? m).isSome → (a'.connection? m).isSome

theorem Apart.refl (a : Adapter) : a.Apart a := ⟨rfl, fun _ => rfl, fun _ h => h⟩

theorem Apart.pending (a : Adapter) (pending : Pending) : a.Apart { a with pending } :=
  ⟨rfl, fun _ => rfl, fun _ h => h⟩

/-- Connections change, and keep their calls. -/
theorem Apart.of_calls {a a' : Adapter} (health : a'.health = a.health)
    (h : ∀ m, (a'.connection? m).map Connection.calls = (a.connection? m).map Connection.calls) :
    a.Apart a' where
  health := health
  calls m := by
    have hm := h m
    rw [callsOn, callsOn]
    cases hc : a.connection? m <;> cases hc' : a'.connection? m <;> simp_all
  connection m hm := by rwa [← Option.isSome_map, ← h m, Option.isSome_map] at hm

/-- The current connection changes, and keeps its calls. -/
theorem Apart.current {a a' : Adapter} (health : a'.health = a.health) (past : a'.past = a.past)
    (hc : a'.connection.calls = a.connection.calls) : a.Apart a' := by
  refine .of_calls health fun m => ?_
  rw [connection?, connection?, Adapter.current, Adapter.current, past]
  split
  · exact congrArg some hc
  · rfl

end Adapter

/-! ## Steps -/

/-- How far a caller has come with its request. -/
inductive Sending where
  | begun
  /-- The adapter was open. -/
  | entered
  /-- The send is counted. -/
  | counted
  /-- There is a connection for it. -/
  | routed (number : Nat)
  /-- The connection was open. -/
  | checked (number : Nat)
  /-- The caller waits for a socket. -/
  | dialling (number : Nat)
  /-- The socket is there, but not the live one yet. -/
  | dialled (number : Nat)
  | connected (number : Nat)
  /-- The caller has its ticket, and waits for room in the queue. -/
  | enqueuing (number : Nat)
  /-- The request is in the queue. -/
  | queued (number : Nat)
  /-- The adapter was closed. -/
  | refused (e : RpcError)
  /-- The connection has failed, which is not counted yet. -/
  | failing (e : RpcError)
  /-- The connection has failed. -/
  | failed (e : RpcError)
  deriving DecidableEq

namespace Sending

/-- What the caller learns at last. -/
def result? : Sending → Option (Except RpcError Nat)
  | queued number => some (.ok number)
  | refused e | failed e => some (.error e)
  | _ => none

/-- The connection that has been chosen. -/
def route? : Sending → Option Nat
  | routed number | checked number | dialling number | dialled number | connected number
  | enqueuing number | queued number => some number
  | _ => none

/-- The connection on which the caller has a ticket. -/
def ticket? : Sending → Option Nat
  | enqueuing number | queued number => some number
  | _ => none

/-- The connection on which the request is in the queue. -/
def queued? : Sending → Option Nat
  | queued number => some number
  | _ => none

/-- The health of an endpoint after what has been counted for the caller. -/
def health (h : Health) : Sending → Health
  | begun | entered | refused _ => h
  | failed _ => h.onSend.onFailure
  | _ => h.onSend

/-- A step of a caller that sends a request to be answered. -/
inductive Step (r : Request) : Adapter × Sending → Adapter × Sending → Prop
  | refuse {a : Adapter} : a.closed = true →
      Step r (a, begun) (a, refused (.connection s!"adapter {a.key} is closed"))
  | enter {a : Adapter} : a.closed = false → Step r (a, begun) (a, entered)
  | count (a : Adapter) : Step r (a, entered) ({ a with health := a.health.onSend }, counted)
  | route (a : Adapter) : Step r (a, counted) (a, routed a.current)
  | shut {a : Adapter} {number : Nat} {c : Connection} :
      a.connection? number = some c → c.closed = true →
      Step r (a, routed number) (a, failing (.ofTransport .closed))
  | check {a : Adapter} {number : Nat} {c : Connection} :
      a.connection? number = some c → c.closed = false →
      Step r (a, routed number) (a, checked number)
  /-- There is a live socket, at once or when the caller may dial. -/
  | share {a : Adapter} {number : Nat} {c : Connection} {s : Sending} :
      a.connection? number = some c → c.isConnected = true →
      s = checked number ∨ s = dialling number →
      Step r (a, s) (a, connected number)
  | dial {a : Adapter} {number : Nat} {c : Connection} :
      a.connection? number = some c → c.isConnected = false →
      Step r (a, checked number) (a, dialling number)
  /-- The socket is there; so is the connection, or it has been closed in the meantime. -/
  | reach {a : Adapter} {number : Nat} {c : Connection} {d : Dialer} :
      a.connection? number = some c → d c.transport c.address = .ok () →
      Step r (a, dialling number)
        (a, if c.closed then failing (.ofTransport .closed) else dialled number)
  | miss {a : Adapter} {number : Nat} {c : Connection} {d : Dialer} {e : TransportError} :
      a.connection? number = some c → d c.transport c.address = .error e →
      Step r (a, dialling number) (a, failing (.ofTransport e))
  | publish (a : Adapter) (number now : Nat) :
      Step r (a, dialled number) (a.modifyConnection number (·.publish now), connected number)
  | issue (a : Adapter) (number : Nat) :
      Step r (a, connected number)
        (a.modifyConnection number Connection.startCall, enqueuing number)
  | enqueue {a : Adapter} {number : Nat} {c c' : Connection} :
      a.connection? number = some c → c.enqueue r.pack false = (.ok (), c') →
      Step r (a, enqueuing number) (a.modifyConnection number fun _ => c', queued number)
  /-- There was no room in time. -/
  | giveUp {a : Adapter} {number : Nat} {c : Connection} : a.connection? number = some c →
      Step r (a, enqueuing number)
        (a.modifyConnection number Connection.finishCall,
          failing (.ofTransport (.queueFull c.address)))
  | fail (a : Adapter) (e : RpcError) :
      Step r (a, failing e) ({ a with health := a.health.onFailure }, failed e)

/-! ## What is counted -/

/-- What has been counted for a caller since its adapter was `a₀`. -/
structure Accounts (a₀ a : Adapter) (s : Sending) : Prop where
  health : a.health = s.health a₀.health
  calls : ∀ m, a.callsOn m = a₀.callsOn m + if s.ticket? = some m then 1 else 0
  route : ∀ number, s.route? = some number → (a.connection? number).isSome

variable {r : Request} {a₀ a a' : Adapter} {s s' : Sending}

theorem Accounts.begun (a : Adapter) : Accounts a a begun where
  health := rfl
  calls _ := rfl
  route _ h := by cases h

/-- A step takes out no slot. -/
theorem Step.pending (hstep : Step r (a, s) (a', s')) : a'.pending = a.pending := by
  cases hstep <;> first | rfl | exact Adapter.pending_modifyConnection

/-- A request that is in the queue is not queued again. -/
theorem Step.queued? (hstep : Step r (a, s) (a', s')) : s.queued? = none := by
  cases hstep with
  | share _ _ hs => rcases hs with rfl | rfl <;> rfl
  | _ => rfl

/-- A step that counts nothing and stays on its connection. -/
theorem Accounts.move (acc : Accounts a₀ a s) (hhealth : s'.health a₀.health = s.health a₀.health)
    (hticket : s'.ticket? = s.ticket?)
    (hroute : ∀ number, s'.route? = some number → s.route? = some number) :
    Accounts a₀ a s' where
  health := acc.health.trans hhealth.symm
  calls := hticket ▸ acc.calls
  route number h := acc.route number (hroute number h)

/-- A change of one connection. -/
theorem Accounts.modify (acc : Accounts a₀ a s) (number : Nat) (f : Connection → Connection)
    (hhealth : s'.health a₀.health = s.health a₀.health)
    (hcalls : ∀ m, (a.modifyConnection number f).callsOn m =
      a₀.callsOn m + if s'.ticket? = some m then 1 else 0)
    (hroute : ∀ m, s'.route? = some m → s.route? = some m) :
    Accounts a₀ (a.modifyConnection number f) s' where
  health := by rw [Adapter.health_modifyConnection, hhealth, acc.health]
  calls := hcalls
  route m h := by
    rw [Adapter.isSome_connection?_modifyConnection]
    exact acc.route m (hroute m h)

/-- A ticket is given back. -/
theorem Accounts.giveBack {number : Nat} (acc : Accounts a₀ a (enqueuing number))
    (hhealth : s'.health a₀.health = a₀.health.onSend) (hticket : s'.ticket? = none)
    (hroute : s'.route? = none) :
    Accounts a₀ (a.modifyConnection number Connection.finishCall) s' := by
  refine acc.modify _ _ hhealth (fun m => ?_) (by simp [hroute])
  have hcalls : ∀ m, a.callsOn m = a₀.callsOn m + if number = m then 1 else 0 := by
    simpa [ticket?] using acc.calls
  rw [hticket, Adapter.callsOn_giveBack (f := Connection.finishCall) (fun _ => rfl) hcalls]
  rfl

/-- What is counted for a caller that takes a step. -/
theorem Accounts.step (acc : Accounts a₀ a s) (hstep : Step r (a, s) (a', s')) :
    Accounts a₀ a' s' := by
  cases hstep with
  | refuse | enter | check | dial | shut | miss => exact acc.move rfl rfl (by simp [route?])
  | count => exact ⟨congrArg Health.onSend acc.health, acc.calls, by simp [route?]⟩
  | route =>
    refine ⟨acc.health, acc.calls, fun number h => ?_⟩
    cases h
    rw [a.connection?_current]
    rfl
  | share _ _ hs => rcases hs with rfl | rfl <;> exact acc.move rfl rfl (by simp [route?])
  | reach => split <;> exact acc.move rfl rfl (by simp [route?])
  | publish =>
    refine acc.modify _ _ rfl (fun m => ?_) (by simp [route?])
    rw [Adapter.callsOn_modifyConnection_of_calls fun c _ => by rfl]
    exact acc.calls m
  | issue =>
    -- The connection that was chosen is still there, so the call counts.
    refine acc.modify _ _ rfl (fun m => ?_) (by simp [route?])
    rw [Adapter.callsOn_startCall (acc.route _ rfl), acc.calls]
    simp [ticket?]
  | enqueue hc henqueue =>
    refine acc.modify _ _ rfl (fun m => ?_) (by simp [route?])
    rw [Adapter.callsOn_modifyConnection_of_calls fun d hd => ?_]
    · exact acc.calls m
    · cases hc.symm.trans hd
      exact Connection.calls_of_enqueue henqueue
  | giveUp => exact acc.giveBack rfl rfl rfl
  | fail => exact ⟨by rw [acc.health]; rfl, acc.calls, by simp [route?]⟩

/-- What happens apart from the caller counts nothing for it. -/
theorem Accounts.apart (acc : Accounts a₀ a s) (h : a.Apart a') : Accounts a₀ a' s where
  health := h.health.trans acc.health
  calls m := (h.calls m).trans (acc.calls m)
  route number hnumber := h.connection number (acc.route number hnumber)

end Sending

/-! ## All steps at once -/

namespace Adapter

open Relation (ReflTransGen)

variable {dial : Dialer} {r : Request} {now : Nat} {a : Adapter}

theorem modifyConnection_current (a : Adapter) (f : Connection → Connection) :
    a.modifyConnection a.current f = { a with connection := f a.connection } := if_pos rfl

theorem exists_steps_connect (a : Adapter) (dial : Dialer) (r : Request) (now : Nat) :
    ReflTransGen (Sending.Step r) (a, .routed a.current)
      ({ a with connection := (a.connection.connect dial now).2 },
        match (a.connection.connect dial now).1 with
        | .ok () => .connected a.current
        | .error e => .failing (.ofTransport e)) := by
  have hc := a.connection?_current
  rw [Connection.connect]
  cases hclosed : a.connection.closed with
  | true => exact .single (.shut hc hclosed)
  | false =>
    cases hconnected : a.connection.isConnected with
    | true => exact .tail (.single (.check hc hclosed)) (.share hc hconnected (.inl rfl))
    | false =>
      have hdialling : ReflTransGen (Sending.Step r) (a, .routed a.current)
          (a, .dialling a.current) :=
        .tail (.single (.check hc hclosed)) (.dial hc hconnected)
      simp only [Bool.false_eq_true, if_false, Connection.dialFresh]
      cases hdial : dial a.connection.transport a.connection.address with
      | error e => exact hdialling.tail (.miss hc hdial)
      | ok =>
        have hdialled := Sending.Step.reach (r := r) hc hdial
        rw [hclosed] at hdialled ⊢
        have hlive := Sending.Step.publish (r := r) a a.current now
        rw [modifyConnection_current] at hlive
        exact (hdialling.tail hdialled).tail hlive

theorem exists_steps_enqueue (a : Adapter) (r : Request) :
    ReflTransGen (Sending.Step r) (a, .connected a.current)
      ({ a with connection := (a.connection.enqueue r.pack true).2 },
        match (a.connection.enqueue r.pack true).1 with
        | .ok () => .queued a.current
        | .error e => .failing (.ofTransport e)) := by
  have hissue := Sending.Step.issue (r := r) a a.current
  rw [modifyConnection_current] at hissue
  refine .head hissue (.single ?_)
  -- The ticket is taken before it is known whether there is room.
  have hc := connection?_current { a with connection := a.connection.startCall }
  rw [Connection.enqueue]
  cases hroom : a.connection.outbound.enqueue? r.pack with
  | some outbound =>
    have henqueue : a.connection.startCall.enqueue r.pack false =
        (.ok (), { a.connection.startCall with outbound }) := by
      rw [Connection.enqueue, Connection.startCall, hroom]
      rfl
    have hstep := Sending.Step.enqueue hc henqueue
    rw [modifyConnection_current] at hstep
    exact hstep
  | none =>
    have hstep := Sending.Step.giveUp (r := r) hc
    rw [modifyConnection_current] at hstep
    exact hstep

/-- When nothing comes in between, the steps of a caller that sends a request to be
    answered add up to `Adapter.send`. -/
theorem exists_steps_send (a : Adapter) (dial : Dialer) (now : Nat) (h : r.isOneway = false) :
    ∃ s, ReflTransGen (Sending.Step r) (a, .begun) ((a.send dial r now).2, s) ∧
      s.result? = some (a.send dial r now).1 := by
  rw [send]
  by_cases hclosed : a.closed = true
  · rw [if_pos hclosed]
    exact ⟨_, .single (.refuse hclosed), rfl⟩
  · have hrouted : ReflTransGen (Sending.Step r) (a, .begun)
        ({ a with health := a.health.onSend }, .routed a.current) :=
      ((ReflTransGen.single (.enter (eq_false_of_ne_true hclosed))).tail (.count a)).tail (.route _)
    have hconnect := exists_steps_connect { a with health := a.health.onSend } dial r now
    rw [if_neg hclosed, Connection.send, h, Bool.not_false]
    rcases hconnected : a.connection.connect dial now with ⟨_ | _, c⟩ <;>
      rw [hconnected] at hconnect
    · exact ⟨_, (hrouted.trans hconnect).tail (.fail _ _), rfl⟩
    · have henqueue :=
        exists_steps_enqueue { a with health := a.health.onSend, connection := c } r
      have hboth := (hrouted.trans hconnect).trans henqueue
      dsimp only at hboth ⊢
      rcases hqueued : c.enqueue r.pack true with ⟨_ | _, c'⟩ <;> rw [hqueued] at hboth
      · exact ⟨_, hboth.tail (.fail _ _), rfl⟩
      · exact ⟨_, hboth, rfl⟩

end Adapter

end TaggedRpc
