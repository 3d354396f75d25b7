import TaggedRpc.Client.Basic
import TaggedRpc.Proofs.Calls.Contest

/-!
# Many calls for callbacks

Any number of calls for callbacks share an adapter, and every one of them takes one atomic step
after another (`Callbacks.Call.Step`), in which the adapter changes for all:

* the call registers its callback, sends (`Sending.Step`), *notes* the connection on which its
  request was queued, and starts a timer; if it has failed, its guard takes the slot out;
* when the answer has taken the slot out, the callback looks for the connection that was noted. If
  there is none yet, it loads the current one. Then it gives a count back on the connection that
  it has;
* the timer, if it finds the slot, gives a count back on the connection that was noted.

A caller that goes away while it waits does to the counts and to its slot what one does that fails
there.

A *scene* is an adapter that is open, with the calls that are under way on it. Besides the steps
of calls, answers come, a directive swaps the connection, and something may happen elsewhere:
sockets come and go, outcomes are counted, and old connections drain (`Callbacks.Scene.Step`).

When nothing comes in between, the steps of a call add up to `Adapter.send` and to
`Adapter.finishCall` (`Callbacks.Scene.exists_run_send`, `Callbacks.Scene.run_finishCall`), and
whatever arrives is made of steps (`Callbacks.Scene.exists_run_onResponse`).
-/

namespace TaggedRpc

/-- Refuses those who want to send. The socket is not dropped yet. -/
def Connection.refuse (c : Connection) : Connection := { c with closed := true }

namespace Adapter

/-- Lets a fresh connection take over. The old one does not drain yet. -/
def swap (a : Adapter) (now : Nat) : Adapter :=
  { a with past := a.past ++ [a.connection]
           connection := .new a.endpoint a.config.transport now }

/-- What happens elsewhere: no call is counted, and no slot or connection is lost. -/
structure Elsewhere (a a' : Adapter) : Prop where
  pending : a'.pending = a.pending
  closed : a'.closed = a.closed
  current : a'.current = a.current
  calls : ∀ m, a'.callsOn m = a.callsOn m
  connection : ∀ m, (a.connection? m).isSome → (a'.connection? m).isSome

variable {a a' : Adapter} {number : Nat} {f : Connection → Connection}

@[simp] theorem closed_modifyConnection : (a.modifyConnection number f).closed = a.closed := by
  rw [modifyConnection]
  split <;> rfl

theorem modifyConnection_modifyConnection {g : Connection → Connection} :
    (a.modifyConnection number f).modifyConnection number g =
      a.modifyConnection number fun c => g (f c) := by
  rw [modifyConnection, current_modifyConnection, modifyConnection, modifyConnection]
  split
  · rfl
  · rw [List.modify_modify_eq]
    rfl

/-- What happens apart from a caller happens elsewhere, whatever is counted for the endpoint. -/
theorem Apart.elsewhere (h : a.Apart { a' with health := a.health })
    (pending : a'.pending = a.pending) (closed : a'.closed = a.closed)
    (current : a'.current = a.current) : a.Elsewhere a' :=
  ⟨pending, closed, current, h.calls, h.connection⟩

/-- Until it drains, a connection that has been replaced is as it was. -/
theorem calls_connection?_swap (h : a.closed = false) (now m : Nat) :
    ((a.replaceConnection now).connection? m).map Connection.calls =
      ((a.swap now).connection? m).map Connection.calls := by
  rw [connection?_eq_getElem?, connection?_eq_getElem?, ← List.getElem?_map, ← List.getElem?_map,
    replaceConnection, if_neg (ne_true_of_eq_false h), swap]
  simp

theorem elsewhere_replaceConnection (h : a.closed = false) (now : Nat) :
    (a.swap now).Elsewhere (a.replaceConnection now) := by
  have hcalls := calls_connection?_swap h now
  rw [replaceConnection, if_neg (ne_true_of_eq_false h)] at hcalls ⊢
  refine Apart.elsewhere (.of_calls rfl hcalls) rfl rfl ?_
  rw [current, current, swap, List.length_append, List.length_append]
  rfl

/-- A swap counts nothing, and loses no connection. -/
theorem apart_swap (h : a.closed = false) (now : Nat) : a.Apart (a.swap now) := by
  have happart := a.apart_replaceConnection now
  have helsewhere := elsewhere_replaceConnection h now
  refine ⟨rfl, fun m => (helsewhere.calls m).symm.trans (happart.calls m), fun m hm => ?_⟩
  rw [← Option.isSome_map (f := Connection.calls), ← calls_connection?_swap h, Option.isSome_map]
  exact happart.connection m hm

/-- A call ends with a count that is given back; the rest happens elsewhere. -/
theorem elsewhere_finishCall (a : Adapter) (number : Nat) (success : Bool) (now : Nat) :
    (a.modifyConnection number Connection.finishCall).Elsewhere
      (a.finishCall number success now) := by
  have hcalls (m : Nat) :
      ((a.modifyConnection number fun c => c.finishCall.poll now).connection? m).map
          Connection.calls =
        ((a.modifyConnection number Connection.finishCall).connection? m).map
          Connection.calls := by
    by_cases hm : m = number
    · rw [hm, connection?_modifyConnection_self, connection?_modifyConnection_self,
        Option.map_map, Option.map_map]
      exact Option.map_congr fun c _ => Connection.calls_poll ..
    · rw [connection?_modifyConnection_of_ne hm, connection?_modifyConnection_of_ne hm]
  refine Apart.elsewhere (.of_calls rfl hcalls) ?_ ?_ ?_
  · exact pending_modifyConnection.trans pending_modifyConnection.symm
  · exact closed_modifyConnection.trans closed_modifyConnection.symm
  · exact current_modifyConnection.trans current_modifyConnection.symm

end Adapter

/-- A caller closes no adapter, and lets no connection take over. -/
theorem Sending.Step.closed_current {r : Request} {a a' : Adapter} {s s' : Sending}
    (hstep : Step r (a, s) (a', s')) : a'.closed = a.closed ∧ a'.current = a.current := by
  cases hstep with
  | publish | issue | enqueue | giveUp =>
    exact ⟨Adapter.closed_modifyConnection, Adapter.current_modifyConnection⟩
  | _ => exact ⟨rfl, rfl⟩

namespace Callbacks

/-! ## Calls -/

/-- How far a call has come, apart from its callback. -/
inductive Phase where
  | sending
  /-- The call has returned, and its timer runs. -/
  | timing
  /-- The timer has taken the slot out. -/
  | timedOut
  /-- The timer has found nothing. -/
  | late
  | failed
  deriving DecidableEq

/-- Where the callback of a call is. -/
inductive Ending where
  /-- It is in its slot. -/
  | waiting
  /-- The answer has taken it out. -/
  | answered
  /-- It has not found the connection of its call, and will load the current one. -/
  | searching
  /-- It will give a count back on a connection. -/
  | settling (number : Nat)
  | settled
  /-- The guard has taken it out. -/
  | dropped
  deriving DecidableEq

/-- A call for a callback. -/
structure Call where
  request : Request
  phase : Phase := .sending
  sending : Sending := .begun
  /-- The connection on which the request was queued, when the call has noted it. -/
  noted : Option Nat := none
  ending : Ending := .waiting
  /-- The connections on which a count was given back, the last one first. -/
  gaveBack : List Nat := []

namespace Call

/-- The id of its request. -/
def id (c : Call) : Int32 := c.request.requestId

/-- The call when an answer under some id has taken a slot out. -/
def answer (c : Call) (id : Int32) : Call := if c.id = id then { c with ending := .answered } else c

/-- Whether its request is in the queue of a connection, or was written there, and its count has not
    been given back. -/
def isUnsettledOn (c : Call) (number : Nat) : Bool :=
  decide (c.sending = .queued number) && c.gaveBack.isEmpty

/-- Whether it waits for room in the queue of a connection, and has its ticket. -/
def isEnqueuingOn (c : Call) (number : Nat) : Bool := decide (c.sending = .enqueuing number)

/-- A step of a call, of its timer or of its callback. A call that is over may go. -/
inductive Step : Adapter → Call → Adapter → Option Call → Prop
  | send {a a' : Adapter} {c : Call} {s : Sending} : c.phase = .sending →
      Sending.Step c.request (a, c.sending) (a', s) →
      Step a c a' (some { c with sending := s })
  | note {a : Adapter} {c : Call} {number : Nat} : c.phase = .sending →
      c.sending = .queued number →
      Step a c a (some { c with phase := .timing, noted := some number })
  | fail {a : Adapter} {c : Call} {e : RpcError} : c.phase = .sending →
      c.sending.result? = some (.error e) →
      Step a c (a.cancel c.id).2 (some { c with
        phase := .failed
        ending := if (a.cancel c.id).1.isSome then .dropped else c.ending })
  | expire {a : Adapter} {c : Call} {number : Nat} : c.phase = .timing →
      c.noted = some number → (a.cancel c.id).1.isSome →
      Step a c (a.cancel c.id).2 (some { c with phase := .timedOut, ending := .settling number })
  | expireLate {a : Adapter} {c : Call} : c.phase = .timing → (a.cancel c.id).1 = none →
      Step a c (a.cancel c.id).2 (some { c with phase := .late })
  | look {a : Adapter} {c : Call} : c.ending = .answered →
      Step a c a (some { c with ending := c.noted.elim .searching .settling })
  | load {a : Adapter} {c : Call} : c.ending = .searching →
      Step a c a (some { c with ending := .settling a.current })
  | give {a : Adapter} {c : Call} {number : Nat} : c.ending = .settling number →
      Step a c (a.modifyConnection number Connection.finishCall)
        (some { c with ending := .settled, gaveBack := number :: c.gaveBack })
  | leave {a : Adapter} {c : Call} : c.phase ≠ .sending → c.phase ≠ .timing →
      c.ending = .settled ∨ c.ending = .dropped → Step a c a none

end Call

/-! ## Scenes -/

/-- An adapter with the calls that are under way. -/
structure Scene where
  adapter : Adapter
  calls : List Call := []

namespace Scene

open Relation (ReflTransGen)

/-- No two calls that are under way have the same id. -/
inductive Step : Scene → Scene → Prop
  | start {s : Scene} {r : Request} : r.isOneway = false → (∀ c ∈ s.calls, c.id ≠ r.requestId) →
      Step s ⟨s.adapter.register r.requestId (Expected.callback r.requestId),
        { request := r } :: s.calls⟩
  | go {a a' : Adapter} {c : Call} {c' : Option Call} (before after : List Call) :
      Call.Step a c a' c' → Step ⟨a, before ++ c :: after⟩ ⟨a', before ++ (c'.toList ++ after)⟩
  | answer {s : Scene} {w : Waiter} (r : Response) (now : Nat) :
      (s.adapter.onResponse r now).1 = .answered w r →
      Step s ⟨(s.adapter.onResponse r now).2, s.calls.map (·.answer r.requestId)⟩
  /-- A directive has come. -/
  | swap {s : Scene} (now : Nat) : s.adapter.closed = false →
      Step s { s with adapter := s.adapter.swap now }
  | elsewhere {s : Scene} {a : Adapter} : s.adapter.Elsewhere a →
      Step s { s with adapter := a }

/-- A run through scenes of a kind. -/
def Run (P : Scene → Prop) : Scene → Scene → Prop :=
  ReflTransGen fun s s' => Step s s' ∧ P s'

/-! ## Operations on their own -/

variable {P : Scene → Prop} {a a' : Adapter} {c : Call} {c' : Option Call}
  {before after : List Call}

theorem run_go (hP : ∀ s, P s) (hstep : Call.Step a c a' c') :
    Run P ⟨a, before ++ c :: after⟩ ⟨a', before ++ (c'.toList ++ after)⟩ :=
  .single ⟨.go _ _ hstep, hP _⟩

theorem run_sending (hP : ∀ a s, P ⟨a, before ++ { c with sending := s } :: after⟩)
    (hphase : c.phase = .sending) {s s' : Sending}
    (hs : ReflTransGen (Sending.Step c.request) (a, s) (a', s')) :
    Run P ⟨a, before ++ { c with sending := s } :: after⟩
      ⟨a', before ++ { c with sending := s' } :: after⟩ := by
  generalize hx : (a', s') = x at hs
  induction hs generalizing a' s' with
  | refl =>
    cases hx
    exact .refl
  | @tail y _ _ hstep ih =>
    cases hx
    exact (ih rfl).tail ⟨.go (c := { c with sending := y.2 }) _ _ (.send hphase hstep), hP _ _⟩

/-- When nothing comes in between, the steps of a call until it is queued or has failed add up to
    `Adapter.send`. -/
theorem exists_run_send (before after : List Call)
    (hP : ∀ a s, P ⟨a, before ++ { c with sending := s } :: after⟩)
    (hphase : c.phase = .sending) (hbegun : c.sending = .begun)
    (honeway : c.request.isOneway = false) (dial : Dialer) (now : Nat) :
    ∃ s : Sending, s.result? = some (a.send dial c.request now).1 ∧
      Run P ⟨a, before ++ c :: after⟩
        ⟨(a.send dial c.request now).2, before ++ { c with sending := s } :: after⟩ := by
  obtain ⟨s, hs, hresult⟩ := a.exists_steps_send dial now honeway
  refine ⟨s, hresult, ?_⟩
  have hrun : Run P ⟨a, before ++ { c with sending := .begun } :: after⟩
      ⟨_, before ++ { c with sending := s } :: after⟩ := run_sending hP hphase hs
  rwa [← hbegun] at hrun

/-- When nothing comes in between, the steps of a callback add up to `Adapter.finishCall`. -/
theorem run_finishCall (hP : ∀ s, P s) (hanswered : c.ending = .answered) (success : Bool)
    (now : Nat) : Run P ⟨a, before ++ c :: after⟩
      ⟨a.finishCall (c.noted.getD a.current) success now, before ++ { c with
        ending := .settled
        gaveBack := c.noted.getD a.current :: c.gaveBack } :: after⟩ := by
  have hsettling : Run P ⟨a, before ++ c :: after⟩
      ⟨a, before ++ { c with ending := .settling (c.noted.getD a.current) } :: after⟩ := by
    have hlook : Run P ⟨a, before ++ c :: after⟩ ⟨a, before ++ (_ ++ after)⟩ :=
      run_go hP (.look hanswered)
    cases hnoted : c.noted with
    | some number =>
      rw [hnoted] at hlook
      exact hlook
    | none =>
      rw [hnoted] at hlook
      exact hlook.trans (run_go hP (.load rfl))
  have hgive := hsettling.trans (run_go hP (.give rfl))
  exact hgive.tail ⟨.elsewhere (a.elsewhere_finishCall _ success now), hP _⟩

/-- When nothing comes in between, whatever arrives is made of steps. -/
theorem exists_run_onResponse (hP : ∀ s, P s) {s : Scene} (hopen : s.adapter.closed = false)
    (r : Response) (now : Nat) :
    ∃ s', Run P s s' ∧ s'.adapter = (s.adapter.onResponse r now).2 := by
  by_cases hanswered : ∃ w, (s.adapter.onResponse r now).1 = .answered w r
  · obtain ⟨w, hw⟩ := hanswered
    exact ⟨_, .single ⟨.answer r now hw, hP _⟩, rfl⟩
  rw [Adapter.onResponse] at hanswered ⊢
  split
  · split
    · have helsewhere := Adapter.elsewhere_replaceConnection hopen now
      exact ⟨_, .tail (.single ⟨.swap now hopen, hP _⟩) ⟨.elsewhere helsewhere, hP _⟩, rfl⟩
    · split <;> exact ⟨s, .refl, rfl⟩
  · next hpush =>
    split
    · exact ⟨s, .refl, rfl⟩
    · next honeway =>
      -- An answer to no call leaves the table as it was.
      rw [if_neg hpush, if_neg honeway, Pending.deliver_eq] at hanswered
      rw [Pending.deliver_eq]
      cases hw : s.adapter.pending.waiter? r.requestId with
      | some w =>
        rw [hw] at hanswered
        exact absurd ⟨w, rfl⟩ hanswered
      | none => exact ⟨s, .refl, by rw [Pending.erase_of_waiter?_eq_none hw]⟩

end Scene

end Callbacks

end TaggedRpc
