import Mathlib.Logic.Relation
import TaggedRpc.Proofs.Calls.Contest

/-!
# A call that waits, among others

A caller that waits for its answer registers, sends, and then waits until the answer
is there or its time is up. Answers, failures of all calls and whatever else happens
on the adapter come in between (`Contest.Others`), and the caller may go away at
every point where it is suspended: while it waits for a socket, for room in the
queue, or for its answer. What is left to do is then done by the guards of the call.

In every order of all these steps (`Blocking.Step`), when the call has ended,

* its slot is gone, and its connections count as many calls as before;
* if its request was queued, it has finished once, on the connection on which the
  request was queued, and one outcome was recorded;
* if sending failed after the send was counted, one failure was recorded, and if the
  caller went away before its request was queued, nothing;
* it gives a timeout only if its timer has taken its slot out, and the answer if that
  has taken it out before.

This is `Blocking.accounted`. It rests on `Blocking.Inv`, which says for every stage of
the call what has been counted so far.
-/

namespace TaggedRpc

/-- Counts an outcome. -/
def Health.record (h : Health) (success : Bool) (now : Nat) : Health :=
  if success then h.onSuccess now else h.onFailure

namespace Blocking

/-- How a call ends. -/
inductive Ending where
  /-- The adapter was closed. -/
  | refused (e : RpcError)
  /-- The request was not queued. -/
  | failed (e : RpcError)
  /-- The caller has gone away before the request was queued. -/
  | withdrawn
  /-- The caller has learned what became of its request. -/
  | returned (o : Outcome)
  /-- The caller has gone away when the request was queued. -/
  | abandoned

/-- Whether the caller has got an answer. -/
def Ending.isAnswered : Ending → Bool
  | .returned o => o.isOk
  | _ => false

/-- How far a call has come. -/
inductive Stage where
  | sending (s : Sending)
  /-- The caller has gone away, and the request will not be queued. -/
  | withdrawing
  /-- The caller waits for its answer and its timer. -/
  | waiting (number : Nat)
  /-- The timer was late, and the caller waits for what has come before. -/
  | awaiting (number : Nat)
  /-- It is known how the call ends, and whether this is a success. -/
  | settling (number : Nat) (success : Bool) (how : Ending)
  /-- The endpoint was a degraded pick, and has answered. -/
  | reviving (how : Ending)
  | ended (how : Ending)

/-- Whether the caller waits for its answer. -/
def Stage.WaitsOn (number : Nat) (s : Stage) : Prop := s = .waiting number ∨ s = .awaiting number

end Blocking

open Blocking in
/-- A call that waits for its answer. -/
structure Blocking where
  contest : Contest
  stage : Stage := .sending .begun
  /-- Where the caller finds its answer. -/
  box : Box := .waiting
  /-- The connections on which the request was queued. -/
  queuedOn : List Nat := []
  /-- Where and how the call has finished, oldest first. -/
  finished : List (Nat × Bool) := []

namespace Blocking

open Relation (ReflTransGen)

/-- A call is registered. -/
def start (r : Request) (a : Adapter) : Blocking :=
  { contest := .register a r.requestId (.caller 0) }

/-- The adapter of the call. -/
def adapter (w : Blocking) : Adapter := w.contest.adapter

/-- Changes the adapter. -/
def withAdapter (w : Blocking) (a : Adapter) : Blocking :=
  { w with contest := { w.contest with adapter := a } }

/-- Wants the slot of the call. -/
def take (w : Blocking) (r : Request) (x : Winner) : Blocking :=
  { w with contest := w.contest.take r.requestId x }

/-- A step of the call or of others. The endpoint of the call may be a degraded pick. -/
inductive Step (r : Request) (degraded : Bool) : Blocking → Blocking → Prop
  | send {w : Blocking} {s s' : Sending} {a : Adapter} :
      w.stage = .sending s → Sending.Step r (w.adapter, s) (a, s') →
      Step r degraded w { w.withAdapter a with
        stage := .sending s', queuedOn := w.queuedOn ++ s'.queued?.toList }
  | refuse {w : Blocking} {e : RpcError} : w.stage = .sending (.refused e) →
      Step r degraded w { w.take r .guard with stage := .ended (.refused e) }
  | fail {w : Blocking} {e : RpcError} : w.stage = .sending (.failed e) →
      Step r degraded w { w.take r .guard with stage := .ended (.failed e) }
  /-- The caller goes away while it waits for a socket. -/
  | dropDialling {w : Blocking} {number : Nat} : w.stage = .sending (.dialling number) →
      Step r degraded w { w with stage := .withdrawing }
  /-- The caller goes away while it waits for room in the queue. Its ticket is given back. -/
  | dropEnqueuing {w : Blocking} {number : Nat} : w.stage = .sending (.enqueuing number) →
      Step r degraded w
        { w.withAdapter (w.adapter.modifyConnection number Connection.finishCall) with
          stage := .withdrawing }
  | withdraw {w : Blocking} : w.stage = .withdrawing →
      Step r degraded w { w.take r .guard with stage := .ended .withdrawn }
  | wait {w : Blocking} {number : Nat} : w.stage = .sending (.queued number) →
      Step r degraded w { w with stage := .waiting number }
  | answer {w : Blocking} {number : Nat} {x : Response} :
      w.stage.WaitsOn number → w.box = .answered x →
      Step r degraded w { w with stage := .settling number true (.returned (.ok x)) }
  /-- The slot went without an answer. -/
  | lose {w : Blocking} {number : Nat} : w.stage.WaitsOn number → w.box = .closed →
      Step r degraded w { w with stage := .settling number false (.returned (.error .shutdown)) }
  /-- The time is up, and the slot is still there. -/
  | expire {w : Blocking} {number : Nat} {v : Waiter} (elapsed : Duration) :
      w.stage = .waiting number → w.contest.slot r.requestId = some v →
      Step r degraded w { w.take r (.timer elapsed) with
        stage := .settling number false (.returned (.error (.timeout r.requestId elapsed))) }
  /-- The time is up, and the slot has gone before. -/
  | late {w : Blocking} {number : Nat} :
      w.stage = .waiting number → w.contest.slot r.requestId = none →
      Step r degraded w { w with stage := .awaiting number }
  /-- The caller goes away while it waits for its answer. -/
  | drop {w : Blocking} {number : Nat} : w.stage.WaitsOn number →
      Step r degraded w { w.take r .guard with
        stage := .settling number (w.contest.slot r.requestId).isNone .abandoned }
  | settle {w : Blocking} {number : Nat} {success : Bool} {how : Ending} (now : Nat) :
      w.stage = .settling number success how →
      Step r degraded w { w.withAdapter (w.adapter.finishCall number success now) with
        finished := w.finished ++ [(number, success)]
        stage := if degraded && how.isAnswered then .reviving how else .ended how }
  | revive {w : Blocking} {how : Ending} (now : Nat) : w.stage = .reviving how →
      Step r degraded w { w.withAdapter (w.adapter.heal now) with stage := .ended how }
  /-- The winner has something for the caller. -/
  | handOver {w : Blocking} {x : Winner} : w.contest.hand = some x →
      Step r degraded w { w with contest := { w.contest with hand := none }, box := x.box }
  | others {w : Blocking} {c : Contest} : Contest.Others r.requestId w.contest c →
      Step r degraded w { w with contest := c }

/-! ## What has been counted -/

/-- The health of an endpoint after a call that was queued. -/
def Settles (h : Health) (success revived : Bool) (h' : Health) : Prop :=
  ∃ now later, h' = if revived then (h.onSend.record success now).reset later
    else h.onSend.record success now

/-- What has been counted for a call when it ended, since its adapter was `a`. -/
def Ending.Counted (a : Adapter) (revived : Bool) (w : Blocking) : Ending → Prop
  | .refused _ => w.queuedOn = [] ∧ w.finished = [] ∧ w.adapter.health = a.health
  | .failed _ => w.queuedOn = [] ∧ w.finished = [] ∧ w.adapter.health = a.health.onSend.onFailure
  | .withdrawn => w.queuedOn = [] ∧ w.finished = [] ∧ w.adapter.health = a.health.onSend
  | .returned o => ∃ number, w.queuedOn = [number] ∧ w.finished = [(number, o.isOk)] ∧
      Settles a.health o.isOk revived w.adapter.health
  | .abandoned => ∃ number, w.queuedOn = [number] ∧
      w.finished = [(number, w.contest.winner != some .guard)] ∧
      Settles a.health (w.contest.winner != some .guard) revived w.adapter.health

/-- What a call that has ended leaves behind, if its adapter was `a` before. -/
structure Accounted (r : Request) (a : Adapter) (revived : Bool) (how : Ending) (w : Blocking) :
    Prop where
  /-- The slot is gone. -/
  slot : w.contest.slot r.requestId = none
  /-- Every connection counts as many calls as before. -/
  calls : ∀ m, w.adapter.callsOn m = a.callsOn m
  /-- A call finishes once if its request was queued, and not at all otherwise. -/
  counted : how.Counted a revived w
  /-- The time is up only if the timer has taken out the slot. -/
  timeout : ∀ id elapsed, how = .returned (.error (.timeout id elapsed)) →
    w.contest.winner = some (.timer elapsed)
  /-- An answer that has taken out the slot is what the caller gets. -/
  answer : ∀ x o, w.contest.winner = some (.answer x) → how = .returned o → o = .ok x

/-! ## The stages of a call -/

/-- The request is in the queue of a connection, and the call has not finished. -/
structure InQueue (a : Adapter) (number : Nat) (w : Blocking) : Prop where
  accounts : (Sending.queued number).Accounts a w.adapter
  queuedOn : w.queuedOn = [number]
  finished : w.finished = []

/-- The call itself has not taken out its slot. -/
def Foreign (winner : Option Winner) : Prop := ∀ x, winner = some x → x.isOwn = false

/-- How a call ends is decided by who has taken out its slot. -/
def Ending.Fits (r : Request) (winner : Option Winner) (success : Bool) : Ending → Prop
  | .returned o => success = o.isOk ∧ ∃ x, winner = some x ∧ x.outcome r.requestId = some o
  | .abandoned => success = (winner != some .guard) ∧ winner.isSome
  | _ => False

theorem Ending.Fits.isSome {r : Request} {winner : Option Winner} {success : Bool} {how : Ending}
    (h : how.Fits r winner success) : winner.isSome := by
  cases how with
  | returned o =>
    obtain ⟨-, x, rfl, -⟩ := h
    rfl
  | abandoned => exact h.2
  | _ => cases h

/-- What is true of a call that has come so far. -/
def Stage.Holds (r : Request) (degraded : Bool) (a : Adapter) (w : Blocking) : Stage → Prop
  | .sending s => s.Accounts a w.adapter ∧ Foreign w.contest.winner ∧
      w.queuedOn = s.queued?.toList ∧ w.finished = []
  | .withdrawing => Sending.counted.Accounts a w.adapter ∧ w.queuedOn = [] ∧ w.finished = []
  | .waiting number => InQueue a number w ∧ Foreign w.contest.winner
  | .awaiting number => InQueue a number w ∧ Foreign w.contest.winner
  | .settling number success how => InQueue a number w ∧ how.Fits r w.contest.winner success
  | .reviving how => Accounted r a false how w ∧ (degraded && how.isAnswered) = true
  | .ended how => Accounted r a (degraded && how.isAnswered) how w

/-- The slot is there until somebody wins it, and the caller finds what the winner has
    for it. -/
structure Fair (r : Request) (w : Blocking) : Prop where
  sound : w.contest.Sound r.requestId
  box : w.box = .waiting ∨ ∃ x, w.contest.winner = some x ∧ w.box = x.box

/-- A call that is under way, if its adapter was `a` before. -/
structure Inv (r : Request) (degraded : Bool) (a : Adapter) (w : Blocking) : Prop where
  fair : Fair r w
  holds : w.stage.Holds r degraded a w

variable {r : Request} {degraded revived : Bool} {a : Adapter} {w w' : Blocking} {how : Ending}
  {number : Nat} {success : Bool}

theorem Inv.start (r : Request) (degraded : Bool) (a : Adapter) : Inv r degraded a (start r a) where
  fair := ⟨Contest.sound_register .., .inl rfl⟩
  holds := ⟨(Sending.Accounts.begun a).apart (.pending ..), fun _ h => (nomatch h), rfl, rfl⟩

/-- What is in the box stays there, as the winner stays the winner. -/
theorem Fair.keep (h : Fair r w) (hs' : w'.contest.Sound r.requestId) (hbox : w'.box = w.box)
    (hwinner : w'.contest.winner = w.contest.winner ∨ w.contest.winner = none) : Fair r w' where
  sound := hs'
  box := by
    rw [hbox]
    rcases h.box with hwaiting | ⟨x, hx, hwins⟩
    · exact .inl hwaiting
    · refine .inr ⟨x, ?_, hwins⟩
      rcases hwinner with heq | hnone
      · exact heq.trans hx
      · cases hnone.symm.trans hx

theorem Fair.winner_of_answered {x : Response} (h : Fair r w) (hbox : w.box = .answered x) :
    w.contest.winner = some (.answer x) := by
  rcases h.box with hwaiting | ⟨y, hy, hwins⟩
  · cases hbox.symm.trans hwaiting
  · rw [hy]
    cases y <;> cases hbox.symm.trans hwins
    rfl

theorem Fair.winner_of_closed (h : Fair r w) (hforeign : Foreign w.contest.winner)
    (hbox : w.box = .closed) : w.contest.winner = some .failure := by
  rcases h.box with hwaiting | ⟨y, hy, hwins⟩
  · cases hbox.symm.trans hwaiting
  · cases y with
    | answer => cases hbox.symm.trans hwins
    | failure => exact hy
    | timer | guard => cases hforeign _ hy

theorem Fair.take (h : Fair r w) (x : Winner) (stage : Stage) :
    Fair r { w.take r x with stage } := by
  refine h.keep (h.sound.take x) rfl ?_
  rcases h.sound.take_cases x with ⟨-, heq⟩ | ⟨hnone, -⟩
  · exact .inl (congrArg Contest.winner heq)
  · exact .inr hnone

/-! ### Steps of others -/

theorem InQueue.keep (h : InQueue a number w) (hqueued : w'.queuedOn = w.queuedOn)
    (hfinished : w'.finished = w.finished) (hapart : w.adapter.Apart w'.adapter) :
    InQueue a number w' where
  accounts := h.accounts.apart hapart
  queuedOn := hqueued.trans h.queuedOn
  finished := hfinished.trans h.finished

theorem Accounted.keep (h : Accounted r a revived how w) (hqueued : w'.queuedOn = w.queuedOn)
    (hfinished : w'.finished = w.finished) (hapart : w.adapter.Apart w'.adapter)
    (hwinner : w'.contest.winner = w.contest.winner) (hslot : w'.contest.slot r.requestId = none) :
    Accounted r a revived how w' where
  slot := hslot
  calls m := (hapart.calls m).trans (h.calls m)
  counted := by
    have hcounted := h.counted
    cases how <;> simpa only [Ending.Counted, hqueued, hfinished, hapart.health, hwinner]
      using hcounted
  timeout := hwinner ▸ h.timeout
  answer := hwinner ▸ h.answer

/-- What holds for a call still holds if others win its slot, or do something else. -/
theorem Stage.Holds.keep {s : Stage} (h : s.Holds r degraded a w)
    (hs : w.contest.Sound r.requestId) (hs' : w'.contest.Sound r.requestId)
    (hqueued : w'.queuedOn = w.queuedOn) (hfinished : w'.finished = w.finished)
    (hapart : w.adapter.Apart w'.adapter)
    (hwinner : w'.contest.winner = w.contest.winner ∨
      w.contest.winner = none ∧ ∃ x, x.isOwn = false ∧ w'.contest.winner = some x) :
    s.Holds r degraded a w' := by
  have hforeign : Foreign w.contest.winner → Foreign w'.contest.winner := by
    intro hforeign
    rcases hwinner with heq | ⟨-, x, hx, heq⟩
    · rwa [heq]
    · intro y hy
      cases heq.symm.trans hy
      exact hx
  have hwon : w.contest.winner.isSome → w'.contest.winner = w.contest.winner := by
    intro hsome
    rcases hwinner with heq | ⟨hnone, -⟩
    · exact heq
    · rw [hnone] at hsome
      cases hsome
  -- An empty slot has a winner, which it keeps, so what has been settled stays so.
  have haccounted : ∀ {revived how}, Accounted r a revived how w →
      Accounted r a revived how w' := by
    intro revived how acc
    have hsome : w.contest.winner.isSome := by
      have hslot := hs.slot
      rw [acc.slot] at hslot
      simpa [Option.isSome_iff_ne_none] using hslot
    have heq := hwon hsome
    refine acc.keep hqueued hfinished hapart heq ?_
    obtain ⟨x, hx⟩ := Option.isSome_iff_exists.1 hsome
    exact hs'.slot_eq_none (heq.trans hx)
  cases s with
  | sending s =>
    obtain ⟨acc, hwinner, hq, hf⟩ := h
    exact ⟨acc.apart hapart, hforeign hwinner, hqueued.trans hq, hfinished.trans hf⟩
  | withdrawing =>
    obtain ⟨acc, hq, hf⟩ := h
    exact ⟨acc.apart hapart, hqueued.trans hq, hfinished.trans hf⟩
  | waiting | awaiting =>
    obtain ⟨hqueue, hwinner⟩ := h
    exact ⟨hqueue.keep hqueued hfinished hapart, hforeign hwinner⟩
  | settling number success how =>
    obtain ⟨hqueue, hfits⟩ := h
    refine ⟨hqueue.keep hqueued hfinished hapart, ?_⟩
    rwa [hwon hfits.isSome]
  | reviving how => exact ⟨haccounted h.1, h.2⟩
  | ended how => exact haccounted h

/-! ### Steps of the call -/

/-- A call whose request was not queued ends when its guard has taken out its slot. -/
theorem Accounted.unsent {s : Sending} (acc : s.Accounts a w.adapter) (hticket : s.ticket? = none)
    (hcounted : (w.take r .guard).adapter.health = s.health a.health →
      how.Counted a revived { w.take r .guard with stage := .ended how })
    (hhow : ∀ o, how ≠ .returned o) :
    Accounted r a revived how { w.take r .guard with stage := .ended how } where
  slot := Contest.slot_take
  calls m := by
    refine ((w.contest.apart_take r.requestId .guard).calls m).trans ?_
    rw [← Blocking.adapter, acc.calls, hticket]
    rfl
  counted := hcounted ((w.contest.apart_take r.requestId .guard).health.trans acc.health)
  timeout _ _ h := absurd h (hhow _)
  answer _ _ _ h := absurd h (hhow _)

/-- The call takes its slot out itself. -/
theorem InQueue.take (h : InQueue a number w) (x : Winner) (stage : Stage) :
    InQueue a number { w.take r x with stage } :=
  h.keep rfl rfl (w.contest.apart_take r.requestId x)

/-- A call that finishes gives its place back, and counts its outcome. -/
theorem Accounted.settle (hs : w.contest.Sound r.requestId) (h : InQueue a number w)
    (hfits : how.Fits r w.contest.winner success) (now : Nat) (stage : Stage) :
    Accounted r a false how { w.withAdapter (w.adapter.finishCall number success now) with
      finished := w.finished ++ [(number, success)], stage } where
  slot := by
    obtain ⟨x, hx⟩ := Option.isSome_iff_exists.1 hfits.isSome
    refine Eq.trans ?_ (hs.slot_eq_none hx)
    exact congrArg (·.waiter? r.requestId) Adapter.pending_modifyConnection
  calls m := by
    have hcalls : ∀ m, w.adapter.callsOn m = a.callsOn m + if number = m then 1 else 0 := by
      simpa [Sending.ticket?] using h.accounts.calls
    exact Adapter.callsOn_giveBack (f := fun c => c.finishCall.poll now)
      (fun c => c.finishCall.calls_poll now) hcalls m
  counted := by
    have hfinished : w.finished ++ [(number, success)] = [(number, success)] := by
      rw [h.finished, List.nil_append]
    have hhealth : (w.adapter.finishCall number success now).health =
        a.health.onSend.record success now := by
      rw [Adapter.finishCall, Adapter.record, Adapter.health_modifyConnection, h.accounts.health]
      rfl
    cases how with
    | returned o =>
      obtain ⟨rfl, -⟩ := hfits
      exact ⟨number, h.queuedOn, hfinished, now, 0, hhealth⟩
    | abandoned =>
      obtain ⟨rfl, -⟩ := hfits
      exact ⟨number, h.queuedOn, hfinished, now, 0, hhealth⟩
    | _ => cases hfits
  timeout id elapsed hhow := by
    subst hhow
    obtain ⟨-, x, hx, houtcome⟩ := hfits
    refine hx.trans ?_
    -- Nobody but the timer has a timeout for the call.
    cases x with
    | timer => cases houtcome; rfl
    | _ => cases houtcome
  answer x o hx hhow := by
    subst hhow
    obtain ⟨-, y, hy, houtcome⟩ := hfits
    cases hx.symm.trans hy
    cases houtcome
    rfl

/-- A degraded pick that has answered is healthy again. -/
theorem Accounted.revive (h : Accounted r a false how w) (hanswered : how.isAnswered = true)
    (now : Nat) (stage : Stage) :
    Accounted r a true how { w.withAdapter (w.adapter.heal now) with stage } where
  slot := h.slot
  calls := h.calls
  counted := by
    have hcounted := h.counted
    cases how with
    | returned o =>
      obtain ⟨number, hqueued, hfinished, t, _, hhealth⟩ := hcounted
      exact ⟨number, hqueued, hfinished, t, now, congrArg (·.reset now) hhealth⟩
    | _ => cases hanswered
  timeout := h.timeout
  answer := h.answer

theorem Stage.Holds.inQueue {s : Stage} (h : s.Holds r degraded a w) (hs : s.WaitsOn number) :
    InQueue a number w ∧ Foreign w.contest.winner := by
  rcases hs with rfl | rfl <;> exact h

/-- The call takes its slot out itself, and settles. -/
theorem Inv.settling (hfair : Fair r w) (hqueue : InQueue a number w) (x : Winner)
    (hfits : how.Fits r (w.take r x).contest.winner success) :
    Inv r degraded a { w.take r x with stage := .settling number success how } where
  fair := hfair.take x _
  holds := ⟨hqueue.take x _, hfits⟩

theorem Inv.step (inv : Inv r degraded a w) (hstep : Step r degraded w w') :
    Inv r degraded a w' := by
  obtain ⟨hfair, hholds⟩ := inv
  -- What holds at the stage before the step is what the step needs at the stage after it.
  cases hstep with
  | send hstage hsend =>
    rw [hstage] at hholds
    obtain ⟨acc, hforeign, hqueued, hfinished⟩ := hholds
    refine ⟨hfair.keep (hfair.sound.of_pending hsend.pending rfl fun _ h => h) rfl (.inl rfl),
      acc.step hsend, hforeign, ?_, hfinished⟩
    rw [hqueued, hsend.queued?]
    rfl
  | refuse hstage | fail hstage =>
    rw [hstage] at hholds
    obtain ⟨acc, -, hqueued, hfinished⟩ := hholds
    exact ⟨hfair.take .guard _, .unsent acc rfl (⟨hqueued, hfinished, ·⟩) (nofun)⟩
  | dropDialling hstage =>
    rw [hstage] at hholds
    obtain ⟨acc, -, hqueued, hfinished⟩ := hholds
    exact ⟨hfair.keep hfair.sound rfl (.inl rfl), acc.move rfl rfl (nofun), hqueued, hfinished⟩
  | dropEnqueuing hstage =>
    rw [hstage] at hholds
    obtain ⟨acc, -, hqueued, hfinished⟩ := hholds
    exact ⟨hfair.keep (hfair.sound.of_pending Adapter.pending_modifyConnection rfl fun _ h => h)
      rfl (.inl rfl), acc.giveBack rfl rfl rfl, hqueued, hfinished⟩
  | withdraw hstage =>
    rw [hstage] at hholds
    obtain ⟨acc, hqueued, hfinished⟩ := hholds
    exact ⟨hfair.take .guard _, .unsent acc rfl (⟨hqueued, hfinished, ·⟩) (nofun)⟩
  | wait hstage =>
    rw [hstage] at hholds
    obtain ⟨acc, hforeign, hqueued, hfinished⟩ := hholds
    exact ⟨hfair.keep hfair.sound rfl (.inl rfl), ⟨acc, hqueued, hfinished⟩, hforeign⟩
  | answer hstage hanswered =>
    obtain ⟨hqueue, -⟩ := hholds.inQueue hstage
    exact ⟨hfair.keep hfair.sound rfl (.inl rfl), hqueue.keep rfl rfl (.refl _),
      rfl, _, hfair.winner_of_answered hanswered, rfl⟩
  | lose hstage hclosed =>
    obtain ⟨hqueue, hforeign⟩ := hholds.inQueue hstage
    exact ⟨hfair.keep hfair.sound rfl (.inl rfl), hqueue.keep rfl rfl (.refl _),
      rfl, _, hfair.winner_of_closed hforeign hclosed, rfl⟩
  | expire elapsed hstage hslot =>
    -- The slot is there, so the timer wins it.
    obtain ⟨hqueue, -⟩ := hholds.inQueue (.inl hstage)
    refine .settling hfair hqueue _ ⟨rfl, .timer elapsed, ?_, rfl⟩
    exact congrArg Contest.winner (Contest.take_of_slot_eq_some hslot)
  | late hstage =>
    rw [hstage] at hholds
    obtain ⟨hqueue, hforeign⟩ := hholds
    exact ⟨hfair.keep hfair.sound rfl (.inl rfl), hqueue.keep rfl rfl (.refl _), hforeign⟩
  | drop hstage =>
    obtain ⟨hqueue, hforeign⟩ := hholds.inQueue hstage
    refine .settling hfair hqueue _ ?_
    rcases hfair.sound.take_cases .guard with ⟨hsome, heq⟩ | ⟨hnone, hwinner, -⟩
    · -- Somebody else has won, which is a success.
      obtain ⟨x, hx⟩ := Option.isSome_iff_exists.1 hsome
      have hother : x ≠ .guard := by
        rintro rfl
        cases hforeign _ hx
      rw [take, heq, hx, hfair.sound.slot_eq_none hx]
      exact ⟨by simpa using hother, rfl⟩
    · obtain ⟨v, hv⟩ := hfair.sound.exists_slot hnone
      rw [take, hwinner, hv]
      exact ⟨rfl, rfl⟩
  | settle now hstage =>
    rw [hstage] at hholds
    obtain ⟨hqueue, hfits⟩ := hholds
    refine ⟨hfair.keep (hfair.sound.of_pending ?_ rfl fun _ h => h) rfl (.inl rfl), ?_⟩
    · exact Adapter.pending_modifyConnection
    · cases hrevived : degraded && Ending.isAnswered _ with
      | true => exact ⟨.settle hfair.sound hqueue hfits now _, hrevived⟩
      | false =>
        show Accounted _ _ _ _ _
        rw [hrevived]
        exact .settle hfair.sound hqueue hfits now _
  | revive now hstage =>
    rw [hstage] at hholds
    obtain ⟨acc, hrevived⟩ := hholds
    refine ⟨hfair.keep (hfair.sound.of_pending rfl rfl fun _ h => h) rfl (.inl rfl), ?_⟩
    show Accounted _ _ _ _ _
    rw [hrevived]
    exact acc.revive (by simpa using And.right (by simpa using hrevived)) now _
  | handOver hhand =>
    -- Whoever has the waiter in its hand has won the slot, which is all that counts.
    have hs' : Contest.Sound r.requestId { w.contest with hand := none } :=
      hfair.sound.of_pending rfl rfl (nofun)
    exact ⟨⟨hs', .inr ⟨_, hfair.sound.hand _ hhand, rfl⟩⟩,
      hholds.keep hfair.sound hs' rfl rfl (.refl _) (.inl rfl)⟩
  | others hothers =>
    -- Others win a slot that nobody has won, and count nothing for the call.
    have hs' := hothers.sound hfair.sound
    have hwinner := hothers.winner_cases hfair.sound
    refine ⟨hfair.keep hs' rfl ?_, hholds.keep hfair.sound hs' rfl rfl hothers.apart_adapter ?_⟩
    · exact hwinner.imp And.left And.left
    · exact hwinner.imp And.left fun ⟨hnone, x, hx, heq, _⟩ => ⟨hnone, x, hx, heq⟩

theorem Inv.steps (inv : Inv r degraded a w) (hs : ReflTransGen (Step r degraded) w w') :
    Inv r degraded a w' := by
  induction hs with
  | refl => exact inv
  | tail _ hstep ih => exact ih.step hstep

/-- Whatever comes in between, a call that has ended has settled its accounts. -/
theorem accounted (hs : ReflTransGen (Step r degraded) (start r a) w)
    (hended : w.stage = .ended how) : Accounted r a (degraded && how.isAnswered) how w := by
  have hholds := ((Inv.start r degraded a).steps hs).holds
  rwa [hended] at hholds

/-- A call to be answered. -/
def request : Request := { (default : Request) with requestId := 7 }

/-- The answer to it. -/
def response : Response := { (default : Response) with requestId := 7 }

/-- An adapter that has not dialled yet. -/
def fresh : Adapter := .new default { object := "" } 0

/-- The answer has taken out the slot when the timer of a degraded pick comes. It is what
    the caller gets. -/
theorem accounted_late : ∃ w, w.stage = .ended (.returned (.ok response)) ∧
    Accounted request fresh true (.returned (.ok response)) w := by
  have hs : ReflTransGen (Step request true) (start request fresh) _ :=
    ((((((((((((((ReflTransGen.refl.tail
      (.send rfl (.enter rfl))).tail
      (.send rfl (.count _))).tail
      (.send rfl (.route _))).tail
      (.send rfl (.check rfl rfl))).tail
      (.send rfl (.dial rfl rfl))).tail
      (.send rfl (.reach (d := fun _ _ => .ok ()) rfl rfl))).tail
      (.send rfl (.publish _ _ 0))).tail
      (.send rfl (.issue _ _))).tail
      (.send rfl (.enqueue rfl rfl))).tail
      (.wait rfl)).tail
      (.others (.deliver response 1 rfl rfl))).tail
      (.late rfl rfl)).tail
      (.handOver rfl)).tail
      (.answer (.inr rfl) rfl)).tail
      (.settle 2 rfl)
  exact ⟨_, rfl, accounted (hs.tail (.revive 3 rfl)) rfl⟩

end Blocking

end TaggedRpc
