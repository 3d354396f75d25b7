import Mathlib.Logic.Relation
import TaggedRpc.Client.Call
import TaggedRpc.Proofs.Calls.Contest

/-!
# A call for a callback, among others

A call for a callback registers the callback, sends, and returns when its request is
queued; a timer then waits for the answer. If sending fails, a guard takes the slot
out, and the call returns an error.

In every order of these steps and of those of others (`Callback.Step`) the callback
runs once at most, with what the one has for it who took out its slot, and it does not
run if that was the guard of a call that returned an error (`Callback.singleOutcome`).

The callback can run although the call returns an error: the slot is there before it
is known whether the request will be queued, and an answer or a failure of all calls
can be faster than the guard (`Callback.not_either`).
-/

namespace TaggedRpc

/-- What the winner counts on the adapter before the callback runs. A call that is not
    known to be sent yet counts on the current connection. -/
def Winner.finish (x : Winner) (degraded : Bool) (sentOn : Option Nat) (now : Nat) (a : Adapter) :
    Adapter :=
  match x with
  | .answer _ =>
    let a := a.finishCall (sentOn.getD a.current) true now
    if degraded then a.heal now else a
  | .timer _ => a.finishCall (sentOn.getD a.current) false now
  | .guard | .failure => a

@[simp] theorem Winner.pending_finish (x : Winner) (degraded : Bool) (sentOn : Option Nat)
    (now : Nat) (a : Adapter) : (x.finish degraded sentOn now a).pending = a.pending := by
  cases x with
  | answer =>
    rw [finish]
    split <;> exact Adapter.pending_modifyConnection
  | timer => exact Adapter.pending_modifyConnection
  | guard | failure => rfl

namespace Callback

/-- How far a call has come. -/
inductive Stage where
  | sending (s : Sending)
  | returned (result : Except RpcError Unit)

end Callback

open Callback in
/-- A call for a callback. -/
structure Callback where
  contest : Contest
  stage : Stage := .sending .begun
  /-- The connection on which the request was queued, when the call has noted it. -/
  sentOn : Option Nat := none
  /-- What the callback was run with, oldest first. -/
  ran : List Outcome := []

namespace Callback

open Relation (ReflTransGen)

/-- A callback is registered. -/
def start (r : Request) (a : Adapter) : Callback :=
  { contest := .register a r.requestId (Expected.callback r.requestId) }

/-- The adapter of the call. -/
def adapter (w : Callback) : Adapter := w.contest.adapter

/-- A step of the call, of its timer, or of others. The endpoint of the call may be a
    degraded pick. -/
inductive Step (r : Request) (degraded : Bool) : Callback → Callback → Prop
  | send {w : Callback} {s s' : Sending} {a : Adapter} :
      w.stage = .sending s → Sending.Step r (w.adapter, s) (a, s') →
      Step r degraded w { w with
        contest := { w.contest with adapter := a }, stage := .sending s' }
  /-- The guard takes the slot out, and the call returns. -/
  | fail {w : Callback} {s : Sending} {e : RpcError} :
      w.stage = .sending s → s.result? = some (.error e) →
      Step r degraded w { w with
        contest := w.contest.take r.requestId .guard, stage := .returned (.error e) }
  | queued {w : Callback} {number : Nat} : w.stage = .sending (.queued number) →
      Step r degraded w { w with stage := .returned (.ok ()), sentOn := some number }
  /-- The time is up. -/
  | expire {w : Callback} (elapsed : Duration) : w.stage = .returned (.ok ()) →
      Step r degraded w { w with contest := w.contest.take r.requestId (.timer elapsed) }
  /-- The winner runs the callback. -/
  | run {w : Callback} {x : Winner} {o : Outcome} (now : Nat) :
      w.contest.hand = some x → x.outcome r.requestId = some o →
      Step r degraded w { w with
        contest := { w.contest with
          adapter := x.finish degraded w.sentOn now w.adapter, hand := none }
        ran := w.ran ++ [o.bind Client.outcomeOf] }
  /-- The guard drops the callback. -/
  | drop {w : Callback} : w.contest.hand = some .guard →
      Step r degraded w { w with contest := { w.contest with hand := none } }
  | others {w : Callback} {c : Contest} : Contest.Others r.requestId w.contest c →
      Step r degraded w { w with contest := c }

/-- Either the call succeeds and the callback runs once at most, or it fails and the
    callback does not run. -/
def Either (w : Callback) : Prop :=
  match w.stage with
  | .sending _ => True
  | .returned (.ok ()) => w.ran.length ≤ 1
  | .returned (.error _) => w.ran = []

/-- The one outcome of a callback. -/
structure SingleOutcome (r : Request) (w : Callback) : Prop where
  /-- The callback runs once at most, with what the winner has for it. -/
  ran : w.ran = [] ∨ ∃ x o, w.contest.winner = some x ∧ x.outcome r.requestId = some o ∧
    w.ran = [o.bind Client.outcomeOf]
  /-- A call fails when its guard has won, and then the callback does not run, or when
      somebody else has won before. -/
  failed : ∀ e, w.stage = .returned (.error e) →
    w.contest.winner = some .guard ∧ w.ran = [] ∨ ∃ x, w.contest.winner = some x ∧ x.isOwn = false
  /-- The guard of a call that succeeds does not win. -/
  succeeded : w.stage = .returned (.ok ()) → w.contest.winner ≠ some .guard

/-! ## The stages of a call -/

/-- Who may have won when a call has come so far. -/
def Stage.Allows : Stage → Winner → Prop
  | .sending _, x => x.isOwn = false
  | .returned (.ok ()), x => x ≠ .guard
  | .returned (.error _), x => x = .guard ∨ x.isOwn = false

/-- A call that is under way. -/
structure Inv (r : Request) (w : Callback) : Prop where
  sound : w.contest.Sound r.requestId
  /-- A callback that has run is in nobody's hand. -/
  ran : w.ran = [] ∨ w.contest.hand = none ∧ ∃ x o, w.contest.winner = some x ∧
    x.outcome r.requestId = some o ∧ w.ran = [o.bind Client.outcomeOf]
  allows : ∀ x, w.contest.winner = some x → w.stage.Allows x
  /-- A call that has failed has no slot any more. -/
  failed : ∀ e, w.stage = .returned (.error e) → w.contest.winner.isSome

variable {r : Request} {degraded : Bool} {a : Adapter} {w w' : Callback} {x : Winner}

theorem Inv.start (r : Request) (a : Adapter) : Inv r (start r a) where
  sound := Contest.sound_register ..
  ran := .inl rfl
  allows _ h := nomatch h
  failed _ h := nomatch h

theorem Stage.allows_of_isOwn (h : x.isOwn = false) (s : Stage) : s.Allows x := by
  cases s with
  | sending => exact h
  | returned result =>
    cases result with
    | ok =>
      rintro rfl
      cases h
    | error => exact .inr h

/-- What the callback was run with, when the slot of its call is contended for. -/
theorem Inv.ran_of_contest (inv : Inv r w) {c : Contest}
    (h : c.winner = w.contest.winner ∧ c.hand = w.contest.hand ∨ w.contest.winner = none) :
    w.ran = [] ∨ c.hand = none ∧ ∃ x o, c.winner = some x ∧
      x.outcome r.requestId = some o ∧ w.ran = [o.bind Client.outcomeOf] := by
  refine inv.ran.imp_right fun ⟨hhand, x, o, hx, ho, hran⟩ => ?_
  rcases h with ⟨hwinner, hhand'⟩ | hnone
  · exact ⟨hhand'.trans hhand, x, o, hwinner.trans hx, ho, hran⟩
  · cases hnone.symm.trans hx

/-- The call itself wants the slot, and comes to a stage in which it may have it. -/
theorem Inv.take (inv : Inv r w) {s : Stage} (hown : s.Allows x)
    (hothers : ∀ y, w.contest.winner = some y → s.Allows y) :
    Inv r { w with contest := w.contest.take r.requestId x, stage := s } := by
  rcases inv.sound.take_cases x with ⟨hsome, heq⟩ | ⟨hnone, hwinner, hhand⟩
  · rw [heq]
    exact ⟨inv.sound, inv.ran, hothers, fun _ _ => hsome⟩
  · refine ⟨inv.sound.take x, inv.ran_of_contest (.inr hnone), fun y hy => ?_, fun _ _ => ?_⟩
    · cases hwinner.symm.trans hy
      exact hown
    · exact hwinner ▸ rfl

theorem Inv.step (inv : Inv r w) (hstep : Step r degraded w w') : Inv r w' := by
  have hallows := inv.allows
  cases hstep with
  | send hstage hsend =>
    rw [hstage] at hallows
    exact ⟨inv.sound.of_pending hsend.pending rfl fun _ h => h, inv.ran, hallows, nofun⟩
  | fail hstage hresult =>
    -- The guard wins, or finds that somebody else has won while the call was sending.
    rw [hstage] at hallows
    exact inv.take (.inl rfl) fun y hy => .inr (hallows y hy)
  | queued hstage =>
    rw [hstage] at hallows
    exact ⟨inv.sound, inv.ran, fun x hx => Stage.allows_of_isOwn (hallows x hx) _, nofun⟩
  | expire elapsed hstage =>
    refine inv.take (s := w.stage) ?_ hallows
    rw [hstage]
    exact nofun
  | run now hhand houtcome =>
    have hwinner := inv.sound.hand _ hhand
    -- The waiter is still in the hand of the winner, so the callback has not run.
    have hran : w.ran = [] := by
      rcases inv.ran with hran | ⟨hnone, -⟩
      · exact hran
      · cases hnone.symm.trans hhand
    refine ⟨inv.sound.of_pending (Winner.pending_finish ..) rfl nofun, ?_, hallows, inv.failed⟩
    exact .inr ⟨rfl, _, _, hwinner, houtcome, by rw [hran, List.nil_append]⟩
  | drop =>
    exact ⟨inv.sound.of_pending rfl rfl nofun, inv.ran.imp_right fun h => ⟨rfl, h.2⟩, hallows,
      inv.failed⟩
  | others hothers =>
    have hsound := hothers.sound inv.sound
    rcases hothers.winner_cases inv.sound with ⟨hwinner, hhand⟩ | ⟨hnone, x, hforeign, hwinner, -⟩
    · refine ⟨hsound, inv.ran_of_contest (.inl ⟨hwinner, hhand⟩), ?_, ?_⟩
      · exact fun y hy => hallows y (hwinner ▸ hy)
      · exact fun e he => hwinner ▸ inv.failed e he
    · -- Somebody else wins, which may happen at every stage.
      refine ⟨hsound, inv.ran_of_contest (.inr hnone), fun y hy => ?_, fun _ _ => ?_⟩
      · cases hwinner.symm.trans hy
        exact Stage.allows_of_isOwn hforeign _
      · exact hwinner ▸ rfl

theorem Inv.steps (inv : Inv r w) (hs : ReflTransGen (Step r degraded) w w') : Inv r w' := by
  induction hs with
  | refl => exact inv
  | tail _ hstep ih => exact ih.step hstep

/-! ## One outcome -/

/-- Whatever comes in between, a callback runs once at most. -/
theorem singleOutcome (hs : ReflTransGen (Step r degraded) (start r a) w) : SingleOutcome r w := by
  have inv := (Inv.start r a).steps hs
  refine ⟨inv.ran.imp_right And.right, fun e he => ?_, fun hok => ?_⟩
  · obtain ⟨x, hx⟩ := Option.isSome_iff_exists.1 (inv.failed e he)
    have hallows := inv.allows x hx
    rw [he] at hallows
    rcases hallows with rfl | hforeign
    · -- The guard has nothing for the callback.
      refine .inl ⟨hx, inv.ran.resolve_right ?_⟩
      rintro ⟨-, y, o, hy, houtcome, -⟩
      cases hx.symm.trans hy
      cases houtcome
    · exact .inr ⟨x, hx, hforeign⟩
  · intro hguard
    have hallows := inv.allows _ hguard
    rw [hok] at hallows
    exact hallows rfl

/-- A call to be answered. -/
def request : Request := { (default : Request) with requestId := 7 }

/-- An adapter that has not dialled yet. -/
def fresh : Adapter := .new default { object := "" } 0

/-- A call waits for a socket when its adapter is closed. The failure of all calls runs
    the callback, and then the call finds its connection closed and returns an error. -/
theorem exists_steps_closed : ∃ w, ReflTransGen (Step request false) (start request fresh) w ∧
    w.stage = .returned (.error (.connection "connection closed")) ∧
    w.ran = [.error .shutdown] := by
  have hdialling : ReflTransGen (Step request false) (start request fresh) _ :=
    ((((ReflTransGen.refl.tail
      (.send rfl (.enter rfl))).tail
      (.send rfl (.count _))).tail
      (.send rfl (.route _))).tail
      (.send rfl (.check rfl rfl))).tail
      (.send rfl (.dial rfl rfl))
  -- The steps of `Adapter.close`: the connection is shut down, and then the slot is taken out.
  have hclosed := (hdialling.tail
      (.others (@Contest.Others.apart _ _ { fresh.register 7 (Expected.callback 7) with
        health := fresh.health.onSend, closed := true, connection := fresh.connection.shutdown }
        (.current rfl rfl rfl) rfl))).tail
      (.others (.sweep _))
  refine ⟨_, (((hclosed.tail
      (.run 1 rfl rfl)).tail
      (.send rfl (.reach (d := fun _ _ => .ok ()) rfl rfl))).tail
      (.send rfl (.fail _ _))).tail
      (.fail rfl rfl), rfl, rfl⟩

theorem singleOutcome_closed : ∃ w, w.ran = [.error .shutdown] ∧ SingleOutcome request w := by
  obtain ⟨w, hs, -, hran⟩ := exists_steps_closed
  exact ⟨w, hran, singleOutcome hs⟩

/-- A callback can run although its call returns an error. -/
theorem not_either : ¬ ∀ (r : Request) (degraded : Bool) (a : Adapter) (w : Callback),
    ReflTransGen (Step r degraded) (start r a) w → Either w := by
  intro h
  obtain ⟨w, hs, hstage, hran⟩ := exists_steps_closed
  have heither := h _ _ _ _ hs
  rw [Either, hstage] at heither
  cases hran.symm.trans heither

end Callback

end TaggedRpc
