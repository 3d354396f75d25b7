import TaggedRpc.Endpoint.Health

/-!
# Histories of an endpoint's health

A *history* is what has happened to an endpoint since it was made at a time `start`: its events,
newest first. The health of the endpoint goes through them one after another (`after`), and a
history by itself says what was truly counted, and when. Health keeps up with its history
(`tracks_after`): the counters are what was counted, up to a multiple of `2 ^ 32`, and the times
are those of the events that they stand for.

* `Event`, `after`: what happens, and the health after a history;
* `History.sends`, `History.failures`, `History.failuresInRow`, `History.lastCalm` and
  `lastAlarm?`: what a history says;
* `Checked`: all that a check can do;
* `Tracks`: health that keeps up with a history.
-/

namespace TaggedRpc.Health

/-- What happens to an endpoint, with its time if it matters. -/
inductive Event where
  | send
  | success (now : Nat)
  | failure
  | check (now : Nat)
  | reset (now : Nat)
  deriving DecidableEq, Repr

namespace Event

/-- The time of an event. -/
def time? : Event → Option Nat
  | success now | check now | reset now => some now
  | send | failure => none

/-- The time of an event that ends a row of failures. -/
def calm? : Event → Option Nat
  | success now | reset now => some now
  | send | failure | check _ => none

/-- Whether all counting begins again with an event. -/
def isReset : Event → Bool
  | reset _ => true
  | send | success _ | failure | check _ => false

end Event

/-! ## What a history says -/

/-- The events since an endpoint was made, newest first. -/
abbrev History := List Event

namespace History

/-- How often something has happened since a break. -/
def countSince (isBreak : Event → Bool) (e : Event) (past : History) : Nat :=
  (past.takeWhile (!isBreak ·)).count e

/-- The sends since the last reset. -/
def sends (past : History) : Nat := past.countSince Event.isReset .send

/-- The failures since the last reset. -/
def failures (past : History) : Nat := past.countSince Event.isReset .failure

/-- The failures since the last success or reset. -/
def failuresInRow (past : History) : Nat := past.countSince (·.calm?.isSome) .failure

/-- The time of the last success or reset, or else the start. -/
def lastCalm (start : Nat) (past : History) : Nat := (past.findSome? Event.calm?).getD start

/-- The times of the events that have one. -/
def times (past : History) : List Nat := past.filterMap Event.time?

/-- Time does not go back. -/
def Timely (start : Nat) (past : History) : Prop := (past.times ++ [start]).Pairwise (· ≥ ·)

instance (start : Nat) (past : History) : Decidable (past.Timely start) :=
  inferInstanceAs (Decidable (List.Pairwise ..))

/-- A word that counts goes up by one. -/
theorem succ_eq_countSince {isBreak : Event → Bool} {e : Event} {past : History} {w : UInt32}
    (hbreak : isBreak e = false) (h : w = UInt32.ofNat (past.countSince isBreak e)) :
    w + 1 = UInt32.ofNat (countSince isBreak e (e :: past)) := by
  rw [countSince, List.takeWhile_cons, hbreak, h]
  exact (UInt32.ofNat_add ..).symm.trans (congrArg UInt32.ofNat List.count_cons_self.symm)

theorem times_cons {now : Nat} {e : Event} (hnow : e.time? = some now) (past : History) :
    times (e :: past) = now :: past.times :=
  List.filterMap_cons_some hnow

theorem Timely.le {start now t : Nat} {e : Event} {past : History} (h : Timely start (e :: past))
    (hnow : e.time? = some now) (ht : t ∈ past.times) : t ≤ now := by
  rw [Timely, times_cons hnow] at h
  exact List.rel_of_pairwise_cons h (List.mem_append_left _ ht)

end History

/-! ## Health after a history -/

/-- The health after an event. -/
def step (ticks : Nat) (h : Health) : Event → Health
  | .send => h.onSend
  | .success now => h.onSuccess now
  | .failure => h.onFailure
  | .check now => (h.check now ticks).2
  | .reset now => h.reset now

/-- What an event is answered with: checks are. -/
def answer? (ticks : Nat) (h : Health) : Event → Option HealthCheck
  | .check now => some (h.check now ticks).1
  | .send | .success _ | .failure | .reset _ => none

section

variable (config : HealthConfig) (ticks start : Nat)

/-- The health after a history. -/
def after : History → Health
  | [] => new config start
  | e :: past => (after past).step ticks e

/-- The answers of the checks in a history, with their times. -/
def answers : History → List (Nat × HealthCheck)
  | [] => []
  | .check now :: past => (now, ((after config ticks start past).check now ticks).1) :: answers past
  | .send :: past | .success _ :: past | .failure :: past | .reset _ :: past => answers past

/-- The time of the last check that found something to do. -/
def lastAlarm? (past : History) : Option Nat :=
  ((answers config ticks start past).find? (·.2 ≠ .unchanged)).map Prod.fst

end

/-! ## Checks -/

variable {h : Health} {now ticks : Nat}

/-- All that a check can do. -/
inductive Checked (h : Health) (now ticks : Nat) : HealthCheck × Health → Prop
  | retry (hsick : h.healthy = false)
      (hlate : h.config.retryIntervalMs.toNat * ticks ≤ now - h.lastBlock) :
      Checked h now ticks (.retry, { h with lastBlock := now })
  | wait (hsick : h.healthy = false)
      (hearly : now - h.lastBlock < h.config.retryIntervalMs.toNat * ticks) :
      Checked h now ticks (.unchanged, h)
  | tripInRow (hwell : h.healthy = true) (hrow : h.failsInRow now ticks = true) :
      Checked h now ticks (.tripped, { h with healthy := false, lastBlock := now })
  | tripOften (hwell : h.healthy = true) (hrow : h.failsInRow now ticks = false)
      (hlate : h.config.checkIntervalMs.toNat * ticks ≤ now - h.lastCheck)
      (hoften : h.failsOften = true) :
      Checked h now ticks
        (.tripped, { h with lastCheck := now, healthy := false, lastBlock := now })
  | look (hwell : h.healthy = true) (hrow : h.failsInRow now ticks = false)
      (hlate : h.config.checkIntervalMs.toNat * ticks ≤ now - h.lastCheck)
      (hseldom : h.failsOften = false) :
      Checked h now ticks (.unchanged, { h with lastCheck := now })
  | pass (hwell : h.healthy = true) (hrow : h.failsInRow now ticks = false)
      (hearly : now - h.lastCheck < h.config.checkIntervalMs.toNat * ticks) :
      Checked h now ticks (.unchanged, h)

theorem checked (h : Health) (now ticks : Nat) : h.Checked now ticks (h.check now ticks) := by
  rw [check]
  by_cases hwell : h.healthy = true
  · rw [if_neg (by simp [hwell])]
    by_cases hrow : h.failsInRow now ticks = true
    · rw [if_pos hrow]
      exact .tripInRow hwell hrow
    · rw [if_neg hrow]
      replace hrow := Bool.eq_false_iff.2 hrow
      split
      case isFalse hearly => exact .pass hwell hrow (Nat.lt_of_not_le hearly)
      case isTrue hlate =>
        -- The ratio does not depend on when the last look was.
        dsimp only
        split
        case isTrue hoften => exact .tripOften hwell hrow hlate hoften
        case isFalse hseldom =>
          exact .look hwell hrow hlate (Bool.eq_false_iff.2 hseldom)
  · rw [if_pos (by simp [hwell])]
    replace hwell := Bool.eq_false_iff.2 hwell
    split
    case isTrue hlate => exact .retry hwell hlate
    case isFalse hearly => exact .wait hwell (Nat.lt_of_not_le hearly)

/-- A retry is due to an unhealthy endpoint that has had none for long. -/
theorem check_eq_retry_iff : (h.check now ticks).1 = .retry ↔
    h.healthy = false ∧ h.config.retryIntervalMs.toNat * ticks ≤ now - h.lastBlock := by
  have hcheck := h.checked now ticks
  generalize h.check now ticks = r at hcheck ⊢
  cases hcheck with
  | retry hsick hlate => simp [hsick, hlate]
  | wait hsick hearly => simp [hearly]
  | tripInRow hwell | tripOften hwell | look hwell | pass hwell => simp [hwell]

/-- A healthy endpoint trips for a row of failures, or for their ratio. -/
theorem check_eq_tripped_iff : (h.check now ticks).1 = .tripped ↔
    h.healthy = true ∧ (h.failsInRow now ticks = true ∨
      h.config.checkIntervalMs.toNat * ticks ≤ now - h.lastCheck ∧ h.failsOften = true) := by
  have hcheck := h.checked now ticks
  generalize h.check now ticks = r at hcheck ⊢
  cases hcheck with
  | retry hsick | wait hsick => simp [hsick]
  | tripInRow hwell hrow => simp [hwell, hrow]
  | tripOften hwell hrow hlate hoften => simp [hwell, hlate, hoften]
  | look hwell hrow hlate hseldom => simp [hrow, hseldom]
  | pass hwell hrow hearly => simp [hrow, Nat.not_le_of_lt hearly]

/-- A check leaves healthy the endpoint that it does not trip. -/
theorem healthy_check : (h.check now ticks).2.healthy = true ↔
    h.healthy = true ∧ (h.check now ticks).1 ≠ .tripped := by
  have hcheck := h.checked now ticks
  generalize h.check now ticks = r at hcheck ⊢
  cases hcheck <;> simp [*]

/-- A check counts nothing. -/
theorem check_frame (h : Health) (now ticks : Nat) :
    ∃ healthy lastCheck lastBlock,
      (h.check now ticks).2 = { h with healthy, lastCheck, lastBlock } := by
  have hcheck := h.checked now ticks
  generalize h.check now ticks = r at hcheck ⊢
  cases hcheck <;> exact ⟨_, _, _, rfl⟩

/-! ## Health that keeps up with its history -/

/-- What is counted is what happened, in words, and the last success has the time of the last
    success or reset. -/
structure Counts (config : HealthConfig) (start : Nat) (past : History) (h : Health) : Prop where
  config_eq : h.config = config
  sends_eq : h.sends = UInt32.ofNat past.sends
  failures_eq : h.failures = UInt32.ofNat past.failures
  failuresInRow_eq : h.failuresInRow = UInt32.ofNat past.failuresInRow
  lastSuccess_eq : h.lastSuccess = past.lastCalm start

/-- Health keeps up with a history: it also knows the time of the last alarm, for as long as it
    matters. -/
structure Tracks (config : HealthConfig) (ticks start : Nat) (past : History) (h : Health) : Prop
    extends Counts config start past h where
  lastAlarm_eq : h.healthy = false → lastAlarm? config ticks start past = some h.lastBlock

section

variable {config : HealthConfig} {start : Nat} {past : History}

theorem tracks_new : Tracks config ticks start [] (new config start) where
  config_eq := rfl
  sends_eq := rfl
  failures_eq := rfl
  failuresInRow_eq := rfl
  lastSuccess_eq := rfl
  lastAlarm_eq := nofun

theorem Tracks.onSend (h' : Tracks config ticks start past h) :
    Tracks config ticks start (.send :: past) h.onSend :=
  { h' with sends_eq := History.succ_eq_countSince rfl h'.sends_eq }

theorem Tracks.onFailure (h' : Tracks config ticks start past h) :
    Tracks config ticks start (.failure :: past) h.onFailure :=
  { h' with
    failures_eq := History.succ_eq_countSince rfl h'.failures_eq
    failuresInRow_eq := History.succ_eq_countSince rfl h'.failuresInRow_eq }

theorem Tracks.onSuccess (h' : Tracks config ticks start past h) (now : Nat) :
    Tracks config ticks start (.success now :: past) (h.onSuccess now) :=
  { h' with
    failuresInRow_eq := rfl
    lastSuccess_eq := rfl }

theorem Tracks.reset (h' : Tracks config ticks start past h) (now : Nat) :
    Tracks config ticks start (.reset now :: past) (h.reset now) where
  config_eq := h'.config_eq
  sends_eq := rfl
  failures_eq := rfl
  failuresInRow_eq := rfl
  lastSuccess_eq := rfl
  lastAlarm_eq := nofun

theorem Counts.check (h' : Counts config start past h) (now ticks : Nat) :
    Counts config start (.check now :: past) (h.check now ticks).2 := by
  obtain ⟨healthy, lastCheck, lastBlock, hframe⟩ := h.check_frame now ticks
  rw [hframe]
  exact { h' with }

/-- The answer of a check is the last alarm if it is one. -/
theorem lastAlarm_check (now : Nat) (past : History) :
    lastAlarm? config ticks start (.check now :: past) =
      if ((after config ticks start past).check now ticks).1 = .unchanged
      then lastAlarm? config ticks start past else some now := by
  rw [lastAlarm?, answers]
  by_cases hquiet : ((after config ticks start past).check now ticks).1 = .unchanged
  · rw [if_pos hquiet, List.find?_cons_of_neg (by simpa using hquiet), lastAlarm?]
  · rw [if_neg hquiet, List.find?_cons_of_pos (by simpa using hquiet), Option.map_some]

theorem Tracks.check (h' : Tracks config ticks start past (after config ticks start past))
    (now : Nat) : Tracks config ticks start (.check now :: past)
      (after config ticks start (.check now :: past)) where
  -- The answers in a history are those of the health at the time, so this is not about any health.
  toCounts := h'.toCounts.check now ticks
  lastAlarm_eq := by
    rw [lastAlarm_check, after, step]
    have hcheck := (after config ticks start past).checked now ticks
    generalize (after config ticks start past).check now ticks = r at hcheck ⊢
    intro hsick
    cases hcheck with
    | retry | tripInRow | tripOften => rfl
    | wait => exact h'.lastAlarm_eq hsick
    | look hwell | pass hwell => exact absurd (hwell.symm.trans hsick) Bool.noConfusion

/-- Health keeps up with every history. -/
theorem tracks_after (config : HealthConfig) (ticks start : Nat) (past : History) :
    Tracks config ticks start past (after config ticks start past) := by
  induction past with
  | nil => exact tracks_new
  | cons e past ih =>
    cases e with
    | send => exact ih.onSend
    | success now => exact ih.onSuccess now
    | failure => exact ih.onFailure
    | check now => exact ih.check now
    | reset now => exact ih.reset now

/-- An alarm has the time of an event. -/
theorem mem_times_of_lastAlarm {t : Nat} (h : lastAlarm? config ticks start past = some t) :
    t ∈ past.times := by
  obtain ⟨p, hfind, rfl⟩ := Option.map_eq_some_iff.1 h
  have hmem := List.mem_of_find?_eq_some hfind
  clear h hfind
  induction past with
  | nil => exact absurd hmem List.not_mem_nil
  | cons e past ih =>
    cases e with
    | send | failure => exact ih hmem
    | success now | reset now => exact List.mem_cons_of_mem _ (ih hmem)
    | check now =>
      rcases List.mem_cons.1 hmem with rfl | hmem
      · exact List.mem_cons_self
      · exact List.mem_cons_of_mem _ (ih hmem)

end

end TaggedRpc.Health
