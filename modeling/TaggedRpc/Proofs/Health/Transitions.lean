import TaggedRpc.Proofs.Health.History

/-!
# When an endpoint changes its health

In every history whose times do not go back, an endpoint goes back and forth between its two
states by one law (`Transition`, `transition`). Only a check trips it, and is answered so; only a
reset recovers it, and forgets what was counted. While it is unhealthy, a check finds a retry due
if and only if the retry interval has passed since the last alarm. While it is healthy, it trips
once it has failed often enough in a row and the window without a success is over.
-/

namespace TaggedRpc.Health

variable {h : Health} {config : HealthConfig} {ticks start now : Nat} {past : History} {e : Event}

/-- A healthy endpoint stays so, except in a check that trips it. -/
theorem step_trips_iff (hwell : h.healthy = true) :
    (h.step ticks e).healthy = false ↔ h.answer? ticks e = some .tripped := by
  cases e with
  | send | success now | failure => simp [step, onSend, onSuccess, onFailure, answer?, hwell]
  | reset now => simp [step, reset, answer?]
  | check now =>
    rw [← Bool.not_eq_true, step, healthy_check, answer?]
    simp [hwell]

/-- An unhealthy endpoint stays so until a reset. -/
theorem step_recovers_iff (hsick : h.healthy = false) :
    (h.step ticks e).healthy = true ↔ ∃ now, e = .reset now := by
  cases e with
  | send | success now | failure => simp [step, onSend, onSuccess, onFailure, hsick]
  | reset now => simp [step, reset]
  | check now =>
    rw [step, healthy_check]
    simp [hsick]

theorem answer_eq_some {answer : HealthCheck} (h' : h.answer? ticks e = some answer) :
    ∃ now, e = .check now ∧ (h.check now ticks).1 = answer := by
  cases e with
  | check now => exact ⟨now, rfl, Option.some_inj.1 h'⟩
  | send | success now | failure | reset now => cases h'

/-- Failures in a row trip, unless there are so many that their number has no word. -/
theorem failsInRow_after (hmany : config.failThreshold.toNat ≤ past.failuresInRow)
    (hfit : past.failuresInRow < 2 ^ 32)
    (hlong : past.lastCalm start + config.failWindowMs.toNat * ticks ≤ now) :
    (after config ticks start past).failsInRow now ticks = true := by
  have htracks := tracks_after config ticks start past
  rw [failsInRow, htracks.config_eq, htracks.lastSuccess_eq, htracks.failuresInRow_eq,
    Bool.and_eq_true, decide_eq_true_iff, decide_eq_true_iff, UInt32.le_iff_toNat_le,
    UInt32.toNat_ofNat_of_lt' hfit]
  exact ⟨Nat.le_sub_of_add_le' hlong, hmany⟩

/-- The law of an endpoint's health: what an event does after a history. -/
structure Transition (config : HealthConfig) (ticks start : Nat) (past : History) (e : Event) :
    Prop where
  /-- A healthy endpoint becomes unhealthy in a check that is answered so, and only there. -/
  trips_iff : (after config ticks start past).healthy = true →
    ((after config ticks start (e :: past)).healthy = false ↔
      (after config ticks start past).answer? ticks e = some .tripped)
  /-- An unhealthy endpoint becomes healthy in a reset, and only there. -/
  recovers_iff : (after config ticks start past).healthy = false →
    ((after config ticks start (e :: past)).healthy = true ↔ ∃ now, e = .reset now)
  /-- After a reset, an endpoint is healthy and nothing is counted. -/
  reset_clears : ∀ now, e = .reset now →
    (after config ticks start (e :: past)).healthy = true ∧
      (after config ticks start (e :: past)).sends = 0 ∧
      (after config ticks start (e :: past)).successes = 0 ∧
      (after config ticks start (e :: past)).failures = 0 ∧
      (after config ticks start (e :: past)).failuresInRow = 0
  /-- Only what is healthy trips. -/
  healthy_of_tripped : (after config ticks start past).answer? ticks e = some .tripped →
    (after config ticks start past).healthy = true
  /-- Only what is unhealthy is retried. -/
  unhealthy_of_retry : (after config ticks start past).answer? ticks e = some .retry →
    (after config ticks start past).healthy = false
  /-- While an endpoint is unhealthy, a check retries exactly if it is late after the last alarm,
      and there was one. -/
  retry_iff : (after config ticks start past).healthy = false →
    ∃ alarm, lastAlarm? config ticks start past = some alarm ∧ ∀ now, e = .check now →
      ((after config ticks start past).answer? ticks e = some .retry ↔
        alarm + config.retryIntervalMs.toNat * ticks ≤ now)
  /-- A check trips a healthy endpoint after failures enough in a row and a window without a
      success. -/
  trips_of_failuresInRow : (after config ticks start past).healthy = true → ∀ now, e = .check now →
    config.failThreshold.toNat ≤ past.failuresInRow → past.failuresInRow < 2 ^ 32 →
    past.lastCalm start + config.failWindowMs.toNat * ticks ≤ now →
    (after config ticks start past).answer? ticks e = some .tripped

/-- Every event after every history whose times do not go back obeys the law. -/
theorem transition (htimes : History.Timely start (e :: past)) :
    Transition config ticks start past e where
  trips_iff := step_trips_iff
  recovers_iff := step_recovers_iff
  reset_clears := by
    rintro now rfl
    exact ⟨rfl, rfl, rfl, rfl, rfl⟩
  healthy_of_tripped htrip := by
    obtain ⟨now, rfl, hcheck⟩ := answer_eq_some htrip
    exact (check_eq_tripped_iff.1 hcheck).1
  unhealthy_of_retry hretry := by
    obtain ⟨now, rfl, hcheck⟩ := answer_eq_some hretry
    exact (check_eq_retry_iff.1 hcheck).1
  retry_iff hsick := by
    have htracks := tracks_after config ticks start past
    have halarm := htracks.lastAlarm_eq hsick
    refine ⟨_, halarm, ?_⟩
    rintro now rfl
    have hle := htimes.le rfl (mem_times_of_lastAlarm halarm)
    rw [answer?, Option.some_inj, check_eq_retry_iff, htracks.config_eq, Nat.le_sub_iff_add_le' hle]
    exact and_iff_right hsick
  trips_of_failuresInRow hwell := by
    rintro now rfl hmany hfit hlong
    exact congrArg some
      (check_eq_tripped_iff.2 ⟨hwell, .inl (failsInRow_after hmany hfit hlong)⟩)

/-- An endpoint that has tripped for its fifth failure at 5000 milliseconds, and the check that
    finds a retry due 30000 milliseconds after. -/
theorem transition_retry :
    History.Timely 0
      [.check 35000, .check 5000, .failure, .failure, .failure, .failure, .failure] ∧
    Transition {} 1 0 [.check 5000, .failure, .failure, .failure, .failure, .failure]
      (.check 35000) := by
  have htimes : History.Timely 0
      [.check 35000, .check 5000, .failure, .failure, .failure, .failure, .failure] := by decide
  exact ⟨htimes, transition htimes⟩

end TaggedRpc.Health
