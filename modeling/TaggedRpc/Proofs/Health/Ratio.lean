import TaggedRpc.Proofs.Float.Half
import TaggedRpc.Proofs.Health.History

/-!
# Endpoints that trip for the ratio of their failures

Where the ratio is one half, a check trips an endpoint for it if and only if it looks at the
counters, finds failures enough, and finds at least half as many failures as sends
(`tripped_for_ratio`): the quotient is rounded, but not across one half. The counters are what was
truly counted up to a multiple of `2 ^ 32`. So an endpoint that trips has truly failed in half of
its sends if there were fewer than that since the last reset. After more, the sends begin again at
zero, and an endpoint trips that has hardly failed (`tripped_after_wrap`).
-/

namespace TaggedRpc.Health

variable {h : Health} {config : HealthConfig} {ticks start now : Nat} {past : History}

theorem failsOften_iff (hratio : h.config.failRatio = Float.half) :
    h.failsOften = true ↔ h.config.minFailSamples.toNat ≤ h.failures.toNat ∧
      max h.sends.toNat 1 ≤ 2 * h.failures.toNat := by
  have hfailures : h.failures.toNat < 2 ^ 33 := Nat.lt_trans h.failures.toNat_lt (by decide)
  have hsends : max h.sends.toNat 1 < 2 ^ 33 :=
    Nat.max_lt.2 ⟨Nat.lt_trans h.sends.toNat_lt (by decide), by decide⟩
  rw [failsOften, Bool.and_eq_true, decide_eq_true_iff, UInt32.le_iff_toNat_le, hratio,
    Float.quotientReaches_half_iff (Nat.ne_of_gt (Nat.le_max_right ..)) hfailures hsends]

/-- What trips an endpoint that has not failed in a row, in terms of what was truly counted. -/
theorem check_eq_tripped_iff_residues (hratio : config.failRatio = Float.half)
    (hrow : (after config ticks start past).failsInRow now ticks = false) :
    ((after config ticks start past).check now ticks).1 = .tripped ↔
      (after config ticks start past).healthy = true ∧
      config.checkIntervalMs.toNat * ticks ≤ now - (after config ticks start past).lastCheck ∧
      config.minFailSamples.toNat ≤ past.failures % 2 ^ 32 ∧
      max (past.sends % 2 ^ 32) 1 ≤ 2 * (past.failures % 2 ^ 32) := by
  have htracks := tracks_after config ticks start past
  have hratio' : (after config ticks start past).config.failRatio = Float.half := by
    rw [htracks.config_eq, hratio]
  rw [check_eq_tripped_iff, hrow, failsOften_iff hratio', htracks.config_eq, htracks.sends_eq,
    htracks.failures_eq, UInt32.toNat_ofNat', UInt32.toNat_ofNat']
  simp only [Bool.false_eq_true, false_or]

/-- An endpoint that has not failed in a row trips for the ratio of its counters. It has truly
    failed as often as it takes, and in half of its sends if these were so few that their number
    has a word. -/
theorem tripped_for_ratio (hratio : config.failRatio = Float.half)
    (hrow : (after config ticks start past).failsInRow now ticks = false) :
    (((after config ticks start past).check now ticks).1 = .tripped ↔
      (after config ticks start past).healthy = true ∧
      config.checkIntervalMs.toNat * ticks ≤ now - (after config ticks start past).lastCheck ∧
      config.minFailSamples.toNat ≤ past.failures % 2 ^ 32 ∧
      max (past.sends % 2 ^ 32) 1 ≤ 2 * (past.failures % 2 ^ 32)) ∧
    (((after config ticks start past).check now ticks).1 = .tripped →
      config.minFailSamples.toNat ≤ past.failures ∧
      (past.sends < 2 ^ 32 → max past.sends 1 ≤ 2 * past.failures)) := by
  have hiff := check_eq_tripped_iff_residues hratio hrow
  refine ⟨hiff, fun htrip => ?_⟩
  obtain ⟨-, -, hmany, hhalf⟩ := hiff.1 htrip
  have hmod : past.failures % 2 ^ 32 ≤ past.failures := Nat.mod_le ..
  refine ⟨Nat.le_trans hmany hmod, fun hfit => ?_⟩
  rw [Nat.mod_eq_of_lt hfit] at hhalf
  exact Nat.le_trans hhalf (Nat.mul_le_mul_left 2 hmod)

/-- Two sends fail, and the look at the end of the first minute trips. -/
theorem tripped_for_ratio_two :
    ({} : HealthConfig).failRatio = Float.half ∧
    (after {} 1 0 [.failure, .send, .failure, .send]).failsInRow 60000 = false ∧
    ((after {} 1 0 [.failure, .send, .failure, .send]).check 60000).1 = .tripped := by
  have hrow : (after {} 1 0 [.failure, .send, .failure, .send]).failsInRow 60000 = false := by
    decide
  exact ⟨rfl, hrow, (tripped_for_ratio rfl hrow).1.2 (by decide)⟩

/-! ## Counters that begin again -/

namespace History

/-- A history is paired if there were never more failures than sends. -/
def Paired (past : History) : Prop :=
  ∀ older, older <:+ past → older.count .failure ≤ older.count .send

/-- Sends of which the last two fail, and then a success late in the first minute. -/
def twoFailures (n : Nat) : History :=
  .success 59999 :: .failure :: .failure :: List.replicate n .send

theorem sends_twoFailures (n : Nat) : (twoFailures n).sends = n := by
  simp [sends, countSince, twoFailures, Event.isReset]

theorem failures_twoFailures (n : Nat) : (twoFailures n).failures = 2 := by
  simp [failures, countSince, twoFailures, Event.isReset, List.count_replicate]

theorem times_twoFailures (n : Nat) : (twoFailures n).times = [59999] :=
  congrArg (59999 :: ·) (List.filterMap_replicate_of_none rfl)

theorem timely_twoFailures (n : Nat) : Timely 0 (.check 60000 :: twoFailures n) := by
  rw [Timely, times_cons rfl, times_twoFailures]
  decide

/-- The failures come after all sends, so it is enough to look at the last of them. -/
theorem paired_twoFailures {n : Nat} (hn : 2 ≤ n) : (twoFailures n).Paired := by
  intro older hsuffix
  simp only [twoFailures, List.suffix_cons_iff] at hsuffix
  rcases hsuffix with rfl | rfl | rfl | hsends
  · simpa [List.count_replicate] using hn
  · simpa [List.count_replicate] using hn
  · simpa [List.count_replicate] using Nat.le_of_lt hn
  · have hnone : older.count .failure ≤ 0 := by
      simpa [List.count_replicate] using hsends.sublist.count_le Event.failure
    exact Nat.le_trans hnone (Nat.zero_le _)

end History

/-- Sends that follow one another are counted as one number. -/
theorem after_replicate_send (config : HealthConfig) (ticks start n : Nat) (past : History) :
    after config ticks start (List.replicate n .send ++ past) =
      (after config ticks start past).onSends n := by
  induction n with
  | zero => simp [onSends]
  | succ n ih =>
    rw [List.replicate_succ, List.cons_append, after, ih, step, onSend, onSends, onSends,
      UInt32.ofNat_add, ← UInt32.add_assoc]
    rfl

theorem after_twoFailures (n : Nat) :
    after {} 1 0 (History.twoFailures n) =
      ((((new {} 0).onSends n).onFailure).onFailure).onSuccess 59999 := by
  have hsends := after_replicate_send {} 1 0 n []
  rw [List.append_nil] at hsends
  rw [History.twoFailures, after, after, after, hsends]
  rfl

/-- After `2 ^ 32 + 2` sends of which two fail, an endpoint trips for the ratio of its failures. -/
theorem tripped_after_wrap :
    (History.twoFailures (2 ^ 32 + 2)).Paired ∧
    History.Timely 0 (.check 60000 :: History.twoFailures (2 ^ 32 + 2)) ∧
    ({} : HealthConfig).failRatio = Float.half ∧
    (after {} 1 0 (History.twoFailures (2 ^ 32 + 2))).failsInRow 60000 = false ∧
    ((after {} 1 0 (History.twoFailures (2 ^ 32 + 2))).check 60000).1 = .tripped ∧
    ¬ max (History.twoFailures (2 ^ 32 + 2)).sends 1 ≤
      2 * (History.twoFailures (2 ^ 32 + 2)).failures := by
  have hrow (n : Nat) : (after {} 1 0 (History.twoFailures n)).failsInRow 60000 = false := by
    rw [after_twoFailures]
    rfl
  refine ⟨History.paired_twoFailures (by decide), History.timely_twoFailures _, rfl, hrow _, ?_, ?_⟩
  · rw [check_eq_tripped_iff_residues rfl (hrow _), History.sends_twoFailures,
      History.failures_twoFailures, after_twoFailures]
    exact ⟨rfl, by decide, by decide, by decide⟩
  · rw [History.sends_twoFailures, History.failures_twoFailures]
    decide

end TaggedRpc.Health
