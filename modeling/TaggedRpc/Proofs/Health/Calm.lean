import TaggedRpc.Config.Basic
import TaggedRpc.Proofs.Health.Transitions

/-!
# Endpoints that do not fail

An endpoint of a valid configuration that has never failed is not *disturbed* by its checks: it
stays healthy, and they find nothing to do (`Health.undisturbed_iff`). For the ratio of failures
this holds whatever the limits are, because a valid ratio is above zero
(`Float.quotientReaches_zero`). For failures in a row it takes a threshold above zero: with a
threshold of zero, which is valid as well, no failure at all is enough, and an endpoint trips when
it has had no success for the window (`Health.not_undisturbed`).
-/

namespace TaggedRpc

/-! ## Ratios -/

namespace Float

/-- The words from zero, exclusive, to one are positive numbers. -/
theorem decode_of_le_one {n : Nat} (hpos : 0 < n) (hone : n ≤ 1023 * 2 ^ 52) :
    ∃ m q, m ≠ 0 ∧ double.decode n = .finite false m q := by
  have hexponent : double.exponent n = n / 2 ^ 52 :=
    Nat.mod_eq_of_lt (show n / 2 ^ 52 < 2 ^ 11 by omega)
  have hsign : double.isNegative n = false := by
    have hsmall : n / 2 ^ (52 + 11) = 0 := Nat.div_eq_of_lt (by omega)
    show (n / 2 ^ (52 + 11) % 2 == 1) = false
    rw [hsmall]
    rfl
  have hfinite : n / 2 ^ 52 ≠ 2 ^ double.exponentBits - 1 :=
    Nat.ne_of_lt (show n / 2 ^ 52 < 2047 by omega)
  rw [Format.decode, hsign, hexponent, if_neg hfinite]
  split
  · next hleast =>
    -- With the least exponent, the fraction is the whole word.
    have hfraction : double.fraction n ≠ 0 := show n % 2 ^ 52 ≠ 0 by omega
    exact ⟨_, _, hfraction, rfl⟩
  · exact ⟨_, _, Nat.ne_of_gt (Nat.add_pos_right _ (Nat.two_pow_pos _)), rfl⟩

/-- No failures reach no ratio that is valid. -/
theorem quotientReaches_zero {bits : UInt64} (h : isRatio bits = true) (den : Nat) :
    quotientReaches 0 den bits = false := by
  rw [isRatio, Bool.and_eq_true, decide_eq_true_iff, decide_eq_true_iff, UInt64.lt_iff_toNat_lt,
    UInt64.le_iff_toNat_le] at h
  obtain ⟨hpos, hone⟩ := h
  obtain ⟨m, q, hm, hdecode⟩ := decode_of_le_one hpos hone
  rw [quotientReaches, hdecode, Format.nearest, if_pos rfl]
  simpa [hm] using Nat.ne_of_gt hpos

end Float

namespace Config

/-- A configuration without fault has a valid ratio. -/
theorem isRatio_of_fault? {c : Config} (h : c.fault? = none) :
    isRatio c.health.failRatio = true := by
  cases hratio : isRatio c.health.failRatio with
  | true => rfl
  | false =>
    rw [fault?, hratio] at h
    split at h
    · cases h
    · split at h
      · cases h
      · split at h <;> cases h

theorem fault?_of_validate {c c' : Config} (h : c.validate = .ok c') : c.fault? = none := by
  rw [validate] at h
  split at h
  · cases h
  · assumption

end Config

namespace Health

variable {h : Health} {config : HealthConfig} {ticks start now : Nat} {past older : History}
  {e : Event}

/-! ## Histories without a failure -/

theorem History.countSince_eq_zero {isBreak : Event → Bool} (hnone : e ∉ past) :
    countSince isBreak e past = 0 :=
  List.count_eq_zero_of_not_mem fun hmem => hnone ((List.takeWhile_sublist _).subset hmem)

/-- What has not failed does not fail often, if the ratio is valid. -/
theorem failsOften_of_not_mem (hratio : isRatio config.failRatio = true)
    (hnone : Event.failure ∉ past) : (after config ticks start past).failsOften = false := by
  have htracks := tracks_after config ticks start past
  rw [failsOften, htracks.config_eq, htracks.failures_eq, History.failures,
    History.countSince_eq_zero hnone]
  exact Bool.and_eq_false_imp.2 fun _ => Float.quotientReaches_zero hratio _

/-- What has not failed fails in a row if that takes no failure. -/
theorem failsInRow_iff_of_not_mem (hnone : Event.failure ∉ past) :
    (after config ticks start past).failsInRow now ticks = true ↔
      config.failThreshold = 0 ∧ config.failWindowMs.toNat * ticks ≤ now - past.lastCalm start := by
  have htracks := tracks_after config ticks start past
  rw [failsInRow, htracks.config_eq, htracks.lastSuccess_eq, htracks.failuresInRow_eq,
    History.failuresInRow, History.countSince_eq_zero hnone, Bool.and_eq_true, decide_eq_true_iff,
    decide_eq_true_iff, and_comm]
  exact and_congr_left fun _ => UInt32.le_zero_iff

/-- A healthy endpoint that does not fail often trips only for a row of failures. -/
theorem check_eq_unchanged_iff (hwell : h.healthy = true) (hseldom : h.failsOften = false) :
    (h.check now ticks).1 = .unchanged ↔ h.failsInRow now ticks = false := by
  have hcheck := h.checked now ticks
  generalize h.check now ticks = r at hcheck ⊢
  cases hcheck with
  | retry hsick | wait hsick => cases hwell.symm.trans hsick
  | tripInRow _ hrow => simp [hrow]
  | tripOften _ _ _ hoften => cases hseldom.symm.trans hoften
  | look _ hrow | pass _ hrow => simp [hrow]

/-- What has not failed is disturbed by an event only if that takes no failure, and late. -/
theorem answer_unchanged_iff (hratio : isRatio config.failRatio = true)
    (hnone : Event.failure ∉ past) (hwell : (after config ticks start past).healthy = true) :
    (∀ answer, (after config ticks start past).answer? ticks e = some answer →
      answer = .unchanged) ↔
      0 < config.failThreshold ∨
        ∀ now, e = .check now → now - past.lastCalm start < config.failWindowMs.toNat * ticks := by
  cases e with
  | send | success now | failure | reset now =>
    exact iff_of_true (fun _ h => nomatch h) (.inr fun _ h => nomatch h)
  | check now =>
    simp only [answer?, Option.some.injEq, forall_eq', Event.check.injEq]
    rw [check_eq_unchanged_iff hwell (failsOften_of_not_mem hratio hnone), ← Bool.not_eq_true,
      failsInRow_iff_of_not_mem hnone, Classical.not_and_iff_not_or_not, Nat.not_le,
      UInt32.pos_iff_ne_zero]

/-! ## Histories without a disturbance -/

/-- The endpoint stays healthy throughout a history, and no check finds anything to do. -/
structure Undisturbed (config : HealthConfig) (ticks start : Nat) (past : History) : Prop where
  healthy : ∀ older, older <:+ past → (after config ticks start older).healthy = true
  unchanged : ∀ p ∈ answers config ticks start past, p.2 = .unchanged

/-- Every check comes within a window after the last success or reset. -/
def History.InWindow (window start : Nat) (past : History) : Prop :=
  ∀ now, ∀ older : History, .check now :: older <:+ past → now - older.lastCalm start < window

theorem undisturbed_nil : Undisturbed config ticks start [] where
  healthy older h := by
    rw [List.suffix_nil.1 h]
    rfl
  unchanged := List.forall_mem_nil _

theorem forall_mem_answers_cons :
    (∀ p ∈ answers config ticks start (e :: past), p.2 = .unchanged) ↔
      (∀ answer, (after config ticks start past).answer? ticks e = some answer →
        answer = .unchanged) ∧ ∀ p ∈ answers config ticks start past, p.2 = .unchanged := by
  cases e with
  | check now => simp [answers, answer?]
  | send | success now | failure | reset now => simp [answers, answer?]

/-- An event disturbs an endpoint if it is a check that finds something to do. -/
theorem undisturbed_cons : Undisturbed config ticks start (e :: past) ↔
    (∀ answer, (after config ticks start past).answer? ticks e = some answer →
      answer = .unchanged) ∧ Undisturbed config ticks start past := by
  constructor
  · rintro ⟨hhealthy, hunchanged⟩
    obtain ⟨hnow, hbefore⟩ := forall_mem_answers_cons.1 hunchanged
    exact ⟨hnow, fun older h => hhealthy older (h.trans (List.suffix_cons ..)), hbefore⟩
  · rintro ⟨hnow, hhealthy, hbefore⟩
    refine ⟨fun older h => ?_, forall_mem_answers_cons.2 ⟨hnow, hbefore⟩⟩
    rcases List.suffix_cons_iff.1 h with rfl | h
    · have hwell := hhealthy past (List.suffix_refl past)
      rw [after, ← Bool.not_eq_false, step_trips_iff hwell]
      intro htrips
      cases hnow _ htrips
    · exact hhealthy older h

theorem History.inWindow_cons {window : Nat} : InWindow window start (e :: past) ↔
    (∀ now, e = .check now → now - past.lastCalm start < window) ∧ InWindow window start past := by
  constructor
  · exact fun h => ⟨fun now he => h now past (he ▸ List.suffix_refl _),
      fun now older hsuffix => h now older (hsuffix.trans (List.suffix_cons ..))⟩
  · rintro ⟨hnow, hbefore⟩ now older hsuffix
    rcases List.suffix_cons_iff.1 hsuffix with heq | hsuffix
    · cases heq
      exact hnow now rfl
    · exact hbefore now older hsuffix

/-- An endpoint of a valid configuration that has not failed is undisturbed, whatever comes at
    whatever times, if and only if its threshold is above zero or all checks come early. -/
theorem undisturbed_iff {c c' : Config} (hvalid : c.validate = .ok c')
    (hnone : Event.failure ∉ past) :
    Undisturbed c.health ticks start past ↔
      0 < c.health.failThreshold ∨ past.InWindow (c.health.failWindowMs.toNat * ticks) start := by
  have hratio := Config.isRatio_of_fault? (Config.fault?_of_validate hvalid)
  induction past with
  | nil => exact iff_of_true undisturbed_nil (.inr fun _ _ h => nomatch List.suffix_nil.1 h)
  | cons e past ih =>
    have hnone' : Event.failure ∉ past := fun hmem => hnone (List.mem_cons_of_mem e hmem)
    rw [undisturbed_cons, History.inWindow_cons, or_and_left]
    refine Iff.trans (and_congr_left fun hpast => ?_) (and_congr_right fun _ => ih hnone')
    exact answer_unchanged_iff hratio hnone' (hpast.healthy past (List.suffix_refl past))

/-- An endpoint that is called now and then, and never fails, for an hour. -/
theorem undisturbed_hour : ({} : Config).validate = .ok {} ∧
    Event.failure ∉ [.check 3600000, .success 1800000, .send, .check 1790000, .reset 60000, .send] ∧
    Undisturbed {} 1 0
      [.check 3600000, .success 1800000, .send, .check 1790000, .reset 60000, .send] := by
  have hvalid : ({} : Config).validate = .ok {} := rfl
  refine ⟨hvalid, by decide, (undisturbed_iff hvalid (by decide)).2 (.inl (by decide))⟩

/-- A configuration that lets no failure at all trip an endpoint. -/
def hairTrigger : Config := { health := { failThreshold := 0 } }

/-- With a threshold of zero, an endpoint that has never failed trips at the end of the window. -/
theorem not_undisturbed : ¬ ∀ (c : Config) (ticks start : Nat) (past : History),
    c.validate = .ok c → Event.failure ∉ past → past.Timely start →
    Undisturbed c.health ticks start past := by
  intro h
  have hcalm := h hairTrigger 1 0 [.check 5000] rfl (by decide) (by decide)
  have hunchanged := hcalm.unchanged (5000, .tripped) (by decide)
  cases hunchanged

end Health

end TaggedRpc
