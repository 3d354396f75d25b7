import Mathlib.Algebra.BigOperators.Group.Finset.Piecewise
import Mathlib.Algebra.Order.BigOperators.Group.Finset
import Mathlib.Data.Int.LeastGreatest
import Mathlib.Tactic.Linarith
import Mathlib.Tactic.Ring
import TaggedRpc.Power

/-!
# Courses of turns

A *turn* of smooth rotation, in exact arithmetic: every item gains its weight, and the one that
is then highest, the first of equals, pays the total of the weights (`Turn`). A *course* is an
endless row of turns among the same items. On it the score of an item is what it had at the start
and what it has gained, less the total for every time that it came up (`Course.score_add`).

The total of the weights is also the number of turns in a *cycle*. Over a cycle every item comes up
as often as its weight says exactly if the scores are the same again (`Course.times_eq_iff`), and
then all that follows repeats (`Course.score_add_cycle`).

* A course from scores of zero is of that kind (`Course.score_cycle_of_zero`), and on the way no
  item is ahead of its share (`Course.times_mul_lt`): the scores add up to zero, so whoever comes up
  had a positive score before it paid.
* A course from any scores settles: after finitely many turns it is of that kind
  (`Course.exists_settled`). Take the least score μ that ever wins. Once it has won, no score is
  above μ, and from then on a cycle gives every item its weight, unless it ends in a tie at μ or
  lifts an item that was more than the total below. Both happen finitely often, as the gaps below μ
  even out, and ties go to the item that comes first.
-/

namespace TaggedRpc.Selection.Smooth

variable {α : Type} [DecidableEq α] {items : Finset α} {rank : α → Nat} {weight : α → Int}

/-! ## Turns -/

/-- The total of the weights. -/
def weightSum (items : Finset α) (weight : α → Int) : Int := ∑ a ∈ items, weight a

/-- One turn, on which an item comes up. -/
structure Turn (items : Finset α) (rank : α → Nat) (weight score : α → Int) (top : α)
    (score' : α → Int) : Prop where
  mem : top ∈ items
  highest : ∀ a ∈ items, score a + weight a ≤ score top + weight top
  first : ∀ a ∈ items, score a + weight a = score top + weight top → rank top ≤ rank a
  score_eq : ∀ a ∈ items,
    score' a = score a + weight a - if a = top then weightSum items weight else 0

namespace Turn

variable {score score' : α → Int} {top : α}

/-- A turn takes away what it gives. -/
theorem sum_score (h : Turn items rank weight score top score') :
    ∑ a ∈ items, score' a = ∑ a ∈ items, score a := by
  rw [Finset.sum_congr rfl h.score_eq, Finset.sum_sub_distrib, Finset.sum_add_distrib,
    Finset.sum_ite_eq', if_pos h.mem, weightSum]
  ring

/-- The winning score is not below the average. -/
theorem sum_add_weightSum_le (h : Turn items rank weight score top score') :
    ∑ a ∈ items, score a + weightSum items weight ≤ items.card * (score top + weight top) := by
  rw [weightSum, ← Finset.sum_add_distrib, ← nsmul_eq_mul]
  exact Finset.sum_le_card_nsmul _ _ _ h.highest

/-- The scores decide a turn. -/
theorem unique {scoreB scoreB' : α → Int} {topB : α} (hrank : Set.InjOn rank items)
    (h : Turn items rank weight score top score')
    (hB : Turn items rank weight scoreB topB scoreB') (heq : ∀ a ∈ items, score a = scoreB a) :
    top = topB ∧ ∀ a ∈ items, score' a = scoreB' a := by
  have hle := h.highest topB hB.mem
  have hleB := hB.highest top h.mem
  rw [← heq top h.mem, ← heq topB hB.mem] at hleB
  have htie := le_antisymm hle hleB
  have hfirst := h.first topB hB.mem htie
  have hfirstB := hB.first top h.mem (by rw [← heq top h.mem, ← heq topB hB.mem, htie])
  have htop : top = topB := hrank h.mem hB.mem (le_antisymm hfirst hfirstB)
  refine ⟨htop, fun a ha => ?_⟩
  rw [h.score_eq a ha, hB.score_eq a ha, heq a ha, htop]

end Turn

/-! ## Courses -/

/-- How often an item comes up on some turns, from a turn on. -/
def times (top : Nat → α) (start turns : Nat) (a : α) : Nat :=
  ((List.range' start turns).map top).count a

theorem times_succ (top : Nat → α) (start turns : Nat) (a : α) :
    times top start (turns + 1) a =
      times top start turns a + if a = top (start + turns) then 1 else 0 := by
  rw [times, List.range'_concat, List.map_append, List.count_append, one_mul, List.map_singleton,
    List.count_singleton]
  exact congrArg (_ + ·) (if_congr (by rw [beq_iff_eq, eq_comm]) rfl rfl)

/-- An endless row of turns. -/
structure Course (items : Finset α) (rank : α → Nat) (weight : α → Int) (top : Nat → α)
    (score : Nat → α → Int) : Prop where
  weight_pos : ∀ a ∈ items, 0 < weight a
  rank_inj : Set.InjOn rank items
  turn : ∀ k, Turn items rank weight (score k) (top k) (score (k + 1))

namespace Course

variable {top : Nat → α} {score : Nat → α → Int}

theorem weightSum_pos (h : Course items rank weight top score) : 0 < weightSum items weight :=
  Finset.sum_pos h.weight_pos ⟨top 0, (h.turn 0).mem⟩

/-- The number of turns in a cycle. -/
def cycle (items : Finset α) (weight : α → Int) : Nat := (weightSum items weight).toNat

theorem cast_cycle (h : Course items rank weight top score) :
    (cycle items weight : Int) = weightSum items weight :=
  Int.toNat_of_nonneg h.weightSum_pos.le

/-- What an item has gained, and what it has paid. -/
theorem score_add (h : Course items rank weight top score) (start turns : Nat) :
    ∀ a ∈ items, score (start + turns) a =
      score start a + turns * weight a - weightSum items weight * times top start turns a := by
  intro a ha
  induction turns with
  | zero => simp [times]
  | succ turns ih =>
    rw [← Nat.add_assoc, (h.turn (start + turns)).score_eq a ha, ih, times_succ]
    push_cast
    split <;> ring

theorem sum_score (h : Course items rank weight top score) (k : Nat) :
    ∑ a ∈ items, score k a = ∑ a ∈ items, score 0 a := by
  induction k with
  | zero => rfl
  | succ k ih => rw [(h.turn k).sum_score, ih]

/-- Somebody comes up on every turn. -/
theorem sum_times (h : Course items rank weight top score) (start turns : Nat) :
    ∑ a ∈ items, (times top start turns a : Int) = turns := by
  induction turns with
  | zero => simp [times]
  | succ turns ih =>
    have hone := Finset.sum_ite_eq' items (top (start + turns)) fun _ => (1 : Int)
    rw [if_pos (h.turn _).mem] at hone
    simp only [times_succ]
    push_cast
    rw [Finset.sum_add_distrib, ih, hone]

/-- From equal scores courses run alike. -/
theorem score_eq_of_eq (h : Course items rank weight top score) {j k : Nat}
    (heq : ∀ a ∈ items, score j a = score k a) (n : Nat) :
    ∀ a ∈ items, score (j + n) a = score (k + n) a := by
  induction n with
  | zero => exact heq
  | succ n ih => exact ((h.turn (j + n)).unique h.rank_inj (h.turn (k + n)) ih).2

/-! ## Cycles -/

/-- Over a cycle every item comes up as often as its weight says exactly if the scores are the same
    again. -/
theorem times_eq_iff (h : Course items rank weight top score) (k : Nat) :
    (∀ a ∈ items, (times top k (cycle items weight) a : Int) = weight a) ↔
      ∀ a ∈ items, score (k + cycle items weight) a = score k a := by
  refine forall₂_congr fun a ha => ?_
  rw [h.score_add k _ a ha, h.cast_cycle]
  have htotal := h.weightSum_pos
  constructor
  · intro heq
    rw [heq]
    ring
  · intro heq
    have hmul : weightSum items weight * times top k (cycle items weight) a =
        weightSum items weight * weight a := by linarith
    exact mul_left_cancel₀ htotal.ne' hmul

/-- Once the scores of a cycle repeat, they keep repeating. -/
theorem score_add_cycle (h : Course items rank weight top score) {k n : Nat} (hkn : k ≤ n)
    (hcycle : ∀ a ∈ items, score (k + cycle items weight) a = score k a) :
    ∀ a ∈ items, score (n + cycle items weight) a = score n a := by
  obtain ⟨m, rfl⟩ := Nat.exists_eq_add_of_le hkn
  have heq := h.score_eq_of_eq hcycle m
  rwa [Nat.add_right_comm] at heq

/-- The score with which an item wins. -/
def win (weight : α → Int) (top : Nat → α) (score : Nat → α → Int) (k : Nat) : Int :=
  score k (top k) + weight (top k)

/-- An item that comes up more often than its weight says has come up that often before, and comes
    up then. -/
theorem exists_turn_of_lt_times {start turns : Nat} {a : α} (hweight : 0 ≤ weight a)
    (hlt : weight a < times top start turns a) :
    ∃ j < turns, top (start + j) = a ∧ (times top start j a : Int) = weight a := by
  induction turns with
  | zero =>
    have hzero : times top start 0 a = 0 := rfl
    omega
  | succ turns ih =>
    by_cases hbefore : weight a < times top start turns a
    · obtain ⟨j, hj, htop⟩ := ih hbefore
      exact ⟨j, hj.trans (Nat.lt_succ_self _), htop⟩
    · rw [times_succ] at hlt
      split at hlt
      · next htop =>
        push_cast at hlt
        exact ⟨turns, Nat.lt_succ_self _, htop.symm, by omega⟩
      · exact absurd (by simpa using hlt) hbefore

/-- What an item wins with when it has had its share of a cycle. -/
theorem win_of_times_eq (h : Course items rank weight top score) {start j : Nat} {a : α}
    (htop : top (start + j) = a) (htimes : (times top start j a : Int) = weight a) :
    win weight top score (start + j) =
      score start a - weight a * (weightSum items weight - 1 - j) := by
  have ha : a ∈ items := htop ▸ (h.turn _).mem
  rw [win, htop, h.score_add start j a ha, htimes]
  ring

/-- If no score reaches what it takes to win, a cycle gives every item its weight. -/
theorem times_eq_of_lt_win (h : Course items rank weight top score) {k : Nat}
    (hlt : ∀ a ∈ items, ∀ n ≥ k, score k a < win weight top score n) :
    ∀ a ∈ items, (times top k (cycle items weight) a : Int) = weight a := by
  have hle : ∀ a ∈ items, (times top k (cycle items weight) a : Int) ≤ weight a := by
    intro a ha
    by_contra hmore
    have hweight := h.weight_pos a ha
    obtain ⟨j, hj, htop, htimes⟩ := exists_turn_of_lt_times hweight.le (not_le.1 hmore)
    have hwin := h.win_of_times_eq htop htimes
    have hcycle := h.cast_cycle
    have hnonneg : 0 ≤ weight a * (weightSum items weight - 1 - j) :=
      mul_nonneg hweight.le (by omega)
    have hscore := hlt a ha (k + j) (Nat.le_add_right _ _)
    omega
  -- Every turn of the cycle is somebody's: nobody has too many, so nobody has too few.
  refine (Finset.sum_eq_sum_iff_of_le hle).1 ?_
  rw [h.sum_times, h.cast_cycle, weightSum]

/-! ## From scores of zero -/

/-- Whoever comes up on a course from scores of zero had a positive score before it paid. -/
theorem win_pos_of_zero (h : Course items rank weight top score)
    (hzero : ∀ a ∈ items, score 0 a = 0) (k : Nat) : 0 < win weight top score k := by
  have hle := (h.turn k).sum_add_weightSum_le
  rw [h.sum_score, Finset.sum_eq_zero hzero, zero_add] at hle
  exact pos_of_mul_pos_right (h.weightSum_pos.trans_le hle) (Nat.cast_nonneg _)

/-- Where all scores are zero at first, they are zero again after a cycle. -/
theorem score_cycle_of_zero (h : Course items rank weight top score)
    (hzero : ∀ a ∈ items, score 0 a = 0) :
    ∀ a ∈ items, score (0 + cycle items weight) a = score 0 a := by
  refine (h.times_eq_iff 0).1 (h.times_eq_of_lt_win fun a ha n _ => ?_)
  rw [hzero a ha]
  exact h.win_pos_of_zero hzero n

/-- No item is ahead of its share of the turns. -/
theorem times_mul_lt (h : Course items rank weight top score)
    (hzero : ∀ a ∈ items, score 0 a = 0) (k : Nat) : ∀ a ∈ items,
    times top 0 k a * weightSum items weight < k * weight a + weightSum items weight := by
  intro a ha
  have hweight := h.weight_pos a ha
  induction k with
  | zero => simpa [times] using h.weightSum_pos
  | succ k ih =>
    rw [times_succ]
    split
    · next htop =>
      have hwin := h.win_pos_of_zero hzero k
      rw [Nat.zero_add] at htop
      have hscore := h.score_add 0 k a ha
      rw [win, ← htop, ← Nat.zero_add k, hscore, hzero a ha] at hwin
      push_cast
      linarith
    · push_cast
      linarith

/-! ## From any scores -/

/-- What adds up to one, of parts that are not negative, is all in one part. -/
theorem exists_eq_ite_of_sum_eq_one {f : α → Int} (hnonneg : ∀ a ∈ items, 0 ≤ f a)
    (hsum : ∑ a ∈ items, f a = 1) : ∃ j ∈ items, ∀ a ∈ items, f a = if a = j then 1 else 0 := by
  obtain ⟨j, hj, hpos⟩ : ∃ j ∈ items, 0 < f j := by
    by_contra hnone
    push Not at hnone
    have hle := Finset.sum_nonpos hnone
    omega
  have hsplit := Finset.add_sum_erase items f hj
  have hrest : ∀ a ∈ items.erase j, 0 ≤ f a := fun a ha => hnonneg a (Finset.mem_of_mem_erase ha)
  have hle := Finset.sum_nonneg hrest
  have hzero := (Finset.sum_eq_zero_iff_of_nonneg hrest).1 (by omega)
  refine ⟨j, hj, fun a ha => ?_⟩
  split
  · next heq =>
    rw [heq]
    omega
  · next hne => exact hzero a (Finset.mem_erase.2 ⟨hne, ha⟩)

/-- From a turn on, no score is less than μ when it wins, and now none is above it. -/
structure Low (items : Finset α) (weight : α → Int) (top : Nat → α) (score : Nat → α → Int)
    (μ : Int) (k : Nat) : Prop where
  score_le : ∀ a ∈ items, score k a ≤ μ
  le_win : ∀ n ≥ k, μ ≤ win weight top score n

/-- Within a cycle from low scores, no item comes up more often than its weight says before the
    last turn. -/
theorem times_le_of_low (h : Course items rank weight top score) {μ : Int} {k : Nat}
    (hlow : Low items weight top score μ k) {turns : Nat}
    (hturns : turns < cycle items weight) :
    ∀ a ∈ items, (times top k turns a : Int) ≤ weight a := by
  intro a ha
  by_contra hmore
  have hweight := h.weight_pos a ha
  obtain ⟨j, hj, htop, htimes⟩ := exists_turn_of_lt_times hweight.le (not_le.1 hmore)
  have hwin := h.win_of_times_eq htop htimes
  have hcycle := h.cast_cycle
  have hpos : 0 < weight a * (weightSum items weight - 1 - j) := mul_pos hweight (by omega)
  have hscore := hlow.score_le a ha
  have hle := hlow.le_win (k + j) (Nat.le_add_right _ _)
  omega

/-- A cycle from low scores gives every item its weight, or else it moves as much as the total from
    an item with the score μ to one that is far below, or as far below and behind it. -/
theorem score_cycle_of_low (h : Course items rank weight top score) {μ : Int} {k : Nat}
    (hlow : Low items weight top score μ k) :
    (∀ a ∈ items, score (k + cycle items weight) a = score k a) ∨
    ∃ i ∈ items, ∃ j ∈ items, i ≠ j ∧ score k i = μ ∧ score k j + weightSum items weight ≤ μ ∧
      (score k j + weightSum items weight = μ → rank i < rank j) ∧
      ∀ a ∈ items, score (k + cycle items weight) a = score k a +
        (if a = j then weightSum items weight else 0) -
          if a = i then weightSum items weight else 0 := by
  have htotal := h.weightSum_pos
  have hcycle := h.cast_cycle
  obtain ⟨turns, hturns⟩ : ∃ turns, cycle items weight = turns + 1 :=
    Nat.exists_eq_succ_of_ne_zero (by omega)
  have hlast : turns < cycle items weight := by omega
  have hle := h.times_le_of_low hlow hlast
  -- One turn before the end of the cycle, one item is short of its weight by one.
  have hshort : ∑ a ∈ items, (weight a - times top k turns a) = 1 := by
    rw [Finset.sum_sub_distrib, h.sum_times, ← weightSum]
    omega
  obtain ⟨j, hj, hmissing⟩ :=
    exists_eq_ite_of_sum_eq_one (fun a ha => sub_nonneg.2 (hle a ha)) hshort
  have hgained : ∀ a ∈ items, score (k + turns) a + weight a =
      score k a + if a = j then weightSum items weight else 0 := by
    intro a ha
    have hcount : (times top k turns a : Int) = weight a - if a = j then 1 else 0 := by
      have hmiss := hmissing a ha
      omega
    have hturnscast : (turns : Int) = weightSum items weight - 1 := by omega
    rw [h.score_add k turns a ha, hcount, hturnscast]
    split <;> ring
  have hturn := h.turn (k + turns)
  have hscore : ∀ a ∈ items, score (k + cycle items weight) a = score k a +
      (if a = j then weightSum items weight else 0) -
        if a = top (k + turns) then weightSum items weight else 0 := by
    intro a ha
    rw [hturns, ← Nat.add_assoc, hturn.score_eq a ha, hgained a ha]
  by_cases htop : top (k + turns) = j
  · refine .inl fun a ha => ?_
    rw [hscore a ha, htop]
    ring
  · have hmem := hturn.mem
    have hwin := hlow.le_win (k + turns) (Nat.le_add_right _ _)
    rw [win, hgained _ hmem, if_neg htop, add_zero] at hwin
    have hμ := le_antisymm (hlow.score_le _ hmem) hwin
    have hhigh := hturn.highest j hj
    have hfirst := hturn.first j hj
    rw [hgained j hj, hgained _ hmem, if_pos rfl, if_neg htop, add_zero, hμ] at hhigh hfirst
    refine .inr ⟨_, hmem, j, hj, htop, hμ, hhigh, fun htie => ?_, hscore⟩
    exact lt_of_le_of_ne (hfirst htie) fun heq => htop (h.rank_inj hmem hj heq)

/-- More than every rank. -/
def beyond (items : Finset α) (rank : α → Nat) : Int := 1 + ∑ a ∈ items, (rank a : Int)

omit [DecidableEq α] in
theorem beyond_pos : 0 < beyond items rank := by
  have hsum : 0 ≤ ∑ a ∈ items, (rank a : Int) := Finset.sum_nonneg fun _ _ => Nat.cast_nonneg _
  rw [beyond]
  omega

omit [DecidableEq α] in
theorem rank_lt_beyond {a : α} (ha : a ∈ items) : (rank a : Int) < beyond items rank := by
  have hnonneg : ∀ b ∈ items, (0 : Int) ≤ rank b := fun _ _ => Nat.cast_nonneg _
  have hle := Finset.single_le_sum hnonneg ha
  rw [beyond]
  omega

/-- How uneven the gaps below μ are and, which counts for less, how far back. -/
def unrest (items : Finset α) (rank : α → Nat) (μ : Int) (score : α → Int) : Int :=
  ∑ a ∈ items, (beyond items rank * (μ - score a) ^ 2 + (μ - score a) * rank a)

omit [DecidableEq α] in
theorem unrest_nonneg {μ : Int} {x : α → Int} (hle : ∀ a ∈ items, x a ≤ μ) :
    0 ≤ unrest items rank μ x := by
  refine Finset.sum_nonneg fun a ha => add_nonneg ?_ ?_
  · exact mul_nonneg beyond_pos.le (sq_nonneg _)
  · exact mul_nonneg (sub_nonneg.2 (hle a ha)) (Nat.cast_nonneg _)

/-- What it does to the unrest when an item without a gap pays and another gains as much. -/
theorem unrest_eq {μ w : Int} {x x' : α → Int} {i j : α} (hi : i ∈ items) (hj : j ∈ items)
    (hne : i ≠ j) (hxi : x i = μ)
    (hx' : ∀ a ∈ items, x' a = x a + (if a = j then w else 0) - if a = i then w else 0) :
    unrest items rank μ x' = unrest items rank μ x +
      (beyond items rank * (w ^ 2 - 2 * w * (μ - x j)) - w * rank j) +
        (beyond items rank * w ^ 2 + w * rank i) := by
  have hi' := Finset.sum_ite_eq' items i fun _ => beyond items rank * w ^ 2 + w * rank i
  have hj' := Finset.sum_ite_eq' items j fun _ =>
    beyond items rank * (w ^ 2 - 2 * w * (μ - x j)) - w * rank j
  rw [if_pos hi] at hi'
  rw [if_pos hj] at hj'
  rw [← hi', ← hj', unrest, unrest, ← Finset.sum_add_distrib, ← Finset.sum_add_distrib]
  refine Finset.sum_congr rfl fun a ha => ?_
  rw [hx' a ha]
  by_cases hai : a = i
  · subst hai
    rw [if_neg hne, if_pos rfl, if_neg hne, if_pos rfl, hxi]
    ring
  · by_cases haj : a = j
    · subst haj
      rw [if_pos rfl, if_neg hai, if_pos rfl, if_neg hai]
      ring
    · rw [if_neg haj, if_neg hai, if_neg haj, if_neg hai]
      ring

/-- A gap that moves to a smaller one, or to an equal one further ahead, leaves less unrest. -/
theorem unrest_lt {μ w : Int} {x x' : α → Int} {i j : α} (hi : i ∈ items) (hj : j ∈ items)
    (hne : i ≠ j) (hw : 0 < w) (hxi : x i = μ) (hxj : x j + w ≤ μ)
    (htie : x j + w = μ → rank i < rank j)
    (hx' : ∀ a ∈ items, x' a = x a + (if a = j then w else 0) - if a = i then w else 0) :
    unrest items rank μ x' < unrest items rank μ x := by
  rw [unrest_eq hi hj hne hxi hx']
  rcases hxj.eq_or_lt with heq | hlt
  · have hahead : w * (rank i : Int) < w * rank j :=
      mul_lt_mul_of_pos_left (by exact_mod_cast htie heq) hw
    have hgap : μ - x j = w := by omega
    rw [hgap]
    linarith
  · have hpos : 0 < beyond items rank * w := mul_pos beyond_pos hw
    have hgap : 0 ≤ beyond items rank * w * (μ - x j - w - 1) := mul_nonneg hpos.le (by omega)
    have hahead : w * (rank i : Int) < w * beyond items rank :=
      mul_lt_mul_of_pos_left (rank_lt_beyond hi) hw
    have hbehind : 0 ≤ w * (rank j : Int) := mul_nonneg hw.le (Nat.cast_nonneg _)
    linarith

/-- A cycle from low scores repeats, or it ends in low scores with less unrest. -/
theorem cycle_of_low (h : Course items rank weight top score) {μ : Int} {k : Nat}
    (hlow : Low items weight top score μ k) :
    (∀ a ∈ items, score (k + cycle items weight) a = score k a) ∨
    (Low items weight top score μ (k + cycle items weight) ∧
      unrest items rank μ (score (k + cycle items weight)) <
        unrest items rank μ (score k)) := by
  refine (h.score_cycle_of_low hlow).imp_right ?_
  rintro ⟨i, hi, j, hj, hne, hxi, hxj, htie, hscore⟩
  refine ⟨⟨fun a ha => ?_, fun n hn => hlow.le_win n (Nat.le_of_add_right_le hn)⟩,
    unrest_lt hi hj hne h.weightSum_pos hxi hxj htie hscore⟩
  have hle := hlow.score_le a ha
  have htotal := h.weightSum_pos
  rw [hscore a ha]
  by_cases haj : a = j
  · subst haj
    rw [if_pos rfl, if_neg hne.symm]
    omega
  · rw [if_neg haj]
    split <;> omega

/-- From low scores, one of finitely many cycles repeats. -/
theorem exists_cycle_of_low (h : Course items rank weight top score) {μ : Int} (k : Nat)
    (hlow : Low items weight top score μ k) :
    ∃ m, ∀ a ∈ items, score (m + cycle items weight) a = score m a := by
  -- By induction on the unrest, which is not negative as long as the scores are low.
  induction hunrest : (unrest items rank μ (score k)).toNat using Nat.strong_induction_on
    generalizing k with
  | h _ ih =>
    rcases h.cycle_of_low hlow with hsame | ⟨hlow', hlt⟩
    · exact ⟨k, hsame⟩
    · have hnonneg : 0 ≤ unrest items rank μ (score (k + cycle items weight)) :=
        unrest_nonneg hlow'.score_le
      exact ih _ (by omega) _ hlow' rfl

/-- Some score is the least that ever wins, and once it has won, no score is above it. -/
theorem exists_low (h : Course items rank weight top score) :
    ∃ μ k, Low items weight top score μ k := by
  -- Winning scores are not below the average, and the scores add up to the same at all times.
  have hbound : ∀ k, min 0 (∑ a ∈ items, score 0 a) ≤ win weight top score k := by
    intro k
    have hle := (h.turn k).sum_add_weightSum_le
    rw [h.sum_score] at hle
    have htotal := h.weightSum_pos
    have hcard : 1 ≤ (items.card : Int) := by
      exact_mod_cast Finset.card_pos.2 ⟨top 0, (h.turn 0).mem⟩
    change _ ≤ (items.card : Int) * win weight top score k at hle
    rcases le_or_gt 0 (win weight top score k) with hnonneg | hneg
    · exact (min_le_left _ _).trans hnonneg
    · have hmul : items.card * win weight top score k ≤ win weight top score k := by
        nlinarith
      exact (min_le_right _ _).trans (by omega)
  obtain ⟨μ, ⟨k, rfl⟩, hleast⟩ := Int.exists_least_of_bdd
    (P := fun z => ∃ k, win weight top score k = z)
    ⟨_, fun z ⟨k, hk⟩ => hk ▸ hbound k⟩ ⟨_, 0, rfl⟩
  refine ⟨_, k + 1, fun a ha => ?_, fun n _ => hleast _ ⟨n, rfl⟩⟩
  have hle := (h.turn k).highest a ha
  have htotal := h.weightSum_pos
  rw [(h.turn k).score_eq a ha, win]
  split <;> omega

/-- Every course settles: after finitely many turns every cycle gives each item its weight. -/
theorem exists_settled (h : Course items rank weight top score) :
    ∃ K, ∀ k ≥ K, ∀ a ∈ items, score (k + cycle items weight) a = score k a := by
  obtain ⟨μ, k, hlow⟩ := h.exists_low
  obtain ⟨K, hcycle⟩ := h.exists_cycle_of_low k hlow
  exact ⟨K, fun k hk => h.score_add_cycle hk hcycle⟩

end Course

end TaggedRpc.Selection.Smooth
