import Mathlib.Algebra.Order.BigOperators.Ring.Finset
import TaggedRpc.Proofs.Selection.Smooth.History

/-!
# How far scores run

Where scores start from zero, the scores of no items together are far from zero: for k of n items,
twice their sum is within k (n - k) times the total of the weights (`Smooth.Balanced`). A turn keeps
this. Of items that lose, the one that pays has the highest score, so it is not below the average of
those outside; of items that gain, none is above the one that pays. And since the bound is one for
*every* set of items, it outlives the removal of any of them, which leaves scores that do not add up
to zero any more.

So if n items are opened with a total of W, and (n + 1) W is less than 2⁶⁴, no number that a later
pick forms leaves the range of words, whatever is picked and removed in any order
(`Smooth.inRange_run`). One item needs no condition: its weight is a word. But nothing keeps items
from being added whose weights add up to more than a word holds, and then the total itself wraps
around (`Smooth.not_forall_inRange_run`).
-/

namespace TaggedRpc.Selection.Smooth

variable {α : Type} {items : Finset α} {rank : α → Nat} {weight score score' : α → Int} {top : α}
  {width : Nat} {bound : Int}

/-! ## Balance -/

/-- The scores of no items together are far from zero. -/
def Balanced (width : Nat) (bound : Int) (items : Finset α) (score : α → Int) : Prop :=
  ∀ A ⊆ items, |2 * ∑ a ∈ A, score a| ≤ A.card * (width - A.card) * bound

theorem balanced_of_zero (hcard : items.card ≤ width) (hbound : 0 ≤ bound)
    (hzero : ∀ a ∈ items, score a = 0) : Balanced width bound items score := by
  intro A hA
  have hle := (Finset.card_le_card hA).trans hcard
  rw [Finset.sum_eq_zero fun a ha => hzero a (hA ha), mul_zero, abs_zero]
  exact mul_nonneg (mul_nonneg (Nat.cast_nonneg _) (by omega)) hbound

theorem Balanced.subset {fewer : Finset α} (h : Balanced width bound items score)
    (hsubset : fewer ⊆ items) : Balanced width bound fewer score :=
  fun A hA => h A (hA.trans hsubset)

theorem Balanced.congr (h : Balanced width bound items score)
    (heq : ∀ a ∈ items, score' a = score a) : Balanced width bound items score' := by
  intro A hA
  rw [Finset.sum_congr rfl fun a ha => heq a (hA ha)]
  exact h A hA

theorem sum_weight_le {A : Finset α} (hweight : ∀ a ∈ items, 0 ≤ weight a) (hA : A ⊆ items) :
    ∑ a ∈ A, weight a ≤ weightSum items weight :=
  Finset.sum_le_sum_of_subset_of_nonneg hA fun a ha _ => hweight a ha

variable {s s' start : Smooth α} {n : Node α} {ops : List (Op α)}

/-- The weights leave room for the scores. -/
def Moderate (s : Smooth α) : Prop := (s.nodes.length + 1) * s.load < 2 ^ 64

instance (s : Smooth α) : Decidable s.Moderate := inferInstanceAs (Decidable (_ < _))

theorem Moderate.two_mul_load_lt (h : s.Moderate) (hsound : s.Sound) : 2 * s.load < 2 ^ 64 := by
  by_cases hne : s.nodes = []
  · rw [load, hne, List.map_nil, List.sum_nil]
    decide
  · have hlength : (1 : Int) ≤ s.nodes.length := by
      exact_mod_cast List.length_pos_iff.2 hne
    refine lt_of_le_of_lt ?_ h
    exact mul_le_mul_of_nonneg_right (by omega) hsound.load_nonneg

theorem moderate_of_length_mul_load_lt (hsound : s.Sound) (hne : s.nodes ≠ [])
    (h : s.nodes.length * s.load < 2 ^ 63) : s.Moderate := by
  have hlength : (1 : Int) ≤ s.nodes.length := by
    exact_mod_cast List.length_pos_iff.2 hne
  have hmul := mul_le_mul_of_nonneg_right hlength hsound.load_nonneg
  rw [Moderate]
  linarith

variable [DecidableEq α]

namespace Turn

/-- What items have together after a turn. -/
theorem sum_score_of_subset (h : Turn items rank weight score top score') {A : Finset α}
    (hA : A ⊆ items) : ∑ a ∈ A, score' a =
      ∑ a ∈ A, score a + ∑ a ∈ A, weight a - if top ∈ A then weightSum items weight else 0 := by
  rw [Finset.sum_congr rfl fun a ha => h.score_eq a (hA ha), Finset.sum_sub_distrib,
    Finset.sum_add_distrib, Finset.sum_ite_eq']

/-- Items without the one that pays: none of them is above it. -/
theorem le_of_notMem (h : Turn items rank weight score top score')
    (hbalanced : Balanced width bound items score) (hweight : ∀ a ∈ items, 0 ≤ weight a)
    (hbound : weightSum items weight ≤ bound) {A : Finset α} (hA : A ⊆ items) (htop : top ∉ A) :
    2 * ∑ a ∈ A, score' a ≤ A.card * (width - A.card) * bound := by
  have hinsert : insert top A ⊆ items := Finset.insert_subset h.mem hA
  have hnonneg : 0 ≤ bound := (Finset.sum_nonneg hweight).trans hbound
  have hsum := h.sum_score_of_subset hA
  rw [if_neg htop, sub_zero] at hsum
  have habove := Finset.sum_le_card_nsmul A _ _ fun a ha => h.highest a (hA ha)
  rw [Finset.sum_add_distrib, ← hsum, nsmul_eq_mul] at habove
  have hscores := (abs_le.1 (hbalanced _ hinsert)).2
  have hweights := (sum_weight_le hweight hinsert).trans hbound
  rw [Finset.sum_insert htop, Finset.card_insert_of_notMem htop] at hscores
  rw [Finset.sum_insert htop] at hweights
  push_cast at hscores
  -- With the one that pays, the items have k + 1 parts of which it has the greatest.
  have htogether : 2 * (∑ a ∈ A, score' a + (score top + weight top)) ≤
      (A.card + 1) * (width - (A.card + 1)) * bound + 2 * bound := by linarith
  have hcard : 0 ≤ (A.card : Int) := Nat.cast_nonneg _
  have htimes := mul_le_mul_of_nonneg_left htogether hcard
  have hsquare : 0 ≤ ((A.card : Int) ^ 2 - A.card) * bound :=
    mul_nonneg (sub_nonneg.2 (Int.le_self_sq _)) hnonneg
  refine le_of_mul_le_mul_left ?_ (show (0 : Int) < A.card + 1 by omega)
  linarith

/-- Items with the one that pays: it is not below the average of the others. -/
theorem le_of_mem (h : Turn items rank weight score top score')
    (hbalanced : Balanced width bound items score) (hweight : ∀ a ∈ items, 0 ≤ weight a)
    (hbound : weightSum items weight ≤ bound) {A : Finset α} (hA : A ⊆ items) (htop : top ∈ A) :
    -(A.card * (width - A.card) * bound) ≤ 2 * ∑ a ∈ A, score' a := by
  have hrest : A.erase top ⊆ items := (Finset.erase_subset _ _).trans hA
  have hnonneg : 0 ≤ bound := (Finset.sum_nonneg hweight).trans hbound
  obtain ⟨outside, houtside⟩ := Nat.exists_eq_add_of_le (Finset.card_le_card hA)
  have hcard : (A.erase top).card + 1 = A.card := Finset.card_erase_add_one htop
  have hcardrest : ((A.erase top).card : Int) = A.card - 1 := by omega
  have hcardout : (items \ A.erase top).card = outside + 1 := by
    rw [Finset.card_sdiff_of_subset hrest]
    omega
  have hsum := h.sum_score_of_subset hA
  rw [if_pos htop, ← Finset.add_sum_erase A score htop, ← Finset.add_sum_erase A weight htop]
    at hsum
  -- The one that pays is the highest of those that are not among the rest.
  have hall := Finset.sum_sdiff (f := fun a => score a + weight a) hrest
  have habove := Finset.sum_le_card_nsmul (items \ A.erase top) _ _ fun a ha =>
    h.highest a (Finset.mem_sdiff.1 ha).1
  rw [nsmul_eq_mul, hcardout] at habove
  simp only [Finset.sum_add_distrib] at hall habove
  push_cast at habove
  have hscores := (abs_le.1 (hbalanced items subset_rfl)).1
  have hscoresrest := (abs_le.1 (hbalanced _ hrest)).1
  have hweightsrest : 0 ≤ ∑ a ∈ A.erase top, weight a :=
    Finset.sum_nonneg fun a ha => hweight a (hrest ha)
  rw [houtside] at hscores
  rw [hcardrest] at hscoresrest
  push_cast at hscores
  rw [weightSum] at hsum hbound
  have houtnonneg : 0 ≤ (outside : Int) := Nat.cast_nonneg _
  have htimesrest := mul_le_mul_of_nonneg_left hscoresrest houtnonneg
  have htimesweights := mul_nonneg houtnonneg hweightsrest
  have htimesbound := mul_le_mul_of_nonneg_left hbound houtnonneg
  have hsquare : 0 ≤ ((outside : Int) ^ 2 - outside) * bound :=
    mul_nonneg (sub_nonneg.2 (Int.le_self_sq _)) hnonneg
  refine le_of_mul_le_mul_left ?_ (show (0 : Int) < outside + 1 by omega)
  rw [hsum]
  linarith

/-- A turn keeps the balance. -/
theorem balanced (h : Turn items rank weight score top score')
    (hbalanced : Balanced width bound items score) (hweight : ∀ a ∈ items, 0 ≤ weight a)
    (hbound : weightSum items weight ≤ bound) : Balanced width bound items score' := by
  intro A hA
  have hbefore := abs_le.1 (hbalanced A hA)
  have hsum := h.sum_score_of_subset hA
  have hle := sum_weight_le hweight hA
  have hnonneg : 0 ≤ ∑ a ∈ A, weight a := Finset.sum_nonneg fun a ha => hweight a (hA ha)
  by_cases htop : top ∈ A
  · rw [if_pos htop] at hsum
    exact abs_le.2 ⟨h.le_of_mem hbalanced hweight hbound hA htop, by linarith⟩
  · rw [if_neg htop] at hsum
    exact abs_le.2 ⟨by linarith, h.le_of_notMem hbalanced hweight hbound hA htop⟩

end Turn

/-! ## What picks and removals leave -/

/-- A rotation has items of an earlier one, with their weights, and scores that are balanced by the
    measure of the earlier one. -/
structure Within (start s : Smooth α) : Prop where
  sublist : s.items.Sublist start.items
  weight : ∀ a ∈ s.members, s.weightOf a = start.weightOf a
  balanced : Balanced start.nodes.length start.load s.members s.scoreOf

theorem AtRest.within (h : s.AtRest) (hsound : s.Sound) : Within s s :=
  ⟨.refl _, fun _ _ => rfl,
    balanced_of_zero hsound.card_members.le hsound.load_nonneg (h.scoreOf_eq hsound)⟩

namespace Within

theorem members_subset (h : Within start s) : s.members ⊆ start.members := fun _ ha =>
  List.mem_toFinset.2 (h.sublist.subset (List.mem_toFinset.1 ha))

theorem weightSum_le (h : Within start s) (hsound : start.Sound) :
    weightSum s.members s.weightOf ≤ start.load := by
  rw [hsound.load_eq, weightSum, Finset.sum_congr rfl h.weight]
  exact sum_weight_le (fun a ha => (hsound.weightOf_pos a ha).le) h.members_subset

/-- A turn of a rotation stays within the earlier one. -/
theorem turn (h : Within start s) (hstart : start.Sound) (hsound : s.Sound)
    (hitems : s'.items = s.items) (hweight : ∀ a, s'.weightOf a = s.weightOf a)
    (hturn : Turn s.members rank s.weightOf s.scoreOf top s'.scoreOf) : Within start s' := by
  have hmembers : s'.members = s.members := congrArg List.toFinset hitems
  refine ⟨hitems ▸ h.sublist, fun a ha => ?_, ?_⟩
  · rw [hweight]
    exact h.weight a (hmembers ▸ ha)
  · rw [hmembers]
    exact hturn.balanced h.balanced (fun a ha => (hsound.weightOf_pos a ha).le)
      (h.weightSum_le hstart)

/-- How far one score is from zero. -/
theorem abs_score_le (h : Within start s) (hsound : s.Sound) (hn : n ∈ s.nodes) :
    |2 * n.score.toInt| ≤ (start.nodes.length - 1) * start.load := by
  have hle := h.balanced {n.item} (Finset.singleton_subset_iff.2 (item_mem_members hn))
  rw [Finset.sum_singleton, hsound.scoreOf_item hn, Finset.card_singleton, Nat.cast_one,
    one_mul] at hle
  exact hle

/-- The score that an item is left with if it is picked. -/
theorem abs_payment_le (h : Within start s) (hstart : start.Sound) (hsound : s.Sound)
    (hn : n ∈ s.nodes) (hhighest : ∀ m ∈ s.nodes,
      m.score.toInt + m.weight.toInt ≤ n.score.toInt + n.weight.toInt) :
    |2 * (n.score.toInt + n.weight.toInt - s.load)| ≤
      (start.nodes.length - 1) * start.load := by
  have hmem := item_mem_members hn
  -- Which of equals it is does not matter here.
  have hturn : Turn s.members (fun _ => 0) s.weightOf s.scoreOf n.item fun a =>
      s.scoreOf a + s.weightOf a -
        if a = n.item then weightSum s.members s.weightOf else 0 := by
    refine ⟨hmem, fun a ha => ?_, fun _ _ _ => le_rfl, fun _ _ => rfl⟩
    obtain ⟨m, hm, rfl⟩ := mem_members.1 ha
    rw [hsound.scoreOf_item hm, hsound.weightOf_item hm, hsound.scoreOf_item hn,
      hsound.weightOf_item hn]
    exact hhighest m hm
  have hbalanced := hturn.balanced h.balanced (fun a ha => (hsound.weightOf_pos a ha).le)
    (h.weightSum_le hstart)
  have hle := hbalanced {n.item} (Finset.singleton_subset_iff.2 hmem)
  rwa [Finset.sum_singleton, if_pos rfl, ← hsound.load_eq, hsound.scoreOf_item hn,
    hsound.weightOf_item hn, Finset.card_singleton, Nat.cast_one, one_mul] at hle

/-- Within moderate weights, all that a pick forms is in range. -/
theorem inRange (h : Within start s) (hstart : start.Sound) (hsound : s.Sound)
    (hmoderate : start.Moderate) : s.InRange := by
  have hnonneg := hstart.load_nonneg
  have hload : s.load ≤ start.load := hsound.load_eq ▸ h.weightSum_le hstart
  constructor
  case sums =>
    -- Weights are positive, so no sum on the way is above the total.
    rintro ns ⟨rest, hnodes⟩
    have hpos : ∀ n ∈ s.nodes, 0 ≤ n.weight.toInt := fun n hn => (hsound.weight_pos n hn).le
    rw [load, ← hnodes, List.map_append, List.sum_append] at hload
    rw [← hnodes] at hpos
    have hns := List.sum_nonneg
      (List.forall_mem_map.2 fun n hn => hpos n (List.mem_append_left rest hn))
    have hrest := List.sum_nonneg
      (List.forall_mem_map.2 fun n hn => hpos n (List.mem_append_right ns hn))
    have htwo := hmoderate.two_mul_load_lt hstart
    constructor <;> omega
  case gains =>
    intro n hn
    have hscore := abs_le.1 (h.abs_score_le hsound hn)
    have hpos := hsound.weight_pos n hn
    have hweight : n.weight.toInt ≤ s.load :=
      List.single_le_sum (List.forall_mem_map.2 fun n hn => (hsound.weight_pos n hn).le) _
        (List.mem_map_of_mem hn)
    rw [Moderate] at hmoderate
    constructor <;> linarith
  case payment =>
    intro n hn hhighest
    rw [Moderate] at hmoderate
    have hscore := abs_le.1 (h.abs_payment_le hstart hsound hn hhighest)
    constructor <;> linarith

theorem next (h : Within start s) (hstart : start.Sound) (hsound : s.Sound)
    (hmoderate : start.Moderate) : Within start s.next.2 := by
  by_cases hne : s.nodes = []
  · rwa [next_of_nil hne]
  · obtain ⟨top, -, hweight, hturn⟩ :=
      exists_turn hsound (h.inRange hstart hsound hmoderate) hne
    exact h.turn hstart hsound (items_next s) hweight hturn

theorem remove (h : Within start s) (hsound : s.Sound) (item : α) :
    Within start (s.remove item).2 := by
  have hview : ∀ a ∈ (s.remove item).2.members, a ∈ s.members ∧
      (s.remove item).2.weightOf a = s.weightOf a ∧
      (s.remove item).2.scoreOf a = s.scoreOf a := by
    intro a ha
    obtain ⟨n, hn, rfl⟩ := mem_members.1 ha
    have hmem : n ∈ s.nodes := (List.mem_filter.1 hn).1
    rw [(hsound.remove item).weightOf_item hn, hsound.weightOf_item hmem,
      (hsound.remove item).scoreOf_item hn, hsound.scoreOf_item hmem]
    exact ⟨item_mem_members hmem, rfl, rfl⟩
  refine ⟨?_, fun a ha => ?_, ?_⟩
  · rw [items_remove]
    exact List.filter_sublist.trans h.sublist
  · obtain ⟨hmem, hweight, -⟩ := hview a ha
    rw [hweight, h.weight a hmem]
  · exact (h.balanced.subset fun a ha => (hview a ha).1).congr fun a ha => (hview a ha).2.2

end Within

/-- A rotation is within the one that it was opened as. -/
theorem within_opening (ops : List (Op α)) (hmoderate : (opening ops).Moderate) :
    Within (opening ops) (run ops) := by
  -- By induction on the history: an accepted addition opens the rotation anew.
  induction ops using List.reverseRecOn with
  | nil => exact AtRest.within (atRest_opening []) sound_empty
  | append_singleton ops op ih =>
    cases haccepted : op.accepted with
    | true =>
      have hopening := opening_concat_of_accepted ops haccepted
      have hrest := atRest_opening (ops ++ [op])
      rw [hopening] at hrest ⊢
      exact AtRest.within hrest (sound_run _)
    | false =>
      rw [opening_concat_of_not_accepted ops haccepted] at hmoderate ⊢
      have hwithin := ih hmoderate
      rw [run_concat]
      cases op with
      | add item weight =>
        rw [apply, add_of_not_pos _ item (of_decide_eq_false haccepted)]
        exact hwithin
      | remove item => exact hwithin.remove (sound_run ops) item
      | next => exact hwithin.next (sound_opening ops) (sound_run ops) hmoderate

/-- If a rotation is opened with n items and a total of W, and (n + 1) W is less than 2⁶⁴, all that
    a pick forms is in the range of words, whatever has been picked and removed since. If the total
    of the weights is out of range, no pick is in range. -/
theorem inRange_run (ops : List (Op α)) : ((opening ops).Moderate → (run ops).InRange) ∧
    (2 ^ 63 ≤ (run ops).load → ¬(run ops).InRange) := by
  constructor
  · intro hmoderate
    exact (within_opening ops hmoderate).inRange (sound_opening ops) (sound_run ops) hmoderate
  · intro hload hrange
    have hfits := hrange.sums _ (List.prefix_refl _)
    exact absurd hfits.2 (not_lt.2 hload)

/-- Three items, of which the one with the greatest weight is removed in the middle of a cycle. -/
theorem inRange_run_removed :
    let ops : List (Op String) := [.add "a" 1152921504606846976,
      .add "b" 576460752303423488, .add "c" 1, .next, .next, .next, .remove "a", .next]
    (opening ops).Moderate ∧ ((run ops).nodes.map fun n => n.score) = [-2, 4] ∧
      (run ops).InRange := by
  intro ops
  have hmoderate : (opening ops).Moderate := by decide
  exact ⟨hmoderate, by decide, (inRange_run ops).1 hmoderate⟩

/-- Two items with the greatest weight that there is: their total is no word. -/
theorem not_forall_inRange_run : ¬ ∀ ops : List (Op String), (run ops).InRange := by
  intro hrange
  have hfits := (hrange [.add "a" Int64.maxValue, .add "b" Int64.maxValue]).sums _
    (List.prefix_refl _)
  exact absurd hfits (by decide)

/-- They do not take turns. -/
example : ((run [.add "a" Int64.maxValue, .add "b" Int64.maxValue]).picks 4).1 =
    [some "a", some "a", some "b", some "a"] := by
  decide

end TaggedRpc.Selection.Smooth
