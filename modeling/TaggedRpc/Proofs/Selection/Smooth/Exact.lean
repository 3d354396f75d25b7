import Mathlib.Algebra.BigOperators.Group.List.Basic
import Mathlib.Algebra.Order.BigOperators.Group.List
import TaggedRpc.Proofs.Selection.Smooth.Course
import TaggedRpc.Selection.Smooth

/-!
# Smooth rotation in exact arithmetic

A rotation keeps its weights and scores in words, which wrap around. Where every number that a pick
forms is in the range of words (`Smooth.InRange`), a pick is a turn in exact arithmetic
(`Smooth.exists_turn`). What takes turns is the *view* of a rotation: its items, in their order,
with the weight and the score of each as integers.
-/

namespace TaggedRpc.Selection.Smooth

variable {α : Type} {s : Smooth α} {n : Node α} {ns : List (Node α)} {a : α}

/-- The items of a rotation, in their order. -/
def items (s : Smooth α) : List α := s.nodes.map Node.item

/-- The total of the weights, as an integer. -/
def load (s : Smooth α) : Int := (s.nodes.map fun n => n.weight.toInt).sum

/-- A rotation has every item once, with a positive weight. -/
structure Sound (s : Smooth α) : Prop where
  nodup : s.items.Nodup
  weight_pos : ∀ n ∈ s.nodes, 0 < n.weight.toInt

/-- All scores are zero. -/
def AtRest (s : Smooth α) : Prop := ∀ n ∈ s.nodes, n.score = 0

theorem Sound.load_nonneg (h : s.Sound) : 0 ≤ s.load :=
  List.sum_nonneg (List.forall_mem_map.2 fun n hn => (h.weight_pos n hn).le)

section Map

variable {f : Node α → Node α}

theorem items_map (hitem : ∀ n, (f n).item = n.item) :
    (⟨s.nodes.map f⟩ : Smooth α).items = s.items := by
  rw [items, items, List.map_map]
  exact List.map_congr_left fun n _ => hitem n

theorem Sound.map (h : s.Sound) (hitem : ∀ n, (f n).item = n.item)
    (hpos : ∀ n ∈ s.nodes, 0 < (f n).weight.toInt) : (⟨s.nodes.map f⟩ : Smooth α).Sound where
  nodup := by
    rw [items_map hitem]
    exact h.nodup
  weight_pos := List.forall_mem_map.2 hpos

end Map

/-! ## The range of words -/

/-- An integer is in the range of words of 64 bits. -/
def Fits (z : Int) : Prop := -2 ^ 63 ≤ z ∧ z < 2 ^ 63

instance (z : Int) : Decidable (Fits z) := inferInstanceAs (Decidable (_ ∧ _))

theorem Fits.bmod_eq {z : Int} (h : Fits z) : z.bmod (2 ^ 64) = z := by
  obtain ⟨hle, hlt⟩ := h
  exact Int.bmod_eq_of_le_mul_two (by omega) (by omega)

theorem fits_toInt (x : Int64) : Fits x.toInt := ⟨x.le_toInt, x.toInt_lt⟩

/-- Every number that the next pick forms is in the range of words. -/
structure InRange (s : Smooth α) : Prop where
  /-- The sums on the way to the total of the weights. -/
  sums : ∀ ns, ns <+: s.nodes → Fits (ns.map fun n => n.weight.toInt).sum
  /-- The scores with the weights. -/
  gains : ∀ n ∈ s.nodes, Fits (n.score.toInt + n.weight.toInt)
  /-- The score of the item that is picked, less the total. -/
  payment : ∀ top ∈ s.nodes, (∀ n ∈ s.nodes,
    n.score.toInt + n.weight.toInt ≤ top.score.toInt + top.weight.toInt) →
      Fits (top.score.toInt + top.weight.toInt - s.load)

/-- The total of the weights in words is right modulo the number of words. -/
theorem toInt_total (s : Smooth α) : s.total.toInt = s.load.bmod (2 ^ 64) := by
  suffices ∀ (ns : List (Node α)) (t : Int64), (ns.foldl (fun t n => t + n.weight) t).toInt =
      (t.toInt + (ns.map fun n => n.weight.toInt).sum).bmod (2 ^ 64) by
    rw [total, this, load, Int64.toInt_zero, zero_add]
  intro ns
  induction ns with
  | nil =>
    intro t
    rw [List.map_nil, List.sum_nil, add_zero, (fits_toInt t).bmod_eq]
    rfl
  | cons n ns ih =>
    intro t
    rw [List.foldl_cons, ih, Int64.toInt_add, Int.bmod_add_bmod, List.map_cons, List.sum_cons,
      add_assoc]

theorem InRange.toInt_total (h : s.InRange) : s.total.toInt = s.load := by
  rw [Smooth.toInt_total]
  exact (h.sums _ (List.prefix_refl _)).bmod_eq

/-- A node with what it gains on a pick. -/
def Node.gain (n : Node α) : Node α := { n with score := n.score + n.weight }

theorem InRange.toInt_gain (h : s.InRange) (hn : n ∈ s.nodes) :
    n.gain.score.toInt = n.score.toInt + n.weight.toInt := by
  rw [Node.gain, Int64.toInt_add, (h.gains n hn).bmod_eq]

/-- The highest node stands behind lower ones, and no other is higher. -/
theorem exists_highest_eq (hne : ns ≠ []) : ∃ before top after, ns = before ++ top :: after ∧
    highest ns = some top ∧ (∀ n ∈ before, n.score.toInt < top.score.toInt) ∧
      ∀ n ∈ after, n.score.toInt ≤ top.score.toInt := by
  obtain ⟨best, ns, rfl⟩ := List.exists_cons_of_ne_nil hne
  rw [highest]
  clear hne
  -- By induction on the nodes that come after the best one so far.
  induction ns generalizing best with
  | nil => exact ⟨[], best, [], rfl, rfl, by simp, by simp⟩
  | cons n ns ih =>
    rw [List.foldl_cons]
    split
    · next hlt =>
      rw [Int64.lt_iff_toInt_lt] at hlt
      obtain ⟨before, top, after, hsplit, htop, hbefore, hafter⟩ := ih n
      refine ⟨best :: before, top, after, congrArg (best :: ·) hsplit, htop, ?_, hafter⟩
      refine List.forall_mem_cons.2 ⟨hlt.trans_le ?_, hbefore⟩
      have hmem : n ∈ before ++ top :: after := hsplit ▸ List.mem_cons_self
      rcases List.mem_append.1 hmem with hmem | hmem
      · exact (hbefore n hmem).le
      · rcases List.mem_cons.1 hmem with rfl | hmem
        · exact le_rfl
        · exact hafter n hmem
    · next hge =>
      rw [Int64.lt_iff_toInt_lt, not_lt] at hge
      obtain ⟨before, top, after, hsplit, htop, hbefore, hafter⟩ := ih best
      cases before with
      | nil =>
        obtain ⟨rfl, rfl⟩ := List.cons.inj hsplit
        exact ⟨[], best, n :: ns, rfl, htop, hbefore, List.forall_mem_cons.2 ⟨hge, hafter⟩⟩
      | cons x before =>
        obtain ⟨rfl, rfl⟩ := List.cons.inj hsplit
        have hbest := hbefore best List.mem_cons_self
        refine ⟨best :: n :: before, top, after, rfl, htop, ?_, hafter⟩
        exact List.forall_mem_cons.2 ⟨hbest, List.forall_mem_cons.2 ⟨hge.trans_lt hbest,
          fun m hm => hbefore m (List.mem_cons_of_mem _ hm)⟩⟩

/-! ## The view of a rotation -/

variable [DecidableEq α]

/-- The items of a rotation, without their order. -/
def members (s : Smooth α) : Finset α := s.items.toFinset

/-- The weight of an item. -/
def weightOf (s : Smooth α) (a : α) : Int :=
  ((s.nodes.find? fun n => n.item = a).map fun n => n.weight.toInt).getD 0

/-- The running score of an item. -/
def scoreOf (s : Smooth α) (a : α) : Int :=
  ((s.nodes.find? fun n => n.item = a).map fun n => n.score.toInt).getD 0

theorem weightOf_map {f : Node α → Node α} (hitem : ∀ n, (f n).item = n.item)
    (hweight : ∀ n, (f n).weight = n.weight) (a : α) :
    (⟨s.nodes.map f⟩ : Smooth α).weightOf a = s.weightOf a := by
  have hfind : (s.nodes.map f).find? (fun n => n.item = a) =
      (s.nodes.find? fun n => n.item = a).map f := by
    rw [List.find?_map]
    congr 2
    funext n
    rw [Function.comp_apply, hitem]
  rw [weightOf, weightOf, hfind, Option.map_map]
  congr 2
  funext n
  rw [Function.comp_apply, hweight]

theorem mem_members : a ∈ s.members ↔ ∃ n ∈ s.nodes, n.item = a := by
  rw [members, List.mem_toFinset, items, List.mem_map]

theorem item_mem_members (hn : n ∈ s.nodes) : n.item ∈ s.members := mem_members.2 ⟨n, hn, rfl⟩

namespace Sound

theorem find?_eq (h : s.Sound) (hn : n ∈ s.nodes) :
    (s.nodes.find? fun m => m.item = n.item) = some n := by
  cases hfind : s.nodes.find? fun m => m.item = n.item with
  | none =>
    have hnone := List.find?_eq_none.1 hfind n hn
    exact absurd (decide_eq_true rfl) hnone
  | some m =>
    have hitem : m.item = n.item := by simpa using List.find?_some hfind
    have hmem := List.mem_of_find?_eq_some hfind
    exact congrArg some (List.inj_on_of_nodup_map h.nodup hmem hn hitem)

theorem weightOf_item (h : s.Sound) (hn : n ∈ s.nodes) : s.weightOf n.item = n.weight.toInt := by
  rw [weightOf, h.find?_eq hn]
  rfl

theorem scoreOf_item (h : s.Sound) (hn : n ∈ s.nodes) : s.scoreOf n.item = n.score.toInt := by
  rw [scoreOf, h.find?_eq hn]
  rfl

theorem weightOf_pos (h : s.Sound) : ∀ a ∈ s.members, 0 < s.weightOf a := by
  intro a ha
  obtain ⟨n, hn, rfl⟩ := mem_members.1 ha
  rw [h.weightOf_item hn]
  exact h.weight_pos n hn

theorem load_eq (h : s.Sound) : s.load = weightSum s.members s.weightOf := by
  rw [weightSum, members, List.sum_toFinset _ h.nodup, items, List.map_map, load]
  exact congrArg List.sum (List.map_congr_left fun n hn => (h.weightOf_item hn).symm)

theorem card_members (h : s.Sound) : s.members.card = s.nodes.length := by
  rw [members, List.toFinset_card_of_nodup h.nodup, items, List.length_map]

/-- A rotation can be read off its view. -/
theorem nodes_eq (h : s.Sound) : s.nodes =
    s.items.map fun a => ⟨a, Int64.ofInt (s.weightOf a), Int64.ofInt (s.scoreOf a)⟩ := by
  rw [items, List.map_map]
  refine (List.map_id _).symm.trans (List.map_congr_left fun n hn => ?_)
  rw [Function.comp_apply, h.weightOf_item hn, h.scoreOf_item hn, Int64.ofInt_toInt,
    Int64.ofInt_toInt]
  rfl

/-- The view of a rotation is all there is to it. -/
theorem eq_of_view {s' : Smooth α} (h : s.Sound) (h' : s'.Sound) (hitems : s'.items = s.items)
    (hweight : ∀ a ∈ s.members, s'.weightOf a = s.weightOf a)
    (hscore : ∀ a ∈ s.members, s'.scoreOf a = s.scoreOf a) : s' = s := by
  have hnodes : s'.nodes = s.nodes := by
    rw [h'.nodes_eq, h.nodes_eq, hitems]
    refine List.map_congr_left fun a ha => ?_
    have hmem : a ∈ s.members := List.mem_toFinset.2 ha
    rw [hweight a hmem, hscore a hmem]
  cases s
  cases s'
  exact congrArg Smooth.mk hnodes

/-- What is not before a node is not before its item. -/
theorem idxOf_item_le (h : s.Sound) {top : Node α} {before after : List (Node α)}
    (hnodes : s.nodes = before ++ top :: after) (hn : n ∈ s.nodes) (hnot : n ∉ before) :
    s.items.idxOf top.item ≤ s.items.idxOf n.item := by
  have hnodup := h.nodup
  have hbefore : n.item ∉ before.map Node.item := by
    intro hin
    obtain ⟨m, hm, hitem⟩ := List.mem_map.1 hin
    have hmem : m ∈ s.nodes := hnodes ▸ List.mem_append_left _ hm
    exact hnot (List.inj_on_of_nodup_map h.nodup hmem hn hitem ▸ hm)
  rw [items, hnodes, List.map_append, List.map_cons] at hnodup ⊢
  have htop : top.item ∉ before.map Node.item := fun hin =>
    (List.nodup_append.1 hnodup).2.2 _ hin _ List.mem_cons_self rfl
  rw [List.idxOf_append_of_notMem htop, List.idxOf_cons_self,
    List.idxOf_append_of_notMem hbefore]
  exact Nat.le_add_right _ _

end Sound

theorem AtRest.scoreOf_eq (h : s.AtRest) (hsound : s.Sound) :
    ∀ a ∈ s.members, s.scoreOf a = 0 := by
  intro a ha
  obtain ⟨n, hn, rfl⟩ := mem_members.1 ha
  rw [hsound.scoreOf_item hn, h n hn]
  rfl

/-! ## A pick is a turn -/

/-- A node after a pick. -/
def Node.settle (total : Int64) (top : α) (n : Node α) : Node α :=
  if n.item = top then { n.gain with score := n.gain.score - total } else n.gain

theorem Node.settle_item (total : Int64) (top : α) (n : Node α) :
    (n.settle total top).item = n.item := by
  rw [settle]
  split <;> rfl

theorem Node.settle_weight (total : Int64) (top : α) (n : Node α) :
    (n.settle total top).weight = n.weight := by
  rw [settle]
  split <;> rfl

/-- What a pick does: it takes the highest item, and settles with all. -/
theorem exists_next_eq (hne : s.nodes ≠ []) : ∃ before top after,
    s.nodes = before ++ top :: after ∧
    (∀ n ∈ before, n.gain.score.toInt < top.gain.score.toInt) ∧
    (∀ n ∈ after, n.gain.score.toInt ≤ top.gain.score.toInt) ∧
    s.next = (some top.item, ⟨s.nodes.map (Node.settle s.total top.item)⟩) := by
  have hne' : s.nodes.map Node.gain ≠ [] := by simpa using hne
  obtain ⟨before', top', after', hsplit, htop, hbefore, hafter⟩ := exists_highest_eq hne'
  obtain ⟨before, rest, hnodes, rfl, hrest⟩ := List.map_eq_append_iff.1 hsplit
  obtain ⟨top, after, rfl, rfl, rfl⟩ := List.map_eq_cons_iff.1 hrest
  have hhighest : highest (s.nodes.map fun n => { n with score := n.score + n.weight }) =
      some top.gain := htop
  refine ⟨before, top, after, hnodes, fun n hn => hbefore _ (List.mem_map_of_mem hn),
    fun n hn => hafter _ (List.mem_map_of_mem hn), ?_⟩
  rw [next]
  simp only [hhighest, List.map_map]
  rfl

theorem next_of_nil (h : s.nodes = []) : s.next = (none, s) := by
  rw [next, h]
  rfl

theorem items_next (s : Smooth α) : s.next.2.items = s.items := by
  by_cases hne : s.nodes = []
  · rw [next_of_nil hne]
  · obtain ⟨before, top, after, -, -, -, hnext⟩ := exists_next_eq hne
    rw [hnext]
    exact items_map (Node.settle_item _ _)

theorem Sound.next (h : s.Sound) : s.next.2.Sound := by
  by_cases hne : s.nodes = []
  · rwa [next_of_nil hne]
  · obtain ⟨before, top, after, -, -, -, hnext⟩ := exists_next_eq hne
    rw [hnext]
    refine h.map (Node.settle_item _ _) fun n hn => ?_
    rw [Node.settle_weight]
    exact h.weight_pos n hn

/-- In range, a pick is a turn. -/
theorem exists_turn (hsound : s.Sound) (hrange : s.InRange) (hne : s.nodes ≠ []) :
    ∃ top, s.next.1 = some top ∧ (∀ a, s.next.2.weightOf a = s.weightOf a) ∧
      Turn s.members s.items.idxOf s.weightOf s.scoreOf top s.next.2.scoreOf := by
  have hsound' := hsound.next
  obtain ⟨before, top, after, hnodes, hbefore, hafter, hnext⟩ := exists_next_eq hne
  rw [hnext] at hsound' ⊢
  have hmem : top ∈ s.nodes := by simp [hnodes]
  have hgain : ∀ n ∈ s.nodes, s.scoreOf n.item + s.weightOf n.item = n.gain.score.toInt := by
    intro n hn
    rw [hsound.scoreOf_item hn, hsound.weightOf_item hn, hrange.toInt_gain hn]
  have hle : ∀ n ∈ s.nodes, n.gain.score.toInt ≤ top.gain.score.toInt := by
    intro n hn
    rw [hnodes] at hn
    rcases List.mem_append.1 hn with hn | hn
    · exact (hbefore n hn).le
    · rcases List.mem_cons.1 hn with rfl | hn
      · exact le_rfl
      · exact hafter n hn
  refine ⟨top.item, rfl, weightOf_map (Node.settle_item _ _) (Node.settle_weight _ _), ?_⟩
  constructor
  case mem => exact item_mem_members hmem
  case highest =>
    intro a ha
    obtain ⟨n, hn, rfl⟩ := mem_members.1 ha
    rw [hgain n hn, hgain top hmem]
    exact hle n hn
  case first =>
    intro a ha heq
    obtain ⟨n, hn, rfl⟩ := mem_members.1 ha
    rw [hgain n hn, hgain top hmem] at heq
    -- Whoever is before the top is lower, so equals come after it.
    exact hsound.idxOf_item_le hnodes hn fun hin => (hbefore n hin).ne heq
  case score_eq =>
    intro a ha
    obtain ⟨n, hn, rfl⟩ := mem_members.1 ha
    have hscore := hsound'.scoreOf_item (List.mem_map_of_mem (f := Node.settle s.total top.item) hn)
    rw [Node.settle_item] at hscore
    rw [hscore, hgain n hn, Node.settle]
    split
    · next heq =>
      obtain rfl : n = top := List.inj_on_of_nodup_map hsound.nodup hn hmem heq
      have hfits := hrange.payment n hn fun m hm => by
        rw [← hrange.toInt_gain hm, ← hrange.toInt_gain hn]
        exact hle m hm
      rw [← hrange.toInt_gain hn] at hfits
      dsimp only
      rw [Int64.toInt_sub, hrange.toInt_total, hfits.bmod_eq, hsound.load_eq]
    · exact (sub_zero _).symm

end TaggedRpc.Selection.Smooth
