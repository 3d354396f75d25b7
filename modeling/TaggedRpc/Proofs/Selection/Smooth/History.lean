import Mathlib.Data.List.DropRight
import TaggedRpc.Proofs.Selection.Smooth.Exact

/-!
# Histories of rotations

A rotation comes about by operations, one after another (`Smooth.run`): items are added or get new
weights, items are removed, and items are picked. Whatever was done, every item is there once and
has a positive weight (`Smooth.sound_run`); this does not depend on the scores.

An addition that is accepted sets all scores to zero. What the scores are later depends on how the
rotation was *opened*: on the rotation right after the last accepted addition (`Smooth.opening`),
from which items are only picked and removed.
-/

namespace TaggedRpc.Selection.Smooth

/-- What can be done to a rotation. -/
inductive Op (α : Type) where
  | add (item : α) (weight : Int64)
  | remove (item : α)
  | next

variable {α : Type} {ops : List (Op α)} {op : Op α}

/-- An operation is an addition that is accepted. -/
def Op.accepted : Op α → Bool
  | .add _ weight => 0 < weight
  | .remove _ => false
  | .next => false

theorem sound_empty : ({} : Smooth α).Sound := ⟨List.nodup_nil, by simp⟩

variable [DecidableEq α] {s : Smooth α} {n : Node α} {item : α} {weight : Int64}

/-- A rotation after an operation. -/
def apply (s : Smooth α) : Op α → Smooth α
  | .add item weight => (s.add item weight).2
  | .remove item => (s.remove item).2
  | .next => s.next.2

/-- The empty rotation after operations, one after another. -/
def run (ops : List (Op α)) : Smooth α := ops.foldl apply {}

/-- The rotation right after the last accepted addition. -/
def opening (ops : List (Op α)) : Smooth α := run (ops.rdropWhile fun op => !op.accepted)

theorem run_concat (ops : List (Op α)) (op : Op α) : run (ops ++ [op]) = (run ops).apply op :=
  List.foldl_concat ..

theorem opening_concat_of_accepted (ops : List (Op α)) (h : op.accepted = true) :
    opening (ops ++ [op]) = run (ops ++ [op]) := by
  rw [opening, List.rdropWhile_concat_neg _ _ _ (by simp [h])]

theorem opening_concat_of_not_accepted (ops : List (Op α)) (h : op.accepted = false) :
    opening (ops ++ [op]) = opening ops := by
  rw [opening, List.rdropWhile_concat_pos _ _ _ (by simp [h])]
  rfl

/-! ## Additions -/

theorem add_of_not_pos (s : Smooth α) (item : α) (h : ¬0 < weight) :
    s.add item weight = (false, s) := by
  rw [add, if_pos (Int64.not_lt.1 h)]

/-- A node after an addition that is accepted. -/
def Node.reset (n : Node α) : Node α := { n with score := 0 }

/-- The node of an item that gets a new weight. -/
def Node.reweigh (item : α) (weight : Int64) (n : Node α) : Node α :=
  if n.item = item then { n with weight } else n

theorem Node.reweigh_item (item : α) (weight : Int64) (n : Node α) :
    (n.reweigh item weight).item = n.item := by
  rw [reweigh]
  split <;> rfl

theorem Node.reweigh_weight_pos (hn : 0 < n.weight.toInt) (h : 0 < weight.toInt) (item : α) :
    0 < (n.reweigh item weight).weight.toInt := by
  rw [reweigh]
  split
  · exact h
  · exact hn

theorem add_of_pos (s : Smooth α) (item : α) (h : 0 < weight) :
    s.add item weight = (true, ⟨(if item ∈ s.items then s.nodes.map (Node.reweigh item weight)
      else s.nodes ++ [⟨item, weight, 0⟩]).map Node.reset⟩) := by
  have hany : (s.nodes.any fun n => n.item = item) = decide (item ∈ s.items) := by
    rw [Bool.eq_iff_iff, List.any_eq_true, decide_eq_true_iff, items, List.mem_map]
    simp only [decide_eq_true_iff]
  rw [add, if_neg (Int64.not_le.2 h)]
  simp only [hany, decide_eq_true_iff]
  rfl

theorem Sound.add (h : s.Sound) (item : α) (weight : Int64) : (s.add item weight).2.Sound := by
  by_cases hpos : 0 < weight
  · have hweight : 0 < weight.toInt := by
      rwa [Int64.lt_iff_toInt_lt] at hpos
    rw [add_of_pos s item hpos]
    split
    · have hnew := h.map (f := Node.reweigh item weight) (Node.reweigh_item _ _) fun n hn =>
        Node.reweigh_weight_pos (h.weight_pos n hn) hweight _
      exact hnew.map (fun _ => rfl) hnew.weight_pos
    · next hnot =>
      have hnew : (⟨s.nodes ++ [⟨item, weight, 0⟩]⟩ : Smooth α).Sound := by
        constructor
        · rw [items, List.map_append]
          exact List.nodup_append.2 ⟨h.nodup, List.nodup_singleton _, by
            rintro a ha b hb rfl
            have heq : a = item := List.mem_singleton.1 hb
            exact hnot (heq ▸ ha)⟩
        · exact List.forall_mem_append.2 ⟨h.weight_pos, by simpa using hweight⟩
      exact hnew.map (fun _ => rfl) hnew.weight_pos
  · rwa [add_of_not_pos s item hpos]

/-- An addition that is accepted leaves all scores at zero. -/
theorem atRest_add (s : Smooth α) (item : α) (h : 0 < weight) :
    (s.add item weight).2.AtRest := by
  rw [add_of_pos s item h]
  exact List.forall_mem_map.2 fun _ _ => rfl

/-! ## Removals -/

theorem items_remove (s : Smooth α) (item : α) :
    (s.remove item).2.items = s.items.filter fun a => !decide (a = item) := by
  rw [items, items, List.filter_map]
  rfl

theorem Sound.remove (h : s.Sound) (item : α) : (s.remove item).2.Sound where
  nodup := by
    rw [items_remove]
    exact h.nodup.filter _
  weight_pos n hn := h.weight_pos n (List.mem_filter.1 hn).1

/-- If no item goes, a removal changes nothing. -/
theorem remove_eq_of_items_eq (h : (s.remove item).2.items = s.items) :
    (s.remove item).2 = s := by
  have hall : ∀ a ∈ s.items, (!decide (a = item)) = true := by
    rw [items_remove] at h
    exact List.filter_eq_self.1 h
  have hnodes : s.nodes.filter (fun n => !decide (n.item = item)) = s.nodes :=
    List.filter_eq_self.2 fun n hn => hall _ (List.mem_map_of_mem hn)
  rw [remove, hnodes]

/-! ## Runs -/

theorem Sound.apply (h : s.Sound) (op : Op α) : (s.apply op).Sound := by
  cases op with
  | add item weight => exact h.add item weight
  | remove item => exact h.remove item
  | next => exact h.next

/-- Whatever is done, every item is there once and has a positive weight. -/
theorem sound_run (ops : List (Op α)) : (run ops).Sound := by
  induction ops using List.reverseRecOn with
  | nil => exact sound_empty
  | append_singleton ops op ih =>
    rw [run_concat]
    exact ih.apply op

theorem sound_opening (ops : List (Op α)) : (opening ops).Sound := sound_run _

/-- A rotation is opened with all scores at zero. -/
theorem atRest_opening (ops : List (Op α)) : (opening ops).AtRest := by
  induction ops using List.reverseRecOn with
  | nil => exact fun n hn => absurd hn List.not_mem_nil
  | append_singleton ops op ih =>
    cases haccepted : op.accepted with
    | false => rwa [opening_concat_of_not_accepted ops haccepted]
    | true =>
      rw [opening_concat_of_accepted ops haccepted, run_concat]
      cases op with
      | add item weight => exact atRest_add _ item (of_decide_eq_true haccepted)
      | remove item => exact absurd haccepted Bool.false_ne_true
      | next => exact absurd haccepted Bool.false_ne_true

/-- Since a rotation was opened, items may have gone, but none has come. -/
theorem items_run_sublist (ops : List (Op α)) :
    (run ops).items.Sublist (opening ops).items := by
  induction ops using List.reverseRecOn with
  | nil => exact .refl _
  | append_singleton ops op ih =>
    cases haccepted : op.accepted with
    | true => rw [opening_concat_of_accepted ops haccepted]
    | false =>
      rw [opening_concat_of_not_accepted ops haccepted, run_concat]
      cases op with
      | add item weight =>
        rw [apply, add_of_not_pos _ item (of_decide_eq_false haccepted)]
        exact ih
      | remove item =>
        rw [apply, items_remove]
        exact List.filter_sublist.trans ih
      | next =>
        rw [apply, items_next]
        exact ih

end TaggedRpc.Selection.Smooth
