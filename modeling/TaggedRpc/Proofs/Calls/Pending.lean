import TaggedRpc.Calls.Pending

/-!
# Slots under ids

A table of waiting calls is a map from ids to waiters (`Pending.waiter?`): an
operation on one id changes what is under it, and nothing under the others.
-/

namespace TaggedRpc.Pending

variable {p : Pending} {id other : Int32} {w : Waiter}

theorem contains_eq (p : Pending) (id : Int32) : p.contains id = (p.waiter? id).isSome := by
  rw [contains, waiter?, Bool.eq_iff_iff, List.lookup_isSome_iff, List.any_eq_true]
  simp only [beq_iff_eq, eq_comm (a := id)]

@[simp] theorem waiter?_erase_self : (p.erase id).waiter? id = none := by
  rw [waiter?, List.lookup_eq_none_iff]
  intro s hs
  rw [erase, List.mem_filter, bne_iff_ne] at hs
  exact bne_iff_ne.2 hs.2.symm

theorem waiter?_erase_of_ne (h : other ≠ id) : (p.erase id).waiter? other = p.waiter? other := by
  obtain ⟨slots⟩ := p
  rw [waiter?, waiter?, erase]
  induction slots with
  | nil => rfl
  | cons s slots ih =>
    obtain ⟨i, w⟩ := s
    by_cases hi : i = id
    · -- The slot that goes is not under the other id.
      have hother : (other == i) = false := by simpa [hi] using h
      rw [List.filter_cons_of_neg (by simpa using hi), ih, List.lookup_cons, hother]
    · rw [List.filter_cons_of_pos (by simpa using hi), List.lookup_cons, List.lookup_cons, ih]

/-- Nothing changes where there is no slot. -/
theorem erase_of_waiter?_eq_none (h : p.waiter? id = none) : p.erase id = p := by
  rw [waiter?, List.lookup_eq_none_iff] at h
  obtain ⟨slots⟩ := p
  refine congrArg Pending.mk (List.filter_eq_self.2 fun s hs => ?_)
  exact bne_iff_ne.2 (bne_iff_ne.1 (h s hs)).symm

/-- A cancellation gives the waiter under the id, and leaves nothing there. -/
theorem cancel_eq (p : Pending) (id : Int32) : p.cancel id = (p.waiter? id, p.erase id) := by
  rw [cancel]
  cases h : p.waiter? id with
  | some w => rfl
  | none => rw [erase_of_waiter?_eq_none h]

theorem deliver_eq (p : Pending) (r : Response) :
    p.deliver r = (p.waiter? r.requestId, p.erase r.requestId) :=
  p.cancel_eq r.requestId

@[simp] theorem waiter?_register_self : (p.register id w).waiter? id = some w := by
  have hnone : (p.erase id).slots.lookup id = none := waiter?_erase_self
  rw [waiter?, register, List.lookup_append, hnone, Option.none_or, List.lookup_cons_self]

theorem waiter?_register_of_ne (h : other ≠ id) :
    (p.register id w).waiter? other = p.waiter? other := by
  have herase : (p.erase id).slots.lookup other = p.waiter? other := waiter?_erase_of_ne h
  have hother : (other == id) = false := by simpa using h
  rw [waiter?, register, List.lookup_append, herase, List.lookup_cons, hother, List.lookup_nil,
    Option.or_none]

/-- The slots that are left when some ids have been erased. -/
theorem slots_foldl_erase (p : Pending) (ids : List Int32) :
    (ids.foldl erase p).slots = p.slots.filter fun s => s.1 ∉ ids := by
  induction ids generalizing p with
  | nil =>
    refine (List.filter_eq_self.2 fun s _ => ?_).symm
    simp
  | cons id ids ih =>
    rw [List.foldl_cons, ih, erase, List.filter_filter]
    refine List.filter_congr fun s _ => ?_
    rw [Bool.eq_iff_iff]
    simp [and_comm]

/-- Nothing is left when all ids in use have been erased. -/
theorem foldl_erase_ids (p : Pending) : p.ids.foldl erase p = ⟨[]⟩ := by
  refine congrArg mk ((p.slots_foldl_erase p.ids).trans (List.filter_eq_nil_iff.2 fun s hs => ?_))
  have hid : s.1 ∈ p.ids := List.mem_map_of_mem hs
  simpa using hid

end TaggedRpc.Pending
