import TaggedRpc.Manager.Basic

/-!
# The order of an alive set

The endpoints of a roster stand in the order of their texts, and sorting them by the
checksums of their keys is *stable*: it does not move endpoints of one checksum past
each other (`pair_sublist_of_mergeSort`). So an alive set goes by checksum and then
by text (`Manager.pairwise_eligible`).
-/

namespace TaggedRpc

/-- A stable sort keeps the order of equals. -/
theorem pair_sublist_of_mergeSort {α : Type} {le : α → α → Bool}
    (trans : ∀ a b c, le a b = true → le b c = true → le a c = true)
    (total : ∀ a b, (le a b || le b a) = true) {l : List α} {a b : α}
    (h : [a, b].Sublist (l.mergeSort le)) (hba : le b a = true) : [a, b].Sublist l := by
  have hab : le a b = true := (List.pairwise_mergeSort trans total l).forall_sublist h
  have haa : le a a = true := trans a b a hab hba
  -- The equals of `a` come out of the sort in the order in which they went in.
  let equal := fun x => le a x && le x a
  have hequal : (l.filter equal).Pairwise fun x y => le x y = true := by
    refine List.pairwise_of_forall_mem_list fun x hx y hy => ?_
    simp only [List.mem_filter, equal, Bool.and_eq_true] at hx hy
    exact trans x a y hx.2.2 hy.2.1
  have hsub := (List.sublist_mergeSort trans total hequal List.filter_sublist).filter equal
  simp only [List.filter_filter, Bool.and_self] at hsub
  have hkept := hsub.eq_of_length ((List.mergeSort_perm l le).filter equal).length_eq.symm
  have hpair := h.filter equal
  rw [← hkept, List.filter_cons_of_pos (by simp [equal, haa]),
    List.filter_cons_of_pos (by simp [equal, hab, hba]), List.filter_nil] at hpair
  exact hpair.trans List.filter_sublist

namespace Manager

variable {a b c : Endpoint}

/-- The checksum that an alive set goes by. -/
def checksum (e : Endpoint) : UInt32 := Digest.crc32 (Bytes.ofText e.key)

/-- An endpoint comes before another one in an alive set. -/
def Before (a b : Endpoint) : Prop :=
  checksum a < checksum b ∨ checksum a = checksum b ∧ a.text ≤ b.text

theorem aliveLe_iff : aliveLe a b = true ↔ checksum a ≤ checksum b := decide_eq_true_iff

theorem aliveLe_trans (a b c : Endpoint) (hab : aliveLe a b = true) (hbc : aliveLe b c = true) :
    aliveLe a c = true := by
  rw [aliveLe_iff] at *
  exact UInt32.le_trans hab hbc

theorem aliveLe_total (a b : Endpoint) : (aliveLe a b || aliveLe b a) = true := by
  rw [Bool.or_eq_true, aliveLe_iff, aliveLe_iff]
  exact UInt32.le_total ..

theorem textLe_iff : textLe a b = true ↔ a.text ≤ b.text := decide_eq_true_iff

theorem textLe_trans (a b c : Endpoint) (hab : textLe a b = true) (hbc : textLe b c = true) :
    textLe a c = true := by
  rw [textLe_iff] at *
  exact String.le_trans hab hbc

theorem textLe_total (a b : Endpoint) : (textLe a b || textLe b a) = true := by
  rw [Bool.or_eq_true, textLe_iff, textLe_iff]
  exact String.le_total ..

theorem pairwise_textLe_sorted (r : Roster) :
    (sorted r).active.Pairwise fun a b => textLe a b = true :=
  List.pairwise_mergeSort textLe_trans textLe_total r.active

/-- The endpoints of an alive set go by checksum, and by text where that is the same. -/
theorem pairwise_eligible {m : Manager}
    (h : m.roster.active.Pairwise fun a b => textLe a b = true) : m.eligible.Pairwise Before := by
  refine List.pairwise_of_forall_sublist fun {a b} hab => ?_
  have hle : aliveLe a b = true :=
    (List.pairwise_mergeSort aliveLe_trans aliveLe_total _).forall_sublist hab
  rcases UInt32.lt_or_eq_of_le (aliveLe_iff.1 hle) with hlt | heq
  · exact .inl hlt
  · have hba : aliveLe b a = true := aliveLe_iff.2 (UInt32.le_of_eq heq.symm)
    have hsub := pair_sublist_of_mergeSort aliveLe_trans aliveLe_total hab hba
    exact .inr ⟨heq, textLe_iff.1 (h.forall_sublist (hsub.trans List.filter_sublist))⟩

end Manager

end TaggedRpc
