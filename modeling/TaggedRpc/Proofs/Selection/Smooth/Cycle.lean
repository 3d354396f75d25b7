import TaggedRpc.Proofs.Selection.Smooth.Range

/-!
# Cycles of a rotation

A cycle is as many picks as the weights add up to. It is *fair* if it takes every item as often as
its weight says (`Smooth.Fair`).

* After an accepted addition all scores are zero. Every cycle is fair from then on and leads back,
  so the picks repeat, and of no number of picks an item has more than its share rounded up
  (`Smooth.picks_of_add`).
* A removal leaves the other scores as they are, in the middle of a cycle, and they need not go
  with the weights that are left: the cycles that follow need not be fair
  (`Smooth.not_forall_fair_run`). A cycle is fair if and only if it leads back, and after finitely
  many picks every cycle is (`Smooth.fair_run`).
-/

namespace TaggedRpc.Selection.Smooth

variable {α : Type} [DecidableEq α] {s start : Smooth α} {n : Node α} {ops : List (Op α)}

/-! ## Picks, one after another -/

/-- A rotation after a number of picks. -/
def after (s : Smooth α) (k : Nat) : Smooth α := (s.picks k).2

theorem picks_add (s : Smooth α) (j k : Nat) :
    s.picks (j + k) = ((s.picks j).1 ++ ((s.after j).picks k).1, (s.after j).after k) := by
  induction j generalizing s with
  | zero =>
    rw [Nat.zero_add]
    rfl
  | succ j ih =>
    rw [Nat.add_right_comm]
    change (s.next.1 :: (s.next.2.picks (j + k)).1, (s.next.2.picks (j + k)).2) = _
    rw [ih]
    rfl

theorem after_add (s : Smooth α) (j k : Nat) : s.after (j + k) = (s.after j).after k := by
  rw [after, picks_add]

theorem after_succ (s : Smooth α) (k : Nat) : s.after (k + 1) = (s.after k).next.2 :=
  after_add s k 1

theorem picks_succ (s : Smooth α) (k : Nat) :
    (s.picks (k + 1)).1 = (s.picks k).1 ++ [(s.after k).next.1] := by
  rw [picks_add]
  rfl

theorem items_after (s : Smooth α) (k : Nat) : (s.after k).items = s.items := by
  induction k with
  | zero => rfl
  | succ k ih => rw [after_succ, items_next, ih]

theorem Sound.after (h : s.Sound) (k : Nat) : (s.after k).Sound := by
  induction k with
  | zero => exact h
  | succ k ih =>
    rw [after_succ]
    exact ih.next

/-! ## The course of a rotation -/

/-- All that is picked from a rotation is picked in range. -/
def Contained (s : Smooth α) : Prop := ∀ k, (s.after k).InRange

theorem Within.contained (h : Within start s) (hstart : start.Sound) (hsound : s.Sound)
    (hmoderate : start.Moderate) : s.Contained := by
  intro k
  have hwithin : Within start (s.after k) := by
    induction k with
    | zero => exact h
    | succ k ih =>
      rw [after_succ]
      exact ih.next hstart (hsound.after k) hmoderate
  exact hwithin.inRange hstart (hsound.after k) hmoderate

/-- Items are picked from a rotation, all in range. -/
structure Steady (s : Smooth α) : Prop where
  sound : s.Sound
  ne_nil : s.nodes ≠ []
  contained : s.Contained

namespace Steady

theorem after (h : s.Steady) (k : Nat) : (s.after k).Steady := by
  refine ⟨h.sound.after k, fun hnil => h.ne_nil ?_, fun j => ?_⟩
  · have hitems := items_after s k
    rw [items, hnil, items, eq_comm] at hitems
    exact List.map_eq_nil_iff.1 hitems
  · rw [← after_add]
    exact h.contained (k + j)

/-- The picks of a rotation are those of a course of turns. -/
theorem exists_course (h : s.Steady) : ∃ top : Nat → α,
    Course s.members s.items.idxOf s.weightOf top (fun k => (s.after k).scoreOf) ∧
    (∀ k, (s.picks k).1 = ((List.range' 0 k).map top).map some) ∧
    ∀ k a, (s.after k).weightOf a = s.weightOf a := by
  have hturns : ∀ k, ∃ top, (s.after k).next.1 = some top ∧
      (∀ a, (s.after (k + 1)).weightOf a = (s.after k).weightOf a) ∧
      Turn s.members s.items.idxOf (s.after k).weightOf (s.after k).scoreOf top
        (s.after (k + 1)).scoreOf := by
    intro k
    have hsteady := h.after k
    obtain ⟨top, htop, hweight, hturn⟩ :=
      exists_turn hsteady.sound (h.contained k) hsteady.ne_nil
    rw [members, items_after] at hturn
    rw [after_succ]
    exact ⟨top, htop, hweight, hturn⟩
  choose top htop hweight hturn using hturns
  have hweights : ∀ k a, (s.after k).weightOf a = s.weightOf a := by
    intro k a
    induction k with
    | zero => rfl
    | succ k ih => rw [hweight, ih]
  refine ⟨top, ⟨h.sound.weightOf_pos, ?_, fun k => ?_⟩, fun k => ?_, hweights⟩
  · intro a ha b _ heq
    exact (List.idxOf_inj (List.mem_toFinset.1 ha)).1 heq
  · have hsame : (s.after k).weightOf = s.weightOf := funext (hweights k)
    exact hsame ▸ hturn k
  · induction k with
    | zero => rfl
    | succ k ih =>
      rw [picks_succ, ih, htop, List.range'_concat, List.map_append, List.map_append]
      simp

/-! ## Fair cycles -/

theorem load_after (h : s.Steady) (k : Nat) : (s.after k).load = s.load := by
  obtain ⟨top, -, -, hweights⟩ := h.exists_course
  rw [(h.after k).sound.load_eq, h.sound.load_eq, members, items_after, funext (hweights k)]
  rfl

theorem cycle_eq (h : s.Steady) : Course.cycle s.members s.weightOf = s.load.toNat := by
  rw [Course.cycle, h.sound.load_eq]

/-- Two times of a rotation are the same if the scores are. -/
theorem after_eq_after (h : s.Steady) {j k : Nat}
    (hscore : ∀ a ∈ s.members, (s.after j).scoreOf a = (s.after k).scoreOf a) :
    s.after j = s.after k := by
  obtain ⟨top, -, -, hweights⟩ := h.exists_course
  refine (h.after k).sound.eq_of_view (h.after j).sound (by rw [items_after, items_after]) ?_ ?_
  · exact fun a _ => (hweights j a).trans (hweights k a).symm
  · intro a ha
    rw [members, items_after] at ha
    exact hscore a ha

end Steady

/-- A cycle takes every item as often as its weight says. -/
def Fair (s : Smooth α) : Prop :=
  ∀ n ∈ s.nodes, ((s.picks s.load.toNat).1.count (some n.item) : Int) = n.weight.toInt

instance (s : Smooth α) : Decidable s.Fair := inferInstanceAs (Decidable (∀ _ ∈ _, _))

namespace Steady

/-- How often an item is picked. -/
theorem count_picks {top : Nat → α} {k : Nat}
    (hpicks : (s.picks k).1 = ((List.range' 0 k).map top).map some) (a : α) :
    (s.picks k).1.count (some a) = times top 0 k a := by
  rw [hpicks, times, List.count_map_of_injective _ _ (Option.some_injective α)]

/-- A cycle is fair if and only if it leads back. -/
theorem fair_iff (h : s.Steady) : s.Fair ↔ s.after s.load.toNat = s := by
  obtain ⟨top, hcourse, hpicks, -⟩ := h.exists_course
  have hiff := hcourse.times_eq_iff 0
  rw [h.cycle_eq, Nat.zero_add] at hiff
  constructor
  · intro hfair
    refine h.after_eq_after (k := 0) (hiff.1 fun a ha => ?_)
    obtain ⟨n, hn, rfl⟩ := mem_members.1 ha
    rw [← count_picks (hpicks _), hfair n hn, h.sound.weightOf_item hn]
  · intro hback n hn
    rw [count_picks (hpicks _), ← h.sound.weightOf_item hn]
    exact hiff.2 (fun a _ => congrArg (fun t => t.scoreOf a) hback) _ (item_mem_members hn)

/-- A later cycle is fair if the scores repeat. -/
theorem fair_after (h : s.Steady) {k : Nat}
    (hscore : ∀ a ∈ s.members, (s.after (k + s.load.toNat)).scoreOf a = (s.after k).scoreOf a) :
    (s.after k).Fair := by
  refine (h.after k).fair_iff.2 ?_
  rw [h.load_after, ← after_add]
  exact h.after_eq_after hscore

/-- From scores of zero, every cycle is fair. -/
theorem fair_of_atRest (h : s.Steady) (hrest : s.AtRest) (k : Nat) : (s.after k).Fair := by
  obtain ⟨top, hcourse, -, -⟩ := h.exists_course
  have hcycle := hcourse.score_add_cycle (Nat.zero_le k)
    (hcourse.score_cycle_of_zero (hrest.scoreOf_eq h.sound))
  rw [h.cycle_eq] at hcycle
  exact h.fair_after hcycle

/-- After finitely many picks, every cycle is fair. -/
theorem exists_fair (h : s.Steady) : ∃ K, ∀ k ≥ K, (s.after k).Fair := by
  obtain ⟨top, hcourse, -, -⟩ := h.exists_course
  obtain ⟨K, hsettled⟩ := hcourse.exists_settled
  rw [h.cycle_eq] at hsettled
  exact ⟨K, fun k hk => h.fair_after (hsettled k hk)⟩

end Steady

/-- As long as no item has gone, a rotation has come by picks from the one that it was opened as. -/
theorem exists_after_opening (ops : List (Op α)) (hitems : (run ops).items = (opening ops).items) :
    ∃ k, run ops = (opening ops).after k := by
  induction ops using List.reverseRecOn with
  | nil => exact ⟨0, rfl⟩
  | append_singleton ops op ih =>
    cases haccepted : op.accepted with
    | true => exact ⟨0, (opening_concat_of_accepted ops haccepted).symm⟩
    | false =>
      have hsublist := items_run_sublist ops
      rw [opening_concat_of_not_accepted ops haccepted, run_concat] at hitems ⊢
      cases op with
      | add item weight =>
        rw [apply, add_of_not_pos _ item (of_decide_eq_false haccepted)] at hitems ⊢
        exact ih hitems
      | remove item =>
        rw [apply] at hitems ⊢
        -- Nothing comes back without an addition, so this removal took nothing.
        have hkept : (run ops).items = (opening ops).items := by
          refine hsublist.antisymm (hitems ▸ ?_)
          rw [items_remove]
          exact List.filter_sublist
        rw [remove_eq_of_items_eq (hitems.trans hkept.symm)]
        exact ih hkept
      | next =>
        rw [apply, items_next] at hitems
        obtain ⟨k, hk⟩ := ih hitems
        exact ⟨k + 1, by rw [apply, hk, after_succ]⟩

/-- As long as all is picked in range, a cycle is fair if and only if it leads back, and whatever
    has been done, after finitely many picks every cycle is fair. As long as no item has gone since
    the last accepted addition, every cycle is. Where that left moderate weights, all is picked in
    range. -/
theorem fair_run (ops : List (Op α)) (hne : (run ops).nodes ≠ []) :
    ((run ops).Contained → ((run ops).Fair ↔ (run ops).after (run ops).load.toNat = run ops) ∧
      ∃ K, ∀ k ≥ K, ((run ops).after k).Fair) ∧
    ((opening ops).Contained → (run ops).items = (opening ops).items → (run ops).Fair) ∧
    ((opening ops).Moderate → (opening ops).Contained ∧ (run ops).Contained) := by
  have hsound := sound_opening ops
  have hrest := atRest_opening ops
  refine ⟨fun hcontained => ?_, fun hcontained hitems => ?_, fun hmoderate => ?_⟩
  · have hsteady : (run ops).Steady := ⟨sound_run ops, hne, hcontained⟩
    exact ⟨hsteady.fair_iff, hsteady.exists_fair⟩
  · obtain ⟨k, hk⟩ := exists_after_opening ops hitems
    have hopening : (opening ops).nodes ≠ [] := by
      intro hnil
      rw [items, items, hnil, List.map_nil] at hitems
      exact hne (List.map_eq_nil_iff.1 hitems)
    have hsteady : (opening ops).Steady := ⟨hsound, hopening, hcontained⟩
    rw [hk]
    exact hsteady.fair_of_atRest hrest k
  · exact ⟨(hrest.within hsound).contained hsound hsound hmoderate,
      (within_opening ops hmoderate).contained hsound (sound_run ops) hmoderate⟩

/-- Three items of weight 1, of which one is removed when it has not been picked for the first
    time. The next two picks take one of the others twice, and after them all cycles are fair. -/
theorem fair_run_removed :
    let ops : List (Op String) :=
      [.add "a" 1, .add "b" 1, .add "c" 1, .next, .next, .remove "b"]
    (run ops).nodes ≠ [] ∧ (opening ops).Moderate ∧ ¬(run ops).Fair ∧
      ∃ K, ∀ k ≥ K, ((run ops).after k).Fair := by
  intro ops
  have hne : (run ops).nodes ≠ [] := by decide
  have hmoderate : (opening ops).Moderate := by decide
  obtain ⟨hcontained, -, hrange⟩ := fair_run ops hne
  exact ⟨hne, hmoderate, by decide, (hcontained (hrange hmoderate).2).2⟩

/-- After the removal of an item the next cycle need not be fair. -/
theorem not_forall_fair_run :
    ¬ ∀ ops : List (Op String), (run ops).nodes ≠ [] → (run ops).Fair := by
  intro hfair
  have hremoved := hfair [.add "a" 1, .add "b" 1, .add "c" 1, .next, .next, .remove "b"] (by decide)
  exact absurd hremoved (by decide)

/-! ## After an addition -/

namespace Steady

/-- If a cycle leads back, the picks repeat. -/
theorem picks_mul_add {cycle : Nat} (hback : s.after cycle = s) (m k : Nat) :
    (s.picks (m * cycle + k)).1 =
      (List.replicate m (s.picks cycle).1).flatten ++ (s.picks k).1 := by
  induction m with
  | zero => rw [Nat.zero_mul, Nat.zero_add, List.replicate_zero, List.flatten_nil, List.nil_append]
  | succ m ih =>
    rw [Nat.succ_mul, Nat.add_right_comm, Nat.add_comm, picks_add, hback, ih, List.replicate_succ,
      List.flatten_cons, List.append_assoc]

/-- From scores of zero, no item is ever picked more often than its share of the picks, rounded
    up. -/
theorem count_mul_lt (h : s.Steady) (hrest : s.AtRest) (k : Nat) (hn : n ∈ s.nodes) :
    ((s.picks k).1.count (some n.item) : Int) * s.load < k * n.weight.toInt + s.load := by
  obtain ⟨top, hcourse, hpicks, -⟩ := h.exists_course
  have hlt := hcourse.times_mul_lt (hrest.scoreOf_eq h.sound) k n.item (item_mem_members hn)
  rwa [h.sound.weightOf_item hn, ← h.sound.load_eq, ← count_picks (hpicks k)] at hlt

end Steady

theorem add_ne_nil {item : α} {weight : Int64} (hpos : 0 < weight) :
    (s.add item weight).2.nodes ≠ [] := by
  rw [add_of_pos s item hpos]
  split
  · next hmem => simpa [items, -List.mem_map] using List.ne_nil_of_mem hmem
  · simp

/-- After an accepted addition the picks are spread evenly: none of them fails, and however many
    there are, no item has as much as one more than its share. A cycle takes every item as often as
    its weight says, and then all scores are zero again, and the picks repeat. -/
theorem picks_of_add {item : α} {weight : Int64} (hadd : (run ops).add item weight = (true, s))
    (hload : s.nodes.length * s.load < 2 ^ 63) :
    (∀ k, none ∉ (s.picks k).1 ∧ ∀ n ∈ s.nodes,
      ((s.picks k).1.count (some n.item) : Int) * s.load < k * n.weight.toInt + s.load) ∧
    (∀ n ∈ s.nodes, ((s.picks s.load.toNat).1.count (some n.item) : Int) = n.weight.toInt) ∧
    (∀ n ∈ (s.after s.load.toNat).nodes, n.score = 0) ∧
    ∀ m k, (s.picks (m * s.load.toNat + k)).1 =
      (List.replicate m (s.picks s.load.toNat).1).flatten ++ (s.picks k).1 := by
  have hpos : 0 < weight := by
    by_contra hnot
    rw [add_of_not_pos _ item hnot] at hadd
    exact absurd (congrArg Prod.fst hadd) Bool.false_ne_true
  have hs : ((run ops).add item weight).2 = s := congrArg Prod.snd hadd
  have hsound : s.Sound := hs ▸ (sound_run ops).add item weight
  have hrest : s.AtRest := hs ▸ atRest_add _ item hpos
  have hne : s.nodes ≠ [] := hs ▸ add_ne_nil hpos
  have hmoderate := moderate_of_length_mul_load_lt hsound hne hload
  have hsteady : s.Steady :=
    ⟨hsound, hne, (hrest.within hsound).contained hsound hsound hmoderate⟩
  have hfair : s.Fair := hsteady.fair_of_atRest hrest 0
  have hback := hsteady.fair_iff.1 hfair
  refine ⟨fun k => ⟨?_, fun n hn => hsteady.count_mul_lt hrest k hn⟩, hfair, ?_,
    Steady.picks_mul_add hback⟩
  · obtain ⟨top, -, hpicks, -⟩ := hsteady.exists_course
    rw [hpicks]
    simp
  · rw [hback]
    exact hrest

/-- The weights 5, 1 and 1, after a pick that does not count. -/
theorem picks_of_add_five :
    let s : Smooth String := ⟨[⟨"a", 5, 0⟩, ⟨"b", 1, 0⟩, ⟨"c", 1, 0⟩]⟩
    (run [.add "a" 5, .add "b" 1, .next]).add "c" 1 = (true, s) ∧
      s.nodes.length * s.load < 2 ^ 63 ∧
      (s.picks 7).1 =
        [some "a", some "a", some "b", some "a", some "c", some "a", some "a"] ∧
      ∀ m k, (s.picks (m * 7 + k)).1 =
        (List.replicate m (s.picks 7).1).flatten ++ (s.picks k).1 := by
  intro s
  have hadd : (run [.add "a" 5, .add "b" 1, .next]).add "c" 1 = (true, s) := by decide
  have hload : s.nodes.length * s.load < 2 ^ 63 := by decide
  exact ⟨hadd, hload, by decide, (picks_of_add hadd hload).2.2.2⟩

end TaggedRpc.Selection.Smooth
