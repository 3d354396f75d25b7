import Mathlib.Algebra.Order.BigOperators.Group.List
import Mathlib.Data.List.Nodup
import Mathlib.Tactic.Linarith
import Mathlib.Tactic.Ring
import TaggedRpc.Proofs.Selection.Supply

/-!
# Shares of a weight list

A weight list deals turns out to *players*, the positions that have a share. On every turn each
player is paid its share, and the one that is listed pays the total of the shares. So after some
turns the score of a player is what it has been paid for these turns and the next one, less the
total for every time that it was listed (`WeightList.Fair`). The scores add up to the total, so
the highest is positive, and whoever has it has been listed less than its share of the turns asks
for: nobody comes up ahead of its share. After as many turns as the total says, nobody has been
listed more often than its share says, and so everybody exactly as often (`Fair.count_eq_share`).

Where all weights are positive, the total is that of the shares, and the weight list has every
position as often as its share says, or once if it has none (`WeightList.build_proportional`).
-/

namespace TaggedRpc.Selection.WeightList

variable {total : Int} {players : List Player} {listed : List Nat} {p : Player}

/-! ## One turn -/

theorem Player.le_trans (a b c : Player) (hab : a.le b = true) (hbc : b.le c = true) :
    a.le c = true := by
  simp only [Player.le, Bool.or_eq_true, Bool.and_eq_true, decide_eq_true_eq, beq_iff_eq] at *
  rcases hab with hab | ⟨hab, htab⟩ <;> rcases hbc with hbc | ⟨hbc, htbc⟩
  · exact .inl (by omega)
  · exact .inl (by omega)
  · exact .inl (by omega)
  · exact .inr ⟨by omega, String.le_trans htab htbc⟩

theorem Player.le_total (a b : Player) : (a.le b || b.le a) = true := by
  simp only [Player.le, Bool.or_eq_true, Bool.and_eq_true, decide_eq_true_eq, beq_iff_eq]
  rcases lt_trichotomy a.score b.score with hlt | heq | hgt
  · exact .inl (.inl hlt)
  · exact (String.le_total a.text b.text).imp (fun h => .inr ⟨heq, h⟩) fun h => .inr ⟨heq.symm, h⟩
  · exact .inr (.inl hgt)

theorem Player.score_le_of_le {a b : Player} (h : a.le b = true) : a.score ≤ b.score := by
  simp only [Player.le, Bool.or_eq_true, Bool.and_eq_true, decide_eq_true_eq, beq_iff_eq] at h
  rcases h with h | ⟨h, -⟩ <;> omega

/-- A player that is listed pays the total, and is paid its share. -/
def Player.pay (total : Int) (p : Player) : Player :=
  { p with score := p.score - total + p.share }

/-- A player that is not listed is paid its share. -/
def Player.gain (p : Player) : Player := { p with score := p.score + p.share }

/-- A turn lists a player that is last in the order. -/
theorem exists_turn_eq (hne : players ≠ []) (total : Int) :
    ∃ top others, players.Perm (top :: others) ∧ (∀ p ∈ others, p.le top = true) ∧
      turn total players = (some top.index, top.pay total :: others.map Player.gain) := by
  have hperm : (players.mergeSort Player.le).reverse.Perm players :=
    (List.reverse_perm _).trans (List.mergeSort_perm ..)
  have hsorted := List.pairwise_reverse.2
    (List.pairwise_mergeSort Player.le_trans Player.le_total players)
  rw [turn]
  cases hrev : (players.mergeSort Player.le).reverse with
  | nil =>
    rw [hrev] at hperm
    exact absurd hperm.nil_eq.symm hne
  | cons top others =>
    rw [hrev] at hperm hsorted
    exact ⟨top, others, hperm.symm, (List.pairwise_cons.1 hsorted).1, rfl⟩

/-! ## Where a deal stands -/

/-- Where a deal stands when it has listed some positions. -/
structure Fair (total : Int) (listed : List Nat) (players : List Player) : Prop where
  /-- The players are at different positions. -/
  indices : (players.map Player.index).Nodup
  share_nonneg : ∀ p ∈ players, 0 ≤ p.share
  shares : (players.map Player.share).sum = total
  scores : (players.map Player.score).sum = total
  /-- Each has been paid for every turn and the next, and has paid for its own. -/
  account : ∀ p ∈ players,
    p.score = (listed.length + 1) * p.share - total * listed.count p.index
  /-- None is ahead of its share. -/
  ahead : ∀ p ∈ players, listed.count p.index * total < listed.length * p.share + total

namespace Fair

theorem perm {players' : List Player} (h : Fair total listed players)
    (hperm : players.Perm players') : Fair total listed players' where
  indices := (hperm.map _).nodup_iff.1 h.indices
  share_nonneg p hp := h.share_nonneg p (hperm.mem_iff.2 hp)
  shares := ((hperm.map _).sum_eq).symm.trans h.shares
  scores := ((hperm.map _).sum_eq).symm.trans h.scores
  account p hp := h.account p (hperm.mem_iff.2 hp)
  ahead p hp := h.ahead p (hperm.mem_iff.2 hp)

theorem ne_nil (h : Fair total listed players) (htotal : 0 < total) : players ≠ [] := by
  rintro rfl
  exact htotal.ne h.shares

/-- The scores add up to something positive, so the highest is positive. -/
theorem score_pos {top : Player} {others : List Player} (h : Fair total listed (top :: others))
    (htotal : 0 < total) (htop : ∀ p ∈ others, p.score ≤ top.score) : 0 < top.score := by
  have hsum : ((top :: others).map fun _ => (0 : Int)).sum <
      ((top :: others).map Player.score).sum := by
    rw [h.scores]
    simpa using htotal
  obtain ⟨p, hp, hpos⟩ := List.exists_lt_of_sum_lt _ _ hsum
  rcases List.mem_cons.1 hp with rfl | hp
  · exact hpos
  · exact hpos.trans_le (htop p hp)

/-- What all are paid on a turn is what the one that is listed pays. -/
theorem sum_score_pay {top : Player} {others : List Player}
    (h : Fair total listed (top :: others)) :
    ((top.pay total :: others.map Player.gain).map Player.score).sum = total := by
  have hgain : ((others.map Player.gain).map Player.score).sum =
      (others.map Player.score).sum + (others.map Player.share).sum := by
    rw [List.map_map, ← List.sum_map_add]
    rfl
  have hshares := h.shares
  have hscores := h.scores
  rw [List.map_cons, List.sum_cons] at hshares hscores ⊢
  rw [hgain, Player.pay]
  dsimp only
  omega

/-- The account of the player that is listed. -/
theorem account_pay (h : p.score = (listed.length + 1) * p.share - total * listed.count p.index) :
    (p.pay total).score = ((listed ++ [p.index]).length + 1) * p.share -
      total * (listed ++ [p.index]).count p.index := by
  rw [Player.pay, List.count_append, List.count_singleton_self, List.length_append,
    List.length_singleton]
  dsimp only
  push_cast
  rw [h]
  ring

/-- The accounts of the others. -/
theorem account_gain {i : Nat} (hne : i ≠ p.index)
    (h : p.score = (listed.length + 1) * p.share - total * listed.count p.index) :
    p.gain.score = ((listed ++ [i]).length + 1) * p.share -
      total * (listed ++ [i]).count p.index := by
  rw [Player.gain, List.count_append, List.count_singleton, if_neg (by simpa using hne),
    List.length_append, List.length_singleton]
  dsimp only
  push_cast
  rw [h]
  ring

/-- A player that owes nothing may be listed once more. -/
theorem ahead_pay (hpos : 0 < p.score)
    (h : p.score = (listed.length + 1) * p.share - total * listed.count p.index) :
    (listed ++ [p.index]).count p.index * total <
      (listed ++ [p.index]).length * p.share + total := by
  rw [List.count_append, List.count_singleton_self, List.length_append, List.length_singleton]
  push_cast
  linarith

theorem ahead_gain {i : Nat} (hne : i ≠ p.index) (hshare : 0 ≤ p.share)
    (h : listed.count p.index * total < listed.length * p.share + total) :
    (listed ++ [i]).count p.index * total < (listed ++ [i]).length * p.share + total := by
  rw [List.count_append, List.count_singleton, if_neg (by simpa using hne), List.length_append,
    List.length_singleton]
  push_cast
  linarith

/-- One more turn, on which the player with the highest score is listed. -/
theorem pay {top : Player} {others : List Player} (h : Fair total listed (top :: others))
    (htotal : 0 < total) (htop : ∀ p ∈ others, p.score ≤ top.score) :
    Fair total (listed ++ [top.index]) (top.pay total :: others.map Player.gain) := by
  have haccount := h.account top List.mem_cons_self
  have hne : ∀ p ∈ others, top.index ≠ p.index := fun p hp heq =>
    (List.nodup_cons.1 h.indices).1 (heq ▸ List.mem_map_of_mem hp)
  constructor
  case indices =>
    have hindices : (others.map Player.gain).map Player.index = others.map Player.index := by
      rw [List.map_map]
      rfl
    rw [List.map_cons, hindices]
    exact h.indices
  case share_nonneg =>
    refine List.forall_mem_cons.2 ⟨h.share_nonneg top List.mem_cons_self, ?_⟩
    exact List.forall_mem_map.2 fun p hp => h.share_nonneg p (List.mem_cons_of_mem _ hp)
  case shares =>
    rw [← h.shares, List.map_cons, List.map_cons, List.map_map]
    rfl
  case scores => exact h.sum_score_pay
  case account =>
    refine List.forall_mem_cons.2 ⟨account_pay haccount, List.forall_mem_map.2 fun p hp => ?_⟩
    exact account_gain (hne p hp) (h.account p (List.mem_cons_of_mem _ hp))
  case ahead =>
    -- The score of the listed player was positive, so it had not had its share of the turns.
    have hahead := ahead_pay (h.score_pos htotal htop) haccount
    refine List.forall_mem_cons.2 ⟨hahead, List.forall_mem_map.2 fun p hp => ?_⟩
    exact ahead_gain (hne p hp) (h.share_nonneg p (List.mem_cons_of_mem _ hp))
      (h.ahead p (List.mem_cons_of_mem _ hp))

/-- One more turn. The players stay, with their positions and their shares. -/
theorem turn (h : Fair total listed players) (htotal : 0 < total) :
    ∃ i, (WeightList.turn total players).1 = some i ∧
      Fair total (listed ++ [i]) (WeightList.turn total players).2 ∧
      ∀ p ∈ players, ∃ p' ∈ (WeightList.turn total players).2,
        p'.index = p.index ∧ p'.share = p.share := by
  obtain ⟨top, others, hperm, htop, hturn⟩ := exists_turn_eq (h.ne_nil htotal) total
  rw [hturn]
  have hpay := (h.perm hperm).pay htotal fun p hp => Player.score_le_of_le (htop p hp)
  refine ⟨top.index, rfl, hpay, fun p hp => ?_⟩
  rcases List.mem_cons.1 (hperm.mem_iff.1 hp) with rfl | hp
  · exact ⟨p.pay total, List.mem_cons_self, rfl, rfl⟩
  · exact ⟨p.gain, List.mem_cons_of_mem _ (List.mem_map_of_mem hp), rfl, rfl⟩

/-! ## A whole deal -/

/-- Every turn lists one position. -/
theorem length_deal (h : Fair total listed players) (htotal : 0 < total) (turns : Nat) :
    (deal total turns players).length = turns := by
  induction turns generalizing listed players with
  | zero => rfl
  | succ turns ih =>
    obtain ⟨i, hi, hfair, -⟩ := h.turn htotal
    rw [deal]
    dsimp only
    rw [hi, List.length_append, ih hfair]
    exact Nat.add_comm 1 turns

/-- The first turns of a deal are a deal. -/
theorem take_deal (h : Fair total listed players) (htotal : 0 < total) {k turns : Nat}
    (hk : k ≤ turns) : (deal total turns players).take k = deal total k players := by
  induction turns generalizing listed players k with
  | zero =>
    cases Nat.le_zero.1 hk
    rfl
  | succ turns ih =>
    cases k with
    | zero => rfl
    | succ k =>
      obtain ⟨i, hi, hfair, -⟩ := h.turn htotal
      rw [deal, deal]
      dsimp only
      rw [hi]
      exact congrArg (i :: ·) (ih hfair (Nat.le_of_succ_le_succ hk))

/-- A deal stays fair, and the players stay. -/
theorem deal (h : Fair total listed players) (htotal : 0 < total) (turns : Nat) :
    ∃ players', Fair total (listed ++ WeightList.deal total turns players) players' ∧
      ∀ p ∈ players, ∃ p' ∈ players', p'.index = p.index ∧ p'.share = p.share := by
  induction turns generalizing listed players with
  | zero =>
    refine ⟨players, ?_, fun p hp => ⟨p, hp, rfl, rfl⟩⟩
    rwa [WeightList.deal, List.append_nil]
  | succ turns ih =>
    obtain ⟨i, hi, hfair, hplayers⟩ := h.turn htotal
    obtain ⟨players', hfair', hplayers'⟩ := ih hfair
    refine ⟨players', ?_, fun p hp => ?_⟩
    · rw [WeightList.deal]
      dsimp only
      rw [hi, Option.toList_some, ← List.append_assoc]
      exact hfair'
    · obtain ⟨q, hq, hindex, hshare⟩ := hplayers p hp
      obtain ⟨p', hp', hindex', hshare'⟩ := hplayers' q hq
      exact ⟨p', hp', hindex'.trans hindex, hshare'.trans hshare⟩

/-- After as many turns as the total says, nobody is owed anything: each score is the share
    again. -/
theorem count_eq_share (h : Fair total listed players) (htotal : 0 < total)
    (hlength : (listed.length : Int) = total) (hp : p ∈ players) :
    (listed.count p.index : Int) = p.share := by
  have hscore : ∀ q ∈ players,
      q.score - q.share = total * (q.share - listed.count q.index) := by
    intro q hq
    rw [h.account q hq, hlength]
    ring
  have howed : ∀ q ∈ players, 0 ≤ q.score - q.share := by
    intro q hq
    have hahead := h.ahead q hq
    rw [hlength] at hahead
    have hlt : total * listed.count q.index < total * (q.share + 1) := by linarith
    have hle := Int.lt_add_one_iff.1 (lt_of_mul_lt_mul_left hlt htotal.le)
    rw [hscore q hq]
    exact mul_nonneg htotal.le (sub_nonneg.2 hle)
  have hsum : (players.map fun q => q.score - q.share).sum = 0 := by
    have hsplit := List.sum_map_add (l := players) (f := Player.share)
      (g := fun q => q.score - q.share)
    simp only [add_sub_cancel] at hsplit
    linarith [h.shares, h.scores]
  have hzero := List.all_zero_of_le_zero_le_of_sum_eq_zero (List.forall_mem_map.2 howed) hsum
    (List.mem_map_of_mem hp)
  rw [hscore p hp, mul_eq_zero, or_iff_right htotal.ne'] at hzero
  exact (sub_eq_zero.1 hzero).symm

end Fair

/-! ## Positions and shares -/

/-- The positions that have no share, in their order. -/
def idle (shares : List Int) : List Nat :=
  (List.range shares.length).filter fun i => shares[i]? == some 0

/-- A list of positions that gives each its share. -/
structure Proportional (shares : List Int) (list : List Nat) : Prop where
  /-- A position is listed as often as its share says, and at least once. -/
  count : ∀ i (h : i < shares.length), (list.count i : Int) = max 1 shares[i]
  /-- Nothing else is listed. -/
  lt_length : ∀ i ∈ list, i < shares.length
  /-- The positions without a share come first, once. The turns after them are as many as the
      shares, and no position comes up ahead of its share of those that have been dealt. -/
  turns : ∃ turns : List Nat, list = idle shares ++ turns ∧ (turns.length : Int) = shares.sum ∧
    ∀ k ≤ turns.length, ∀ i (h : i < shares.length),
      (turns.take k).count i * shares.sum < k * shares[i] + shares.sum

theorem count_idle {shares : List Int} {i : Nat} (hi : i < shares.length) :
    (idle shares).count i = if shares[i] = 0 then 1 else 0 := by
  have hnodup : (idle shares).Nodup := List.nodup_range.filter _
  have hmem : i ∈ idle shares ↔ shares[i] = 0 := by
    rw [idle, List.mem_filter, List.mem_range, List.getElem?_eq_getElem hi]
    simp [hi]
  split
  · next hzero => exact List.count_eq_one_of_mem hnodup (hmem.2 hzero)
  · next hzero => exact List.count_eq_zero_of_not_mem (mt hmem.1 hzero)

/-- Players at the positions of shares, before the first turn. -/
structure Seated (shares : List Int) (all : List Player) : Prop where
  index : all.map Player.index = List.range shares.length
  share : all.map Player.share = shares
  score : ∀ p ∈ all, p.score = p.share
  nonneg : ∀ x ∈ shares, 0 ≤ x

/-- Those who have a share, and play. -/
def playing (all : List Player) : List Player := all.filter fun p => 0 < p.share

namespace Seated

variable {shares : List Int} {all : List Player} {i : Nat}

/-- A player has the share of its position. -/
theorem getElem?_index (h : Seated shares all) (hp : p ∈ all) :
    shares[p.index]? = some p.share := by
  obtain ⟨j, hj⟩ := List.getElem?_of_mem hp
  have hlt : j < all.length := (List.getElem?_eq_some_iff.1 hj).1
  have hindexed : (all.map Player.index)[j]? = some p.index := by
    rw [List.getElem?_map, hj]
    rfl
  rw [h.index, ← h.share, List.length_map, List.getElem?_range hlt] at hindexed
  rw [← Option.some.inj hindexed, ← h.share, List.getElem?_map, hj]
  rfl

/-- Every position has a player. -/
theorem exists_index_eq (h : Seated shares all) (hi : i < shares.length) :
    ∃ p ∈ all, p.index = i ∧ p.share = shares[i] := by
  have hmem : i ∈ all.map Player.index := h.index ▸ List.mem_range.2 hi
  obtain ⟨p, hp, rfl⟩ := List.mem_map.1 hmem
  refine ⟨p, hp, rfl, ?_⟩
  have hget := h.getElem?_index hp
  rw [List.getElem?_eq_getElem hi] at hget
  exact (Option.some.inj hget).symm

theorem share_nonneg (h : Seated shares all) (hp : p ∈ all) : 0 ≤ p.share :=
  h.nonneg p.share (h.share ▸ List.mem_map_of_mem hp)

/-- Those who do not play are at the positions without a share. -/
theorem map_index_filter_not (h : Seated shares all) :
    (all.filter fun p => !decide (0 < p.share)).map Player.index = idle shares := by
  rw [idle, ← h.index, List.filter_map]
  congr 1
  refine List.filter_congr fun p hp => ?_
  have hle := h.share_nonneg hp
  rw [Function.comp_apply, h.getElem?_index hp, Bool.eq_iff_iff]
  simp only [Bool.not_eq_true', decide_eq_false_iff_not, beq_iff_eq, Option.some.injEq]
  omega

/-- Those who play have all the shares. -/
theorem sum_playing (h : Seated shares all) :
    ((playing all).map Player.share).sum = shares.sum := by
  have hsplit := ((List.filter_append_perm (fun p : Player => decide (0 < p.share)) all).map
    Player.share).sum_eq
  have hrest : ((all.filter fun p => !decide (0 < p.share)).map Player.share).sum = 0 := by
    refine List.sum_eq_zero fun x hx => ?_
    obtain ⟨p, hp, rfl⟩ := List.mem_map.1 hx
    obtain ⟨hp, hshareless⟩ := List.mem_filter.1 hp
    have hle := h.share_nonneg hp
    simp only [Bool.not_eq_true', decide_eq_false_iff_not] at hshareless
    omega
  rw [List.map_append, List.sum_append, hrest, add_zero, h.share] at hsplit
  exact hsplit

/-- Before the first turn a deal is fair. -/
theorem fair (h : Seated shares all) (hpos : 0 < shares.sum) :
    Fair shares.sum [] (playing all) := by
  have hmem : ∀ p ∈ playing all, p ∈ all ∧ 0 < p.share := fun p hp =>
    (List.mem_filter.1 hp).imp id of_decide_eq_true
  constructor
  case indices =>
    have hnodup : (all.map Player.index).Nodup := h.index ▸ List.nodup_range
    exact hnodup.sublist (List.filter_sublist.map _)
  case share_nonneg => exact fun p hp => (hmem p hp).2.le
  case shares => exact h.sum_playing
  case scores =>
    rw [← h.sum_playing]
    exact congrArg List.sum (List.map_congr_left fun p hp => h.score p (hmem p hp).1)
  case account =>
    intro p hp
    rw [h.score p (hmem p hp).1]
    simp
  case ahead => exact fun p _ => by simpa using hpos

/-- Who is not at a position with a share is not listed. -/
theorem count_deal_of_eq_zero (h : Seated shares all) (hi : i < shares.length)
    (hzero : shares[i] = 0) (total : Int) (k : Nat) :
    (deal total k (playing all)).count i = 0 := by
  refine List.count_eq_zero_of_not_mem fun hmem => ?_
  have hlisted := forall_mem_deal (p := fun j => ∃ x, shares[j]? = some x ∧ 0 < x) k
    (fun p hp => ⟨p.share, h.getElem?_index (List.mem_filter.1 hp).1,
      of_decide_eq_true (List.mem_filter.1 hp).2⟩) i hmem
  obtain ⟨x, hx, hpos⟩ := hlisted
  rw [List.getElem?_eq_getElem hi, hzero] at hx
  exact hpos.ne (Option.some.inj hx)

/-- A position with a share has a player in the deal, at any time. -/
theorem exists_fair (h : Seated shares all) (hpos : 0 < shares.sum) (hi : i < shares.length)
    (hshare : shares[i] ≠ 0) (k : Nat) :
    ∃ players, Fair shares.sum (deal shares.sum k (playing all)) players ∧
      ∃ p ∈ players, p.index = i ∧ p.share = shares[i] := by
  obtain ⟨players, hfair, hstay⟩ := (h.fair hpos).deal hpos k
  obtain ⟨p, hp, hindex, hpshare⟩ := h.exists_index_eq hi
  have hplays : 0 < p.share := lt_of_le_of_ne (h.share_nonneg hp) (hpshare ▸ hshare.symm)
  obtain ⟨p', hp', hindex', hshare'⟩ :=
    hstay p (List.mem_filter.2 ⟨hp, decide_eq_true hplays⟩)
  exact ⟨players, hfair, p', hp', hindex'.trans hindex, hshare'.trans hpshare⟩

/-- At no time a position is ahead of its share. -/
theorem ahead (h : Seated shares all) (hpos : 0 < shares.sum) (hi : i < shares.length)
    (k : Nat) : (deal shares.sum k (playing all)).count i * shares.sum <
      k * shares[i] + shares.sum := by
  by_cases hzero : shares[i] = 0
  · rw [h.count_deal_of_eq_zero hi hzero, hzero]
    simpa using hpos
  · obtain ⟨players, hfair, p, hp, rfl, hshare⟩ := h.exists_fair hpos hi hzero k
    have hahead := hfair.ahead p hp
    rwa [(h.fair hpos).length_deal hpos, hshare] at hahead

/-- In the end each position has been listed as often as its share says. -/
theorem count_deal (h : Seated shares all) (hpos : 0 < shares.sum) (hi : i < shares.length) :
    ((deal shares.sum shares.sum.toNat (playing all)).count i : Int) = shares[i] := by
  by_cases hzero : shares[i] = 0
  · rw [h.count_deal_of_eq_zero hi hzero, hzero]
    rfl
  · obtain ⟨players, hfair, p, hp, rfl, hshare⟩ :=
      h.exists_fair hpos hi hzero shares.sum.toNat
    rw [← hshare]
    refine hfair.count_eq_share hpos ?_ hp
    rw [(h.fair hpos).length_deal hpos, Int.toNat_of_nonneg hpos.le]

theorem proportional (h : Seated shares all) (hpos : 0 < shares.sum) :
    Proportional shares
      (idle shares ++ deal shares.sum shares.sum.toNat (playing all)) := by
  constructor
  case count =>
    intro i hi
    have hle := h.nonneg _ (List.getElem_mem hi)
    rw [List.count_append, count_idle hi]
    push_cast
    rw [h.count_deal hpos hi]
    split <;> omega
  case lt_length =>
    intro i hi
    rcases List.mem_append.1 hi with hi | hi
    · exact List.mem_range.1 (List.mem_filter.1 hi).1
    · refine forall_mem_deal (p := (· < shares.length)) _ (fun p hp => ?_) i hi
      exact (List.getElem?_eq_some_iff.1 (h.getElem?_index (List.mem_filter.1 hp).1)).1
  case turns =>
    have hfair := h.fair hpos
    have hlength := hfair.length_deal hpos shares.sum.toNat
    refine ⟨_, rfl, ?_, fun k hk i hi => ?_⟩
    · rw [hlength, Int.toNat_of_nonneg hpos.le]
    · rw [hfair.take_deal hpos (hlength ▸ hk)]
      exact h.ahead hpos hi k

end Seated

/-! ## Weight lists of positive weights -/

/-- The shares of endpoints: each has its part of a range, which goes to the greatest weight. The
    range is the ratio of the greatest to the least weight, kept between 10 and 100. -/
def shares (es : List Endpoint) : List Int :=
  let weights := es.map fun e => e.weight.toInt
  let greatest := weights.max?.getD 0
  let least := weights.min?.getD 0
  weights.map fun w => w * min 100 (max 10 (greatest / least)) / greatest

/-- The player of an endpoint at a position. -/
def seat (range greatest : Int) (e : Endpoint × Nat) : Player :=
  let share := Int.tdiv (e.1.weight.toInt * range) greatest
  { index := e.2, share, text := e.1.text, score := share }

variable {es : List Endpoint}

/-- The greatest and the least weight. -/
structure Bounds (es : List Endpoint) (least greatest : Int) : Prop where
  least : (es.map fun e => e.weight.toInt).min? = some least
  greatest : (es.map fun e => e.weight.toInt).max? = some greatest

theorem exists_bounds (hne : es ≠ []) : ∃ least greatest, Bounds es least greatest := by
  cases es with
  | nil => exact absurd rfl hne
  | cons e es => exact ⟨_, _, List.min?_cons', List.max?_cons'⟩

theorem Bounds.least_le {least greatest : Int} (h : Bounds es least greatest) {e : Endpoint}
    (he : e ∈ es) : least ≤ e.weight.toInt :=
  (List.min?_eq_some_iff.1 h.least).2 _ (List.mem_map_of_mem he)

theorem Bounds.le_greatest {least greatest : Int} (h : Bounds es least greatest) {e : Endpoint}
    (he : e ∈ es) : e.weight.toInt ≤ greatest :=
  (List.max?_eq_some_iff.1 h.greatest).2 _ (List.mem_map_of_mem he)

theorem Bounds.exists_eq_greatest {least greatest : Int} (h : Bounds es least greatest) :
    ∃ e ∈ es, e.weight.toInt = greatest :=
  List.mem_map.1 (List.max?_mem h.greatest)

/-- What a weight list is built from: the players with a share take as many turns as their shares
    and what the total starts from. -/
theorem build_of_range_eq {least greatest whole start : Int} (hstatic : ∀ e ∈ es, e.isStatic = true)
    (hbounds : Bounds es least greatest) (hgreatest : 0 < greatest)
    (hrange : range least greatest = (whole, start)) :
    build es =
      let all := es.zipIdx.map (seat whole greatest)
      let total := start + ((playing all).map Player.share).sum
      some ((all.filter fun p => !decide (0 < p.share)).map Player.index ++
        deal total total.toNat (playing all)) := by
  have hany : (es.any fun e => !e.isStatic) = false := by
    simpa using hstatic
  have htotal : ∀ ps : List Player,
      ps.foldl (fun sum p => sum + p.share) start = start + (ps.map Player.share).sum := by
    intro ps
    rw [← List.sum_cons, List.sum_eq_foldl, List.foldl_cons, zero_add, List.foldl_map]
  cases es with
  | nil => exact nomatch hbounds.least
  | cons e rest =>
    obtain ⟨hmin, hmax⟩ := hbounds
    rw [List.map_cons, List.min?_cons', Option.some.injEq] at hmin
    rw [List.map_cons, List.max?_cons', Option.some.injEq] at hmax
    simp only [build, hany, List.map_cons, hmin, hmax, hrange, not_le.2 hgreatest,
      Bool.false_eq_true, if_false, htotal]
    rfl

/-- What a weight list is built from if all weights are positive. -/
theorem build_of_pos {least greatest : Int} (hstatic : ∀ e ∈ es, e.isStatic = true)
    (hbounds : Bounds es least greatest) (hleast : 0 < least) (hgreatest : 0 < greatest) :
    build es =
      let range := min 100 (max 10 (greatest / least))
      let all := es.zipIdx.map (seat range greatest)
      let total := ((playing all).map Player.share).sum
      some ((all.filter fun p => !decide (0 < p.share)).map Player.index ++
        deal total total.toNat (playing all)) := by
  have hrange : range least greatest = (min 100 (max 10 (greatest / least)), 0) := by
    rw [range, if_pos hleast, Int.tdiv_eq_ediv_of_nonneg hgreatest.le]
    rfl
  rw [build_of_range_eq hstatic hbounds hgreatest hrange]
  dsimp only
  rw [zero_add]

/-- The players of endpoints are at their positions, and have their shares. -/
theorem seated_shares {least greatest : Int} (hbounds : Bounds es least greatest)
    (hpos : ∀ e ∈ es, 0 < e.weight.toInt) (hgreatest : 0 < greatest) :
    Seated (shares es)
      (es.zipIdx.map (seat (min 100 (max 10 (greatest / least))) greatest)) := by
  have hshares : shares es = es.map fun e =>
      e.weight.toInt * min 100 (max 10 (greatest / least)) / greatest := by
    rw [shares, hbounds.least, hbounds.greatest, List.map_map]
    rfl
  have hrange : 0 ≤ min (100 : Int) (max 10 (greatest / least)) := by omega
  have hnonneg : ∀ e ∈ es, 0 ≤ e.weight.toInt * min 100 (max 10 (greatest / least)) :=
    fun e he => mul_nonneg (hpos e he).le hrange
  constructor
  case index =>
    rw [List.map_map, hshares, List.length_map, List.range_eq_range',
      ← List.zipIdx_map_snd 0 es]
    rfl
  case share =>
    calc (es.zipIdx.map (seat (min 100 (max 10 (greatest / least))) greatest)).map Player.share
      _ = (es.zipIdx.map Prod.fst).map fun e =>
          Int.tdiv (e.weight.toInt * min 100 (max 10 (greatest / least))) greatest := by
        rw [List.map_map, List.map_map]
        rfl
      _ = shares es := by
        rw [List.zipIdx_map_fst, hshares]
        exact List.map_congr_left fun e he => Int.tdiv_eq_ediv_of_nonneg (hnonneg e he)
  case score => exact List.forall_mem_map.2 fun _ _ => rfl
  case nonneg =>
    rw [hshares]
    exact List.forall_mem_map.2 fun e he => Int.ediv_nonneg (hnonneg e he) hgreatest.le

/-- The greatest weight has the whole range. -/
theorem sum_shares_pos {least greatest : Int} (hbounds : Bounds es least greatest)
    (hseated : Seated (shares es)
      (es.zipIdx.map (seat (min 100 (max 10 (greatest / least))) greatest)))
    (hgreatest : 0 < greatest) : 0 < (shares es).sum := by
  have hmem : min 100 (max 10 (greatest / least)) ∈ shares es := by
    refine List.mem_map.2 ⟨greatest, List.max?_mem hbounds.greatest, ?_⟩
    rw [hbounds.least, hbounds.greatest, Option.getD_some, Option.getD_some,
      Int.mul_ediv_cancel_left _ hgreatest.ne']
  have hle := List.single_le_sum hseated.nonneg _ hmem
  omega

theorem Bounds.exists_build {least greatest : Int} (h : Bounds es least greatest)
    (hstatic : ∀ e ∈ es, e.isStatic = true) (hpos : ∀ e ∈ es, 0 < e.weight.toInt) :
    ∃ list, build es = some list ∧ Proportional (shares es) list := by
  have hweight : ∀ w ∈ es.map fun e => e.weight.toInt, 0 < w := List.forall_mem_map.2 hpos
  have hleast := hweight least (List.min?_mem h.least)
  have hgreatest := hweight greatest (List.max?_mem h.greatest)
  have hseated := seated_shares h hpos hgreatest
  have hproportional := hseated.proportional (sum_shares_pos h hseated hgreatest)
  refine ⟨_, ?_, hproportional⟩
  rw [build_of_pos hstatic h hleast hgreatest]
  dsimp only
  rw [hseated.map_index_filter_not, hseated.sum_playing]

/-- Among endpoints with positive weights, each has its share of the weight list: it is listed as
    often as its share says, and first and once if it has none, and of the turns it never has more
    than its share. -/
theorem build_proportional (hne : es ≠ []) (hstatic : ∀ e ∈ es, e.isStatic = true)
    (hpos : ∀ e ∈ es, 0 < e.weight.toInt) :
    ∃ list, build es = some list ∧ Proportional (shares es) list := by
  obtain ⟨least, greatest, hbounds⟩ := exists_bounds hne
  exact hbounds.exists_build hstatic hpos

/-- The weights 1, 1000 and 500: the first endpoint has no share, as a hundredth of the greatest
    weight is the least that counts. -/
theorem build_proportional_skewed :
    let es : List Endpoint := [
      { host := "a", port := 1, weight := 1, weightType := .static },
      { host := "b", port := 1, weight := 1000, weightType := .static },
      { host := "c", port := 1, weight := 500, weightType := .static }]
    es ≠ [] ∧ (∀ e ∈ es, e.isStatic = true) ∧ (∀ e ∈ es, 0 < e.weight.toInt) ∧
      shares es = [0, 100, 50] ∧ ∃ list, build es = some list ∧ Proportional (shares es) list :=
  ⟨by decide, by decide, by decide, by decide,
    build_proportional (by decide) (by decide) (by decide)⟩

end TaggedRpc.Selection.WeightList
