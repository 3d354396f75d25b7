import TaggedRpc.Proofs.Selection.Shares

/-!
# Weight lists where some weights are not positive

One endpoint whose weight is not positive makes the range of shares 1, and the total start from 1.
Then only the endpoints of the greatest weight have a share. They take a round of turns, on which
each is listed once (`WeightList.Round`), and one turn more, since the total is one more than the
shares: it goes to the one whose text is last. So every position is listed once, whatever its
weight, and one of the greatest weight twice (`build_of_nonpos`).

Such a list has nothing to do with the one of the positive weights alone, which has the greatest
ten times or more. An endpoint that has no weight takes its own place only, but it takes away what
the others have by their weights, and of two equal weights one may come up twice as often as the
other (`build_places`).
-/

namespace TaggedRpc.Selection.WeightList

variable {es : List Endpoint} {players : List Player} {listed : List Nat} {p : Player}

/-! ## A round among players of one share -/

/-- Where the first round stands, among players who have one share each and are at some places:
    positions, with the texts of the endpoints. -/
structure Round (places : List (Nat × String)) (listed : List Nat) (players : List Player) :
    Prop where
  seated : (players.map fun p => (p.index, p.text)).Perm places
  indices : (players.map Player.index).Nodup
  share : ∀ p ∈ players, p.share = 1
  /-- Nobody has been listed twice. -/
  nodup : listed.Nodup
  subset : listed ⊆ players.map Player.index
  /-- Who waits has been paid on every turn. -/
  waiting : ∀ p ∈ players, p.index ∉ listed → p.score = listed.length + 1
  /-- Who has been listed has paid the total, which is one more than the players are. -/
  served : ∀ p ∈ players, p.index ∈ listed → p.score = listed.length - places.length

namespace Round

variable {places : List (Nat × String)}

theorem length_eq (h : Round places listed players) : players.length = places.length := by
  rw [← h.seated.length_eq, List.length_map]

theorem ne_nil (h : Round places listed players) (hne : places ≠ []) : players ≠ [] := by
  rw [← List.length_pos_iff, h.length_eq]
  exact List.length_pos_iff.2 hne

theorem perm {players' : List Player} (h : Round places listed players)
    (hperm : players.Perm players') : Round places listed players' where
  seated := (hperm.map _).symm.trans h.seated
  indices := (hperm.map _).nodup_iff.1 h.indices
  share p hp := h.share p (hperm.mem_iff.2 hp)
  nodup := h.nodup
  subset _ hi := (hperm.map _).mem_iff.1 (h.subset hi)
  waiting p hp := h.waiting p (hperm.mem_iff.2 hp)
  served p hp := h.served p (hperm.mem_iff.2 hp)

/-- As long as the round is not over, somebody waits. -/
theorem exists_waiting (h : Round places listed players) (hlt : listed.length < places.length) :
    ∃ p ∈ players, p.index ∉ listed := by
  -- Else the players, whose positions are distinct, would be no more than those listed.
  by_contra hall
  push Not at hall
  have hsubset : players.map Player.index ⊆ listed := List.forall_mem_map.2 hall
  have hle := (List.subperm_of_subset h.indices hsubset).length_le
  rw [List.length_map, h.length_eq] at hle
  omega

/-- Who waits comes before who has been listed. -/
theorem index_notMem_of_le {top : Player} {others : List Player}
    (h : Round places listed (top :: others)) (hlt : listed.length < places.length)
    (htop : ∀ p ∈ others, p.score ≤ top.score) : top.index ∉ listed := by
  intro hmem
  obtain ⟨p, hp, hwaits⟩ := h.exists_waiting hlt
  have hscore := h.waiting p hp hwaits
  have htopscore := h.served top List.mem_cons_self hmem
  rcases List.mem_cons.1 hp with rfl | hp
  · exact hwaits hmem
  · have hle := htop p hp
    omega

/-- One more turn, on which one that waits is listed. -/
theorem pay {top : Player} {others : List Player} (h : Round places listed (top :: others))
    (hwaits : top.index ∉ listed) :
    Round places (listed ++ [top.index])
      (top.pay (places.length + 1) :: others.map Player.gain) := by
  have hindices : (top.pay (places.length + 1) :: others.map Player.gain).map Player.index =
      (top :: others).map Player.index := by
    rw [List.map_cons, List.map_cons, List.map_map]
    rfl
  have hne : ∀ p ∈ others, p.index ≠ top.index := fun p hp heq =>
    (List.nodup_cons.1 h.indices).1 (heq ▸ List.mem_map_of_mem hp)
  have hlength : ((listed ++ [top.index]).length : Int) = listed.length + 1 := by
    rw [List.length_append, List.length_singleton]
    rfl
  constructor
  case seated =>
    refine List.Perm.trans (.of_eq ?_) h.seated
    rw [List.map_cons, List.map_cons, List.map_map]
    rfl
  case indices => exact hindices ▸ h.indices
  case share =>
    refine List.forall_mem_cons.2 ⟨h.share top List.mem_cons_self, ?_⟩
    exact List.forall_mem_map.2 fun p hp => h.share p (List.mem_cons_of_mem _ hp)
  case nodup =>
    rw [← List.concat_eq_append]
    exact h.nodup.concat hwaits
  case subset =>
    rw [hindices]
    exact List.append_subset.2 ⟨h.subset, by simp⟩
  case waiting =>
    refine List.forall_mem_cons.2 ⟨fun hnot => absurd (by simp [Player.pay]) hnot, ?_⟩
    refine List.forall_mem_map.2 fun p hp hnot => ?_
    have hmem := List.mem_cons_of_mem top hp
    have hscore := h.waiting p hmem fun hin => hnot (List.mem_append_left _ hin)
    have hshare := h.share p hmem
    rw [hlength, Player.gain]
    dsimp only
    omega
  case served =>
    refine List.forall_mem_cons.2 ⟨fun _ => ?_, List.forall_mem_map.2 fun p hp hin => ?_⟩
    · have hscore := h.waiting top List.mem_cons_self hwaits
      have hshare := h.share top List.mem_cons_self
      rw [hlength, Player.pay]
      dsimp only
      omega
    · have hmem := List.mem_cons_of_mem top hp
      have hlisted : p.index ∈ listed := (List.mem_append.1 hin).resolve_right fun heq =>
        hne p hp (List.mem_singleton.1 heq)
      have hscore := h.served p hmem hlisted
      have hshare := h.share p hmem
      rw [hlength, Player.gain]
      dsimp only
      omega

/-- A turn of the round. -/
theorem turn (h : Round places listed players) (hlt : listed.length < places.length) :
    ∃ i, (WeightList.turn (places.length + 1) players).1 = some i ∧
      Round places (listed ++ [i]) (WeightList.turn (places.length + 1) players).2 := by
  have hne : places ≠ [] := List.length_pos_iff.1 (Nat.zero_lt_of_lt hlt)
  obtain ⟨top, others, hperm, htop, hturn⟩ := exists_turn_eq (h.ne_nil hne) (places.length + 1)
  have hround := h.perm hperm
  rw [hturn]
  exact ⟨top.index, rfl, hround.pay (hround.index_notMem_of_le hlt fun p hp =>
    Player.score_le_of_le (htop p hp))⟩

/-- After the round all have been listed. -/
theorem perm_index (h : Round places listed players) (hlength : listed.length = places.length) :
    listed.Perm (players.map Player.index) := by
  refine (List.subperm_of_subset h.nodup h.subset).perm_of_length_le ?_
  rw [List.length_map, h.length_eq, hlength]

/-- After the round all have equal scores: the next turn goes by the texts. -/
theorem turn_of_length_eq (h : Round places listed players) (hne : places ≠ [])
    (hlength : listed.length = places.length) :
    ∃ last ∈ places, (WeightList.turn (places.length + 1) players).1 = some last.1 ∧
      ∀ place ∈ places, place.2 ≤ last.2 := by
  obtain ⟨top, others, hperm, htop, hturn⟩ := exists_turn_eq (h.ne_nil hne) (places.length + 1)
  have hlisted : ∀ p ∈ players, p.index ∈ listed := fun p hp =>
    (h.perm_index hlength).mem_iff.2 (List.mem_map_of_mem hp)
  have hscore : ∀ p ∈ players, p.score = 0 := fun p hp => by
    rw [h.served p hp (hlisted p hp), hlength, sub_self]
  have hmem : top ∈ players := hperm.mem_iff.2 List.mem_cons_self
  have htext : ∀ p ∈ players, p.text ≤ top.text := by
    intro p hp
    rcases List.mem_cons.1 (hperm.mem_iff.1 hp) with rfl | hother
    · exact String.le_refl _
    · have hle := htop p hother
      rw [Player.le, hscore p hp, hscore top hmem] at hle
      simpa using hle
  refine ⟨(top.index, top.text), h.seated.mem_iff.1 (List.mem_map_of_mem hmem), by rw [hturn], ?_⟩
  intro place hplace
  obtain ⟨p, hp, rfl⟩ := List.mem_map.1 (h.seated.mem_iff.2 hplace)
  exact htext p hp

/-- What is dealt from a time within the round on, up to the turn after it. -/
theorem deal (h : Round places listed players) (hne : places ≠ []) {turns : Nat}
    (hturns : listed.length + turns = places.length) :
    ∃ round, ∃ last ∈ places,
      WeightList.deal (places.length + 1) (turns + 1) players = round ++ [last.1] ∧
      (listed ++ round).Perm (places.map Prod.fst) ∧ ∀ place ∈ places, place.2 ≤ last.2 := by
  -- By induction on the turns that the round still has; the last one is the one after it.
  induction turns generalizing listed players with
  | zero =>
    obtain ⟨last, hlast, hturn, htext⟩ := h.turn_of_length_eq hne hturns
    refine ⟨[], last, hlast, ?_, ?_, htext⟩
    · rw [WeightList.deal]
      dsimp only
      rw [hturn]
      rfl
    · have hplaces := h.seated.map Prod.fst
      rw [List.map_map] at hplaces
      rw [List.append_nil]
      exact (h.perm_index hturns).trans hplaces
  | succ turns ih =>
    obtain ⟨i, hi, hround⟩ := h.turn (by omega)
    obtain ⟨round, last, hlast, hdeal, hperm, htext⟩ :=
      ih hround (by rw [List.length_append, List.length_singleton]; omega)
    refine ⟨i :: round, last, hlast, ?_, ?_, htext⟩
    · rw [WeightList.deal]
      dsimp only
      rw [hi, hdeal]
      rfl
    · rwa [List.append_assoc] at hperm

end Round

/-! ## Who has a share -/

/-- What a weight list is built from if some weight is not positive. -/
theorem build_eq_of_nonpos {least greatest : Int} (hstatic : ∀ e ∈ es, e.isStatic = true)
    (hbounds : Bounds es least greatest) (hleast : least ≤ 0) (hgreatest : 0 < greatest) :
    build es =
      let all := es.zipIdx.map (seat 1 greatest)
      let total := 1 + ((playing all).map Player.share).sum
      some ((all.filter fun p => !decide (0 < p.share)).map Player.index ++
        deal total total.toNat (playing all)) :=
  build_of_range_eq hstatic hbounds hgreatest (if_neg (not_lt.2 hleast))

/-- In a range of 1, the endpoints of the greatest weight have one share each, and the others have
    none. -/
theorem seat_one_share {greatest : Int} {e : Endpoint} (hgreatest : 0 < greatest)
    (hle : e.weight.toInt ≤ greatest) (i : Nat) :
    (seat 1 greatest (e, i)).share = 1 ∧ e.weight.toInt = greatest ∨
      (seat 1 greatest (e, i)).share ≤ 0 ∧ e.weight.toInt < greatest := by
  have hshare : (seat 1 greatest (e, i)).share = e.weight.toInt.tdiv greatest := by
    rw [seat, mul_one]
  rw [hshare]
  rcases hle.eq_or_lt with heq | hlt
  · exact .inl ⟨by rw [heq, Int.tdiv_self hgreatest.ne'], heq⟩
  refine .inr ⟨?_, hlt⟩
  rcases le_or_gt 0 e.weight.toInt with hnonneg | hneg
  · exact (Int.tdiv_eq_zero_of_lt hnonneg hlt).le
  · have habs := Int.tdiv_nonneg (neg_nonneg.2 hneg.le) hgreatest.le
    rw [Int.neg_tdiv] at habs
    omega

/-- An endpoint has the greatest weight, and of those that have it the last text. -/
structure Foremost (es : List Endpoint) (top : Nat) : Prop where
  lt_length : top < es.length
  weight : ∀ e ∈ es, e.weight.toInt ≤ es[top].weight.toInt
  text : ∀ e ∈ es, e.weight = es[top].weight → e.text ≤ es[top].text

/-- The places of the players who have a share. -/
def sharers (greatest : Int) (es : List Endpoint) : List (Nat × String) :=
  (playing (es.zipIdx.map (seat 1 greatest))).map fun p => (p.index, p.text)

theorem mem_sharers_iff {greatest : Int} {place : Nat × String} (hgreatest : 0 < greatest)
    (hle : ∀ e ∈ es, e.weight.toInt ≤ greatest) : place ∈ sharers greatest es ↔
      ∃ e, es[place.1]? = some e ∧ e.weight.toInt = greatest ∧ e.text = place.2 := by
  constructor
  · intro hplace
    obtain ⟨p, hp, rfl⟩ := List.mem_map.1 hplace
    obtain ⟨hp, hshare⟩ := List.mem_filter.1 hp
    obtain ⟨⟨e, i⟩, he, rfl⟩ := List.mem_map.1 hp
    have hget := List.mem_zipIdx_iff_getElem?.1 he
    have hmem := List.mem_of_getElem? hget
    refine ⟨e, hget, ?_, rfl⟩
    rcases seat_one_share hgreatest (hle e hmem) i with ⟨-, heq⟩ | ⟨hnone, -⟩
    · exact heq
    · exact absurd (of_decide_eq_true hshare) (not_lt.2 hnone)
  · obtain ⟨i, text⟩ := place
    rintro ⟨e, hget, heq, rfl⟩
    refine List.mem_map.2 ⟨seat 1 greatest (e, i), List.mem_filter.2 ⟨?_, ?_⟩, rfl⟩
    · exact List.mem_map_of_mem (List.mem_zipIdx_iff_getElem?.2 hget)
    · rcases seat_one_share hgreatest heq.le i with ⟨hone, -⟩ | ⟨-, hlt⟩
      · rw [hone]
        rfl
      · exact absurd heq hlt.ne

theorem map_index_seat (range greatest : Int) (es : List Endpoint) :
    (es.zipIdx.map (seat range greatest)).map Player.index = List.range es.length := by
  rw [List.map_map, List.range_eq_range', ← List.zipIdx_map_snd 0 es]
  rfl

/-- Before the first turn of the round. -/
theorem round_sharers {greatest : Int} (hgreatest : 0 < greatest)
    (hle : ∀ e ∈ es, e.weight.toInt ≤ greatest) :
    Round (sharers greatest es) [] (playing (es.zipIdx.map (seat 1 greatest))) := by
  have hone : ∀ p ∈ playing (es.zipIdx.map (seat 1 greatest)), p.share = 1 ∧ p.score = 1 := by
    intro p hp
    obtain ⟨hp, hshare⟩ := List.mem_filter.1 hp
    obtain ⟨⟨e, i⟩, he, rfl⟩ := List.mem_map.1 hp
    have hmem := List.mem_of_getElem? (List.mem_zipIdx_iff_getElem?.1 he)
    rcases seat_one_share hgreatest (hle e hmem) i with ⟨hone, -⟩ | ⟨hnone, -⟩
    · exact ⟨hone, hone⟩
    · exact absurd (of_decide_eq_true hshare) (not_lt.2 hnone)
  constructor
  case seated => exact .refl _
  case indices =>
    have hnodup : ((es.zipIdx.map (seat 1 greatest)).map Player.index).Nodup :=
      map_index_seat .. ▸ List.nodup_range
    exact hnodup.sublist (List.filter_sublist.map _)
  case share => exact fun p hp => (hone p hp).1
  case nodup => exact .nil
  case subset => exact List.nil_subset _
  case waiting => exact fun p hp _ => (hone p hp).2
  case served => exact fun _ _ hin => absurd hin List.not_mem_nil

/-- Beside a weight that is not positive, every position is listed once, and one of the greatest
    weight twice. -/
theorem build_of_nonpos (hstatic : ∀ e ∈ es, e.isStatic = true)
    (hpos : ∃ e ∈ es, 0 < e.weight.toInt) (hnonpos : ∃ e ∈ es, e.weight.toInt ≤ 0) :
    ∃ list top, build es = some list ∧ Foremost es top ∧
      list.Perm (top :: List.range es.length) := by
  obtain ⟨e, he, hepos⟩ := hpos
  obtain ⟨x, hx, hxnonpos⟩ := hnonpos
  obtain ⟨least, greatest, hbounds⟩ := exists_bounds (List.ne_nil_of_mem he)
  have hle : ∀ e ∈ es, e.weight.toInt ≤ greatest := fun e he => hbounds.le_greatest he
  have hgreatest : 0 < greatest := hepos.trans_le (hle e he)
  have hleast : least ≤ 0 := (hbounds.least_le hx).trans hxnonpos
  have hround := round_sharers hgreatest hle
  have hne : sharers greatest es ≠ [] := by
    obtain ⟨e, he, heq⟩ := hbounds.exists_eq_greatest
    obtain ⟨i, hi⟩ := List.getElem?_of_mem he
    have hmem : (i, e.text) ∈ sharers greatest es :=
      (mem_sharers_iff hgreatest hle).2 ⟨e, hi, heq, rfl⟩
    exact List.ne_nil_of_mem hmem
  obtain ⟨round, last, hlast, hdeal, hperm, htext⟩ := hround.deal hne (Nat.zero_add _)
  obtain ⟨e, hget, heq, hlasttext⟩ := (mem_sharers_iff hgreatest hle).1 hlast
  obtain ⟨hlt, rfl⟩ := List.getElem?_eq_some_iff.1 hget
  have hbuild := build_eq_of_nonpos hstatic hbounds hleast hgreatest
  have htotal : ((playing (es.zipIdx.map (seat 1 greatest))).map Player.share).sum =
      (sharers greatest es).length := by
    rw [List.sum_eq_card_nsmul _ 1 (List.forall_mem_map.2 hround.share), List.length_map,
      hround.length_eq, nsmul_one]
  dsimp only at hbuild
  rw [htotal, add_comm, Int.toNat_natCast_add_one, hdeal] at hbuild
  refine ⟨_, last.1, hbuild, ⟨hlt, ?_, ?_⟩, ?_⟩
  · exact fun e he => heq ▸ hle e he
  · intro e he hweight
    obtain ⟨i, hi⟩ := List.getElem?_of_mem he
    have hmem : (i, e.text) ∈ sharers greatest es :=
      (mem_sharers_iff hgreatest hle).2 ⟨e, hi, hweight ▸ heq, rfl⟩
    rw [hlasttext]
    exact htext (i, e.text) hmem
  · have hall := ((List.perm_append_comm.trans (List.filter_append_perm
      (fun p : Player => decide (0 < p.share)) (es.zipIdx.map (seat 1 greatest)))).map Player.index)
    rw [List.map_append, map_index_seat] at hall
    have hround : round.Perm ((playing (es.zipIdx.map (seat 1 greatest))).map Player.index) := by
      rwa [List.nil_append, sharers, List.map_map] at hperm
    rw [← List.append_assoc]
    exact (List.perm_append_singleton _ _).trans (((hround.append_left _).trans hall).cons _)

/-! ## Beside the list of the positive weights alone -/

/-- The endpoints whose weights are positive. -/
def weighty (es : List Endpoint) : List Endpoint := es.filter fun e => 0 < e.weight.toInt

/-- How many endpoints with positive weights come before a position: where an endpoint that has
    one is among these. -/
def rank (es : List Endpoint) (i : Nat) : Nat := (es.take i).countP fun e => 0 < e.weight.toInt

theorem getElem?_rank_weighty {i : Nat} (hi : i < es.length) (hpos : 0 < es[i].weight.toInt) :
    (weighty es)[rank es i]? = some es[i] := by
  have hsplit : weighty es = weighty (es.take i) ++ es[i] :: weighty (es.drop (i + 1)) := by
    conv_lhs => rw [← List.take_append_drop i es, List.drop_eq_getElem_cons hi]
    rw [weighty, List.filter_append, List.filter_cons_of_pos (by simpa using hpos)]
    rfl
  have hrank : rank es i = (weighty (es.take i)).length := List.countP_eq_length_filter
  rw [hsplit, hrank, List.getElem?_append_right le_rfl, Nat.sub_self]
  rfl

theorem weighty_eq_self (hpos : ∀ e ∈ es, 0 < e.weight.toInt) : weighty es = es :=
  List.filter_eq_self.2 fun e he => by simpa using hpos e he

theorem rank_eq_self (hpos : ∀ e ∈ es, 0 < e.weight.toInt) {i : Nat} (hi : i < es.length) :
    rank es i = i := by
  have hall : ∀ e ∈ es.take i, decide (0 < e.weight.toInt) = true := fun e he => by
    simpa using hpos e (List.mem_of_mem_take he)
  rw [rank, List.countP_eq_length.2 hall, List.length_take]
  exact min_eq_left hi.le

/-- Among positive weights equal ones have equally many places, and the greatest has ten at
    least. -/
theorem exists_count_build (hne : es ≠ []) (hstatic : ∀ e ∈ es, e.isStatic = true)
    (hpos : ∀ e ∈ es, 0 < e.weight.toInt) :
    ∃ list, build es = some list ∧
      (∀ i j (hi : i < es.length) (hj : j < es.length), es[i].weight = es[j].weight →
        list.count i = list.count j) ∧
      ∀ i (hi : i < es.length), (∀ e ∈ es, e.weight.toInt ≤ es[i].weight.toInt) →
        10 ≤ list.count i := by
  obtain ⟨least, greatest, hbounds⟩ := exists_bounds hne
  obtain ⟨list, hbuild, hproportional⟩ := hbounds.exists_build hstatic hpos
  have hcount : ∀ i (hi : i < es.length), (list.count i : Int) =
      max 1 (es[i].weight.toInt * min 100 (max 10 (greatest / least)) / greatest) := by
    intro i hi
    have hshare : (shares es)[i]? =
        some (es[i].weight.toInt * min 100 (max 10 (greatest / least)) / greatest) := by
      rw [shares, hbounds.least, hbounds.greatest, List.map_map, List.getElem?_map,
        List.getElem?_eq_getElem hi]
      rfl
    obtain ⟨hlt, heq⟩ := List.getElem?_eq_some_iff.1 hshare
    rw [hproportional.count i hlt, heq]
  refine ⟨list, hbuild, fun i j hi hj heq => ?_, fun i hi hmax => ?_⟩
  · have hcounti := hcount i hi
    rw [heq, ← hcount j hj] at hcounti
    exact Int.ofNat_inj.1 hcounti
  · obtain ⟨e, he, rfl⟩ := hbounds.exists_eq_greatest
    have heq := le_antisymm (hbounds.le_greatest (List.getElem_mem hi)) (hmax e he)
    have hcounti := hcount i hi
    rw [heq, Int.mul_ediv_cancel_left _ (hpos e he).ne'] at hcounti
    omega

/-- In the list of the positive weights alone, the greatest weight has ten places at least. -/
theorem exists_build_weighty (hstatic : ∀ e ∈ es, e.isStatic = true)
    (hpos : ∃ e ∈ es, 0 < e.weight.toInt) :
    ∃ alone, build (weighty es) = some alone ∧
      ∀ top, Foremost es top → 10 ≤ alone.count (rank es top) := by
  obtain ⟨e, he, hepos⟩ := hpos
  have hmem : ∀ e ∈ weighty es, e ∈ es ∧ 0 < e.weight.toInt := fun e he =>
    (List.mem_filter.1 he).imp id of_decide_eq_true
  have hne : weighty es ≠ [] :=
    List.ne_nil_of_mem (List.mem_filter.2 ⟨he, decide_eq_true hepos⟩)
  obtain ⟨alone, halone, -, hgreatest⟩ := exists_count_build hne
    (fun e he => hstatic e (hmem e he).1) fun e he => (hmem e he).2
  refine ⟨alone, halone, ?_⟩
  rintro top ⟨htop, hmax, -⟩
  have hget := getElem?_rank_weighty htop (hepos.trans_le (hmax e he))
  obtain ⟨hlt, heq⟩ := List.getElem?_eq_some_iff.1 hget
  exact hgreatest _ hlt fun e he => heq ▸ hmax e (hmem e he).1

/-- Every endpoint whose weight is not positive has one place in a weight list. Those with
    positive weights have the places that they have without the others if and only if there are
    no others: then equal weights have equally many. Else all have one place, and one of the
    greatest weight, which has ten or more without the others, has one more. -/
theorem build_places (hstatic : ∀ e ∈ es, e.isStatic = true)
    (hpos : ∃ e ∈ es, 0 < e.weight.toInt) :
    ∃ list alone, build es = some list ∧ build (weighty es) = some alone ∧
      (∀ i (hi : i < es.length), es[i].weight.toInt ≤ 0 → list.count i = 1) ∧
      ((∀ i (hi : i < es.length), 0 < es[i].weight.toInt →
        list.count i = alone.count (rank es i)) ↔ ∀ e ∈ es, 0 < e.weight.toInt) ∧
      ((∀ e ∈ es, 0 < e.weight.toInt) → ∀ i j (hi : i < es.length) (hj : j < es.length),
        es[i].weight = es[j].weight → list.count i = list.count j) ∧
      ((∃ e ∈ es, e.weight.toInt ≤ 0) → ∃ top, Foremost es top ∧
        list.Perm (top :: List.range es.length) ∧ 10 ≤ alone.count (rank es top)) := by
  by_cases hall : ∀ e ∈ es, 0 < e.weight.toInt
  · obtain ⟨e, he, -⟩ := hpos
    obtain ⟨list, hbuild, hequal, -⟩ := exists_count_build (List.ne_nil_of_mem he) hstatic hall
    refine ⟨list, list, hbuild, by rwa [weighty_eq_self hall], fun i hi hnonpos => ?_,
      iff_of_true (fun i hi _ => by rw [rank_eq_self hall hi]) hall, fun _ => hequal, ?_⟩
    · exact absurd (hall _ (List.getElem_mem hi)) (not_lt.2 hnonpos)
    · rintro ⟨e, he, hnonpos⟩
      exact absurd (hall e he) (not_lt.2 hnonpos)
  · have hnonpos : ∃ e ∈ es, e.weight.toInt ≤ 0 := by
      push Not at hall
      exact hall
    obtain ⟨list, top, hbuild, hforemost, hperm⟩ := build_of_nonpos hstatic hpos hnonpos
    obtain ⟨alone, halone, hten⟩ := exists_build_weighty hstatic hpos
    obtain ⟨e, he, hepos⟩ := hpos
    have htop := hforemost.lt_length
    have htoppos : 0 < es[top].weight.toInt := hepos.trans_le (hforemost.weight e he)
    have hcount : ∀ i < es.length, list.count i = if i = top then 2 else 1 := by
      intro i hi
      rw [hperm.count_eq, List.count_cons,
        List.count_eq_one_of_mem List.nodup_range (List.mem_range.2 hi)]
      grind
    refine ⟨list, alone, hbuild, halone, fun i hi hle => ?_, iff_of_false (fun hsame => ?_) hall,
      fun h => absurd h hall, fun _ => ⟨top, hforemost, hperm, hten top hforemost⟩⟩
    · rw [hcount i hi, if_neg]
      rintro rfl
      omega
    · have hsame := hsame top htop htoppos
      have htentop := hten top hforemost
      rw [hcount top htop, if_pos rfl] at hsame
      omega

/-- An endpoint of weight 0, and two of weight 50. -/
def uneven : List Endpoint := [
  { host := "a", port := 1, weight := 0, weightType := .static },
  { host := "b", port := 1, weight := 50, weightType := .static },
  { host := "c", port := 1, weight := 50, weightType := .static }]

theorem build_places_uneven :
    (∀ e ∈ uneven, e.isStatic = true) ∧ (∃ e ∈ uneven, 0 < e.weight.toInt) ∧
      (∃ e ∈ uneven, e.weight.toInt ≤ 0) ∧ ∃ list alone top, build uneven = some list ∧
        build (weighty uneven) = some alone ∧ Foremost uneven top ∧
        list.Perm (top :: List.range 3) ∧ 10 ≤ alone.count (rank uneven top) := by
  have hstatic : ∀ e ∈ uneven, e.isStatic = true := by decide
  have hpos : ∃ e ∈ uneven, 0 < e.weight.toInt := by decide
  have hnonpos : ∃ e ∈ uneven, e.weight.toInt ≤ 0 := by decide
  obtain ⟨list, alone, hbuild, halone, -, -, -, hmixed⟩ := build_places hstatic hpos
  obtain ⟨top, hforemost, hperm, hten⟩ := hmixed hnonpos
  exact ⟨hstatic, hpos, hnonpos, list, alone, top, hbuild, halone, hforemost, hperm, hten⟩

/-- The endpoint of weight 0 distorts the others: they have equal weights, and one of them has one
    place, and the other two. -/
theorem not_forall_places_kept :
    ¬ ∀ es : List Endpoint, (∀ e ∈ es, e.isStatic = true) → (∃ e ∈ es, 0 < e.weight.toInt) →
      ∃ list alone, build es = some list ∧ build (weighty es) = some alone ∧
        (∀ i (hi : i < es.length), es[i].weight.toInt ≤ 0 → list.count i = 1) ∧
        (∀ i (hi : i < es.length), 0 < es[i].weight.toInt →
          list.count i = alone.count (rank es i)) ∧
        ∀ i j (hi : i < es.length) (hj : j < es.length), 0 < es[i].weight.toInt →
          es[i].weight = es[j].weight → list.count i = list.count j := by
  intro hkept
  have hstatic : ∀ e ∈ uneven, e.isStatic = true := by decide
  have hpos : ∃ e ∈ uneven, 0 < e.weight.toInt := by decide
  obtain ⟨list, alone, hbuild, -, -, -, hequal⟩ := hkept uneven hstatic hpos
  obtain ⟨_, top, hbuild', hforemost, hperm⟩ := build_of_nonpos hstatic hpos (by decide)
  cases hbuild.symm.trans hbuild'
  have hsame := hequal 1 2 (by decide) (by decide) (by decide) rfl
  rw [hperm.count_eq, hperm.count_eq] at hsame
  have htop : top < 3 := hforemost.lt_length
  have hcases : top = 0 ∨ top = 1 ∨ top = 2 := by omega
  rcases hcases with rfl | rfl | rfl
  · have hle : (50 : Int) ≤ 0 :=
      hforemost.weight _ (List.mem_cons_of_mem _ List.mem_cons_self)
    exact absurd hle (by decide)
  · exact absurd hsame (by decide)
  · exact absurd hsame (by decide)

end TaggedRpc.Selection.WeightList
