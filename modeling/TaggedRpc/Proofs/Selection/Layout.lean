import TaggedRpc.Proofs.Selection.History
import TaggedRpc.Proofs.Selection.RingStability

/-!
# A ring depends on its members only

After any changes the points of a ring are those of the endpoints in it, each with all of
its points, in their order (`Ring.layout`). They do not tell how the members came
together, so clients that know of the same members route every code alike, whatever they
were told, and in which order (`Ring.changes_determined`). This holds of every digest.

Points come in behind the others and are sorted afterwards, and they go one by one out of
the midst of the others. What is kept by both is that the points are *some* arrangement of
the points of the members (`Ring.Holds`). The order makes it one arrangement: two points
that it does not tell apart have one place and owners that are the same, so the owner is one
member, and the points are equal.
-/

namespace TaggedRpc.Selection

/-! ## Owners of codes -/

/-- The owner of a code on a row of points: that of the first point at or after the code,
    or of the first of all if every point is before it. -/
inductive Owner (code : UInt32) : List Point → Endpoint → Prop
  | reached {before after : List Point} {p : Point} : (∀ q ∈ before, q.place < code) →
    code ≤ p.place → Owner code (before ++ p :: after) p.owner
  | wrapped {after : List Point} {p : Point} : (∀ q ∈ p :: after, q.place < code) →
    Owner code (p :: after) p.owner

/-- A code finds its owner, if there are points at all. -/
theorem owner_of_first?_eq_some {code : UInt32} {ps : List Point} {p : Point}
    (h : first? code ps = some p) : Owner code ps p.owner := by
  rw [first?, Option.or_eq_some_iff] at h
  rcases h with h | ⟨hnone, h⟩
  · obtain ⟨hreach, before, after, rfl, hbefore⟩ := List.find?_eq_some_iff_append.1 h
    refine .reached (fun q hq => ?_) (of_decide_eq_true hreach)
    simpa using hbefore q hq
  · obtain ⟨after, rfl⟩ := List.head?_eq_some_iff.1 h
    refine .wrapped fun q hq => ?_
    simpa using List.find?_eq_none.1 hnone q hq

/-- No other endpoint is the owner of a code. -/
theorem Owner.first?_eq {code : UInt32} {ps : List Point} {e : Endpoint} (h : Owner code ps e) :
    (first? code ps).map Point.owner = some e := by
  cases h with
  | @reached before after p hbefore hreach =>
    have hnone : before.find? (fun q => decide (code ≤ q.place)) = none :=
      List.find?_eq_none.2 fun q hq => by simpa using hbefore q hq
    rw [first?, List.find?_append, hnone, List.find?_cons_of_pos (by simpa using hreach)]
    rfl
  | @wrapped after p hbefore =>
    have hnone : (p :: after).find? (fun q => decide (code ≤ q.place)) = none :=
      List.find?_eq_none.2 fun q hq => by simpa using hbefore q hq
    rw [first?, hnone]
    rfl

namespace Ring

variable {digest : String → Digest.Md5.State} {weighted : Bool} {rule : PointRule}
  {r r' blank : Ring} {es es' : List Endpoint} {e : Endpoint} {code : UInt32}

theorem select_eq_ok_iff : r.select code = .ok e ↔ Owner code r.points e := by
  rw [select, find?_eq_first?]
  constructor
  · intro h
    cases hfirst : first? code r.points with
    | none =>
      rw [hfirst] at h
      cases h
    | some p =>
      rw [hfirst] at h
      cases h
      exact owner_of_first?_eq_some hfirst
  · intro h
    rw [h.first?_eq]

theorem select_eq_error_iff : r.select code = .error (.empty name) ↔ r.points = [] := by
  rw [select, find?_eq_first?]
  constructor
  · intro h
    cases hfirst : first? code r.points with
    | none => exact eq_nil_of_first?_eq_none hfirst
    | some p =>
      rw [hfirst] at h
      cases h
  · intro h
    rw [h]
    rfl

/-! ## The points of the members -/

/-- The points of members, in their order. -/
def layout (r : Ring) (digest : String → Digest.Md5.State) (es : List Endpoint) : List Point :=
  (es.flatMap fun e => r.ownPoints e digest).mergeSort Point.le

/-- A ring of the kind of a blank one holds members: it has their keys and their points. -/
structure Holds (digest : String → Digest.Md5.State) (blank r : Ring) (es : List Endpoint) :
    Prop where
  weighted : r.weighted = blank.weighted
  rule : r.rule = blank.rule
  listing : Listing r.keys es
  points : r.points.Perm (es.flatMap fun e => blank.ownPoints e digest)

/-- How many points an endpoint has, and where, depends on the kind of the ring only. -/
theorem Holds.ownPoints_eq (h : Holds digest blank r es) (e : Endpoint) :
    r.ownPoints e digest = blank.ownPoints e digest := by
  rw [ownPoints, ownPoints, pointsFor, pointsFor, virtualNodes, virtualNodes, h.weighted, h.rule]

theorem Holds.empty (hkeys : blank.keys = []) (hpoints : blank.points = []) :
    Holds digest blank blank [] :=
  ⟨rfl, rfl, hkeys ▸ .nil, .of_eq hpoints⟩

theorem Holds.sort (h : Holds digest blank r es) : Holds digest blank r.sort es :=
  ⟨h.weighted, h.rule, h.listing, (List.mergeSort_perm ..).trans h.points⟩

theorem Holds.insert (h : Holds digest blank r es) (e : Endpoint) :
    Holds digest blank ((r.insert e digest).toOption.getD r) (Change.join es e) := by
  by_cases hkey : e.key ∈ r.keys
  · rw [insert_of_mem hkey, h.listing.join_of_mem hkey]
    exact h
  · rw [insert_of_not_mem hkey, h.listing.join_of_not_mem hkey, h.ownPoints_eq]
    refine ⟨h.weighted, h.rule, h.listing.concat hkey, ?_⟩
    rw [List.flatMap_append, List.flatMap_singleton]
    exact h.points.append_right _

theorem Holds.add (h : Holds digest blank r es) (e : Endpoint) :
    Holds digest blank ((r.add e digest).toOption.getD r) (Change.join es e) := by
  have hinsert := h.insert e
  by_cases hkey : e.key ∈ r.keys
  · rw [Ring.add, insert_of_mem hkey]
    rw [insert_of_mem hkey] at hinsert
    exact hinsert
  · rw [add_of_not_mem hkey]
    rw [insert_of_not_mem hkey] at hinsert
    exact hinsert.sort

/-- An endpoint that goes takes its own points with it, and no others. -/
theorem filter_isOther_ownPoints (x : Endpoint) : (r.ownPoints x digest).filter (Point.isOther e) =
    if x.Same e then [] else r.ownPoints x digest := by
  split
  · next hsame =>
    refine List.filter_eq_nil_iff.2 fun p hp => ?_
    rw [Point.isOther_iff, mem_ownPoints hp]
    exact not_not_intro hsame
  · next hother =>
    refine List.filter_eq_self.2 fun p hp => ?_
    rwa [Point.isOther_iff, mem_ownPoints hp]

theorem filter_isOther_flatMap (r : Ring) (e : Endpoint) (es : List Endpoint) :
    (es.flatMap fun x => r.ownPoints x digest).filter (Point.isOther e) =
      (Change.leave es e).flatMap fun x => r.ownPoints x digest := by
  induction es with
  | nil => rfl
  | cons x es ih =>
    rw [List.flatMap_cons, List.filter_append, ih, filter_isOther_ownPoints, Change.leave,
      Change.leave]
    by_cases hsame : x.Same e
    · rw [if_pos hsame, List.filter_cons_of_neg (by simpa using hsame), List.nil_append]
    · rw [if_neg hsame, List.filter_cons_of_pos (by simpa using hsame), List.flatMap_cons]

theorem Holds.remove (h : Holds digest blank r es) (e : Endpoint) :
    Holds digest blank ((r.remove e).toOption.getD r) (Change.leave es e) := by
  by_cases hkey : e.key ∈ r.keys
  · rw [remove_of_mem hkey]
    refine ⟨h.weighted, h.rule, h.listing.leave e, ?_⟩
    rw [← filter_isOther_flatMap]
    exact h.points.filter _
  · rw [remove_of_not_mem hkey, h.listing.leave_of_not_mem hkey]
    exact h

theorem Holds.refresh (h : Holds digest blank r es) (new : List Endpoint) :
    Holds digest blank (r.refresh new digest) (new.foldl Change.join []) := by
  suffices ∀ (start : Ring) (es : List Endpoint), Holds digest blank start es →
      Holds digest blank (new.foldl (fun r e => (r.insert e digest).toOption.getD r) start)
        (new.foldl Change.join es) from
    (this { r with keys := [], points := [] } [] ⟨h.weighted, h.rule, .nil, .nil⟩).sort
  induction new with
  | nil => exact fun _ _ h => h
  | cons e new ih => exact fun _ _ h => ih _ _ (h.insert e)

/-! ## Changes -/

/-- A ring after a change. -/
def change (digest : String → Digest.Md5.State) (r : Ring) : Change → Ring
  | .add e => (r.add e digest).toOption.getD r
  | .remove e => (r.remove e).toOption.getD r
  | .refresh es => r.refresh es digest

/-- A ring of a kind after changes, one after another, of the empty one. -/
def changes (digest : String → Digest.Md5.State) (weighted : Bool) (rule : PointRule)
    (cs : List Change) : Ring :=
  cs.foldl (change digest) { weighted, rule }

theorem Holds.change (h : Holds digest blank r es) (c : Change) :
    Holds digest blank (r.change digest c) (c.apply es) := by
  cases c with
  | add e => exact h.add e
  | remove e => exact h.remove e
  | refresh new => exact h.refresh new

theorem holds_changes (digest : String → Digest.Md5.State) (weighted : Bool) (rule : PointRule)
    (cs : List Change) :
    Holds digest { weighted, rule } (changes digest weighted rule cs) (Change.membersAfter cs) := by
  suffices ∀ r es, Holds digest { weighted, rule } r es →
      Holds digest { weighted, rule } (cs.foldl (Ring.change digest) r)
        (cs.foldl Change.apply es) from
    this _ _ (.empty rfl rfl)
  induction cs with
  | nil => exact fun _ _ h => h
  | cons c cs ih => exact fun _ _ h => ih _ _ (h.change c)

theorem reachable_changes (cs : List Change) :
    Reachable digest weighted rule (changes digest weighted rule cs) := by
  suffices ∀ r, Reachable digest weighted rule r →
      Reachable digest weighted rule (cs.foldl (Ring.change digest) r) from this _ .empty
  induction cs with
  | nil => exact fun _ h => h
  | cons c cs ih =>
    refine fun r h => ih _ ?_
    -- A change that fails leaves the ring as it is.
    cases c with
    | add e =>
      rw [Ring.change]
      cases hadd : r.add e digest with
      | error => exact h
      | ok => exact h.add hadd
    | remove e =>
      rw [Ring.change]
      cases hremove : r.remove e with
      | error => exact h
      | ok => exact h.remove hremove
    | refresh es => exact h.refresh es

/-! ## The order leaves no choice -/

/-- Points of members that the order does not tell apart are equal. -/
theorem Holds.eq_of_le (h : Holds digest blank r es) {p q : Point} (hp : p ∈ r.points)
    (hq : q ∈ r.points) (hpq : p.le q = true) (hqp : q.le p = true) : p = q := by
  have howner : ∀ x ∈ r.points, x.owner ∈ es := by
    intro x hx
    obtain ⟨e, he, hx⟩ := List.mem_flatMap.1 (h.points.mem_iff.1 hx)
    rwa [mem_ownPoints hx]
  rw [Point.le_iff] at hpq hqp
  have hplace : p.place = q.place := by grind
  have hsame : p.owner.Same q.owner := by
    rw [Endpoint.Same]
    grind
  have heq := h.listing.eq_of_same (howner p hp) (howner q hq) hsame
  obtain ⟨place, owner⟩ := p
  cases hplace
  cases heq
  rfl

/-- Points of members, sorted, are their layout. -/
theorem Holds.points_eq_layout (h : Holds digest blank r es) (hvalid : r.Valid)
    (hperm : es.Perm es') : r.points = blank.layout digest es' := by
  have hpoints : r.points.Perm (blank.layout digest es') :=
    (h.points.trans (hperm.flatMap_right _)).trans (List.mergeSort_perm ..).symm
  have hsorted : (blank.layout digest es').Pairwise fun p q => p.le q = true :=
    List.pairwise_mergeSort Point.le_trans Point.le_total _
  refine hpoints.eq_of_pairwise (fun p q hp hq => ?_) hvalid.sorted hsorted
  exact h.eq_of_le hp (hpoints.mem_iff.2 hq)

theorem select_congr (h : r'.points = r.points) (code : UInt32) :
    r'.select code = r.select code := by
  rw [select, select, find?_eq_first?, find?_eq_first?, h]

/-- After any changes, a ring has the keys of its members, and its points are their layout; a
    code goes to its owner there. So two rings whose members have the same descriptors in the
    end route every code alike. -/
theorem changes_determined (digest : String → Digest.Md5.State) (weighted : Bool)
    (rule : PointRule) (cs : List Change) :
    let r := changes digest weighted rule cs
    let members := Change.membersAfter cs
    Listing r.keys members ∧
    r.points = layout { weighted, rule } digest members ∧
    (∀ code e, r.select code = .ok e ↔ Owner code r.points e) ∧
    (∀ code, r.select code = .error (.empty name) ↔ r.points = []) ∧
    ∀ cs', (∀ e, e ∈ Change.membersAfter cs' ↔ e ∈ members) →
      ∀ code, (changes digest weighted rule cs').select code = r.select code := by
  intro r members
  have hholds := holds_changes digest weighted rule cs
  have hpoints := hholds.points_eq_layout (reachable_changes cs).valid (.refl _)
  refine ⟨hholds.listing, hpoints, fun _ _ => select_eq_ok_iff, fun _ => select_eq_error_iff,
    fun cs' hmem => ?_⟩
  have hholds' := holds_changes digest weighted rule cs'
  have hperm := (List.perm_ext_iff_of_nodup hholds'.listing.nodup hholds.listing.nodup).2 hmem
  have hpoints' := hholds'.points_eq_layout (reachable_changes cs').valid hperm
  exact select_congr (hpoints'.trans hpoints.symm)

/-- One client takes in a list that repeats an endpoint, and is told of one that it does not
    have; the other takes in the same endpoints one by one, with a detour. -/
theorem changes_determined_detour :
    let a : Endpoint := { host := "a", port := 1, weightType := .static, weight := 40 }
    let b : Endpoint := { host := "b", port := 1, transport := .udp, weight := 20 }
    let cs := [.refresh [a, b, { a with weight := 8 }], .remove { host := "c", port := 1 }]
    let cs' := [.add b, .add { a with weight := 8 }, .add { b with transport := .tcp },
      .remove { host := "a", port := 1 }, .add a]
    ∀ code, (changes md5 true .four cs').select code = (changes md5 true .four cs).select code := by
  intro a b cs cs'
  have hmembers : Change.membersAfter cs = [a, b] := by decide
  have hmembers' : Change.membersAfter cs' = [b, a] := by decide
  refine (changes_determined md5 true .four cs).2.2.2.2 cs' fun e => ?_
  rw [hmembers, hmembers']
  exact (List.Perm.swap a b []).mem_iff

end Ring

end TaggedRpc.Selection
