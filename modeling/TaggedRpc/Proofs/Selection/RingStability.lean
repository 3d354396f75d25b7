import TaggedRpc.Selection.Ring
import TaggedRpc.Proofs.Endpoint.Key

/-!
# A ring moves few codes

When an endpoint leaves a ring, only the codes that it owned get another owner;
when one comes, the codes that move go to it (`Ring.select_stable`). This holds of
every digest, also where points of different endpoints have one place.

The rings before and after differ by the points of one endpoint: without them,
what is left of the larger ring is the smaller one, in the same order. Taking
points out does not change the first point at or after a code unless that point
itself goes (`first?_filter`). For a new endpoint this needs the order of points to
be *stable*, so that sorting them again does not move the old ones past each other,
and none of the old ones to be its own (`Ring.Valid`).
-/

namespace TaggedRpc.Selection

/-! ## The order of points -/

namespace Point

variable {a b c : Point}

theorem le_iff : a.le b = true ↔ a.place < b.place ∨ a.place = b.place ∧
    (a.owner.host < b.owner.host ∨ a.owner.host = b.owner.host ∧ a.owner.port ≤ b.owner.port) := by
  simp only [le, Bool.or_eq_true, Bool.and_eq_true, decide_eq_true_eq, beq_iff_eq]

theorem le_trans (a b c : Point) (hab : a.le b = true) (hbc : b.le c = true) : a.le c = true := by
  rw [le_iff] at *
  grind

theorem le_total (a b : Point) : (a.le b || b.le a) = true := by
  rw [Bool.or_eq_true, le_iff, le_iff]
  grind

/-- The owner of a point is not a given endpoint. -/
def isOther (e : Endpoint) (p : Point) : Bool := !decide (p.owner.Same e)

@[simp] theorem isOther_iff {e : Endpoint} {p : Point} :
    p.isOther e = true ↔ ¬p.owner.Same e := by
  simp [isOther]

end Point

/-! ## The first point at or after a code -/

variable {code : UInt32} {ps : List Point} {p : Point} {keep : Point → Bool}

/-- The first point at or after a code, around the end if need be. -/
def first? (code : UInt32) (ps : List Point) : Option Point :=
  (ps.find? fun p => code ≤ p.place).or ps.head?

theorem Ring.find?_eq_first? (r : Ring) (code : UInt32) :
    r.find? code = (first? code r.points).map Point.owner := by
  rw [find?, first?]
  cases r.points.find? fun p => decide (code ≤ p.place) <;> rfl

theorem eq_nil_of_first?_eq_none (h : first? code ps = none) : ps = [] :=
  List.head?_eq_none_iff.1 (Option.or_eq_none_iff.1 h).2

theorem mem_of_first?_eq_some (h : first? code ps = some p) : p ∈ ps := by
  rw [first?, Option.or_eq_some_iff] at h
  rcases h with h | ⟨-, h⟩
  · exact List.mem_of_find?_eq_some h
  · exact List.mem_of_head? h

/-- A point that stays is still the first one when others go. -/
theorem first?_filter (h : first? code ps = some p) (hp : keep p = true) :
    first? code (ps.filter keep) = some p := by
  rw [first?, Option.or_eq_some_iff] at h ⊢
  rcases h with h | ⟨hnone, h⟩
  · -- No point goes in between: those before it do not reach the code.
    left
    obtain ⟨hreach, before, after, rfl, hbefore⟩ := List.find?_eq_some_iff_append.1 h
    rw [List.filter_append, List.filter_cons_of_pos hp, List.find?_append,
      List.find?_eq_none.2 fun q hq => by simpa using hbefore q (List.mem_filter.1 hq).1]
    exact List.find?_cons_of_pos (p := fun q : Point => decide (code ≤ q.place)) hreach
  · -- Around the end, the first point of all.
    right
    refine ⟨List.find?_eq_none.2 fun q hq => ?_, ?_⟩
    · exact List.find?_eq_none.1 hnone q (List.mem_filter.1 hq).1
    · obtain ⟨after, rfl⟩ := List.head?_eq_some_iff.1 h
      rw [List.filter_cons_of_pos hp, List.head?_cons]

/-- In order, the points below a code come before the others, so going through the
    points finds what a binary search for their end does. -/
theorem find?_eq_getElem?_countP (h : ps.Pairwise fun p q => p.le q = true) :
    ps.find? (fun p => code ≤ p.place) = ps[ps.countP fun p => p.place < code]? := by
  induction ps with
  | nil => rfl
  | cons p ps ih =>
    rw [List.pairwise_cons] at h
    by_cases hp : p.place < code
    · rw [List.find?_cons_of_neg (by simpa using hp), List.countP_cons_of_pos (by simpa using hp),
        List.getElem?_cons_succ, ih h.2]
    · have hle : ∀ q ∈ p :: ps, ¬q.place < code := by
        refine List.forall_mem_cons.2 ⟨hp, fun q hq hlt => hp ?_⟩
        rcases Point.le_iff.1 (h.1 q hq) with hpq | ⟨hpq, -⟩
        · exact UInt32.lt_trans hpq hlt
        · exact hpq ▸ hlt
      rw [List.find?_cons_of_pos (by simpa using hp),
        List.countP_eq_zero.2 fun q hq => by simpa using hle q hq]
      rfl

/-! ## Rings -/

namespace Ring

variable {digest : String → Digest.Md5.State} {weighted : Bool} {rule : PointRule}
  {r r' : Ring} {e : Endpoint}

/-- The rings that come of the empty one by adding, removing and replacing members. -/
inductive Reachable (digest : String → Digest.Md5.State) (weighted : Bool) (rule : PointRule) :
    Ring → Prop
  | empty : Reachable digest weighted rule { weighted, rule }
  | add {r r' : Ring} {e : Endpoint} : Reachable digest weighted rule r →
    r.add e digest = .ok r' → Reachable digest weighted rule r'
  | remove {r r' : Ring} {e : Endpoint} : Reachable digest weighted rule r →
    r.remove e = .ok r' → Reachable digest weighted rule r'
  | refresh {r : Ring} (es : List Endpoint) : Reachable digest weighted rule r →
    Reachable digest weighted rule (r.refresh es digest)

/-- The owners of the points are members. -/
def Owned (r : Ring) : Prop := ∀ p ∈ r.points, p.owner.key ∈ r.keys

/-- The points of a ring are in their order, and their owners are members. -/
structure Valid (r : Ring) : Prop where
  /-- The points are in their order. -/
  sorted : r.points.Pairwise fun p q => p.le q = true
  /-- The owners of the points are members. -/
  owned : r.Owned

/-- The points of an endpoint as a member. -/
def ownPoints (r : Ring) (e : Endpoint) (digest : String → Digest.Md5.State) : List Point :=
  (r.pointsFor e digest).map fun p => ⟨p, e⟩

theorem insert_of_mem (h : e.key ∈ r.keys) :
    r.insert e digest = .error (.alreadyExists name e.key) :=
  if_pos (List.contains_iff_mem.2 h)

theorem insert_of_not_mem (h : e.key ∉ r.keys) :
    r.insert e digest =
      .ok { r with keys := e.key :: r.keys, points := r.points ++ r.ownPoints e digest } :=
  if_neg (mt List.contains_iff_mem.1 h)

theorem add_of_not_mem (h : e.key ∉ r.keys) :
    r.add e digest =
      .ok (sort { r with keys := e.key :: r.keys, points := r.points ++ r.ownPoints e digest }) := by
  rw [add, insert_of_not_mem h]
  rfl

theorem add_eq_ok (h : r.add e digest = .ok r') : e.key ∉ r.keys ∧
    r' = sort { r with keys := e.key :: r.keys, points := r.points ++ r.ownPoints e digest } := by
  by_cases hkey : e.key ∈ r.keys
  · rw [add, insert_of_mem hkey] at h
    cases h
  · rw [add_of_not_mem hkey] at h
    cases h
    exact ⟨hkey, rfl⟩

theorem remove_of_mem (h : e.key ∈ r.keys) :
    r.remove e =
      .ok { r with keys := r.keys.filter (· != e.key), points := r.points.filter (Point.isOther e) } :=
  if_pos (List.contains_iff_mem.2 h)

theorem remove_of_not_mem (h : e.key ∉ r.keys) :
    r.remove e = .error (.notFound name e.key) :=
  if_neg (mt List.contains_iff_mem.1 h)

theorem remove_eq_ok (h : r.remove e = .ok r') :
    r' = { r with keys := r.keys.filter (· != e.key), points := r.points.filter (Point.isOther e) } := by
  rw [remove] at h
  split at h <;> cases h
  rfl

theorem mem_ownPoints {p : Point} (h : p ∈ r.ownPoints e digest) : p.owner = e := by
  obtain ⟨place, -, rfl⟩ := List.mem_map.1 h
  rfl

/-! ## The invariant -/

theorem Owned.insert (h : r.Owned) (e : Endpoint) (digest : String → Digest.Md5.State) :
    ((r.insert e digest).toOption.getD r).Owned := by
  by_cases hkey : e.key ∈ r.keys
  · rwa [insert_of_mem hkey]
  · rw [insert_of_not_mem hkey]
    intro p hp
    rcases List.mem_append.1 hp with hp | hp
    · exact List.mem_cons_of_mem _ (h p hp)
    · rw [mem_ownPoints hp]
      exact List.mem_cons_self

theorem Owned.valid_sort (h : r.Owned) : r.sort.Valid :=
  ⟨List.pairwise_mergeSort Point.le_trans Point.le_total r.points,
    fun p hp => h p (List.mem_mergeSort.1 hp)⟩

theorem Valid.add (h : r.Valid) (hadd : r.add e digest = .ok r') : r'.Valid := by
  obtain ⟨hkey, rfl⟩ := add_eq_ok hadd
  have howned := h.owned.insert e digest
  rw [insert_of_not_mem hkey] at howned
  exact howned.valid_sort

/-- A point that stays is not of the endpoint that goes, so it has another key. -/
theorem Valid.remove (h : r.Valid) (hremove : r.remove e = .ok r') : r'.Valid := by
  obtain rfl := remove_eq_ok hremove
  refine ⟨h.sorted.sublist List.filter_sublist, fun p hp => ?_⟩
  obtain ⟨hp, hother⟩ := List.mem_filter.1 hp
  refine List.mem_filter.2 ⟨h.owned p hp, ?_⟩
  rw [Point.isOther_iff] at hother
  simpa [Endpoint.key_eq_iff] using hother

theorem Valid.refresh (r : Ring) (es : List Endpoint) : (r.refresh es digest).Valid := by
  -- Before they are sorted, points may be out of order, but they do have owners.
  suffices ∀ start : Ring, start.Owned →
      (es.foldl (fun r e => (r.insert e digest).toOption.getD r) start).Owned from
    (this _ fun _ hp => absurd hp List.not_mem_nil).valid_sort
  induction es with
  | nil => exact fun _ h => h
  | cons e es ih => exact fun start h => ih _ (h.insert e digest)

/-- Every ring is valid. -/
theorem Reachable.valid (h : Reachable digest weighted rule r) : r.Valid := by
  induction h with
  | empty => exact ⟨.nil, List.forall_mem_nil _⟩
  | add _ hadd ih => exact ih.add hadd
  | remove _ hremove ih => exact ih.remove hremove
  | @refresh r es => exact .refresh r es

/-- The owner of a code stands where a binary search for the code ends, or in front. -/
theorem Valid.find?_eq_getElem? (h : r.Valid) (code : UInt32) :
    r.find? code = (r.points[r.points.countP fun p => p.place < code]?.or r.points.head?).map
      Point.owner := by
  rw [find?_eq_first?, first?, find?_eq_getElem?_countP h.sorted]

/-! ## Stability -/

/-- Without the points of a new member, a ring is as before. -/
theorem Valid.filter_points (h : r.Valid) (hadd : r.add e digest = .ok r') :
    r'.points.filter (Point.isOther e) = r.points := by
  obtain ⟨hkey, rfl⟩ := add_eq_ok hadd
  show ((r.points ++ r.ownPoints e digest).mergeSort Point.le).filter (Point.isOther e) = r.points
  have hold : r.points.filter (Point.isOther e) = r.points :=
    List.filter_eq_self.2 fun p hp => Point.isOther_iff.2 fun hsame =>
      hkey (Endpoint.key_eq_of_same hsame ▸ h.owned p hp)
  have hnew : (r.ownPoints e digest).filter (Point.isOther e) = [] := by
    refine List.filter_eq_nil_iff.2 fun p hp => ?_
    rw [Point.isOther_iff, mem_ownPoints hp]
    exact not_not_intro (Endpoint.Same.refl e)
  -- Sorting leaves the old points in their order, and all others are filtered out.
  have hstable : r.points.Sublist ((r.points ++ r.ownPoints e digest).mergeSort Point.le) :=
    List.sublist_mergeSort Point.le_trans Point.le_total h.sorted (List.sublist_append_left _ _)
  have hsub := hstable.filter (Point.isOther e)
  rw [hold] at hsub
  refine (hsub.eq_of_length ?_).symm
  rw [((List.mergeSort_perm _ _).filter _).length_eq, List.filter_append, hnew, List.append_nil,
    hold]

/-- A code whose owner stays keeps it. -/
theorem find?_remove (hremove : r.remove e = .ok r') (code : UInt32)
    (hother : ∀ o, r.find? code = some o → ¬o.Same e) : r'.find? code = r.find? code := by
  obtain rfl := remove_eq_ok hremove
  rw [find?_eq_first?] at hother
  rw [find?_eq_first?, find?_eq_first?]
  cases hfirst : first? code r.points with
  | none =>
    rw [eq_nil_of_first?_eq_none hfirst]
    rfl
  | some p =>
    have hp : p.isOther e = true := Point.isOther_iff.2 (hother p.owner (by rw [hfirst]; rfl))
    rw [first?_filter hfirst hp]

/-- A point of a ring with a new member is of that member, or it was there before. -/
theorem Valid.owner_eq_or_isOther (h : r.Valid) (hadd : r.add e digest = .ok r') {p : Point}
    (hp : p ∈ r'.points) : p.owner = e ∨ p.isOther e = true := by
  have hpoints := h.filter_points hadd
  obtain ⟨hkey, rfl⟩ := add_eq_ok hadd
  rcases List.mem_append.1 (List.mem_mergeSort.1 hp) with hold | hnew
  · rw [← hpoints] at hold
    exact .inr (List.mem_filter.1 hold).2
  · exact .inl (mem_ownPoints hnew)

/-- A code that moves goes to the new member. -/
theorem Valid.find?_add (h : r.Valid) (hadd : r.add e digest = .ok r') (code : UInt32) :
    r'.find? code = r.find? code ∨ r'.find? code = some e := by
  have hpoints := h.filter_points hadd
  rw [find?_eq_first?, find?_eq_first?]
  cases hfirst : first? code r'.points with
  | none =>
    rw [eq_nil_of_first?_eq_none hfirst] at hpoints
    rw [← hpoints]
    exact .inl rfl
  | some p =>
    rcases h.owner_eq_or_isOther hadd (mem_of_first?_eq_some hfirst) with howner | hother
    · exact .inr (congrArg some howner)
    · left
      rw [← hpoints, first?_filter hfirst hother]

/-- When a member leaves a ring, the codes that it did not own stay where they are;
    when one comes, every code stays or goes to it. -/
theorem select_stable (h : Reachable digest weighted rule r) (e : Endpoint) (code : UInt32) :
    (∀ r', r.remove e = .ok r' → (∀ o, r.select code = .ok o → ¬o.Same e) →
      r'.select code = r.select code) ∧
    (∀ r', r.add e digest = .ok r' →
      r'.select code = r.select code ∨ r'.select code = .ok e) := by
  refine ⟨fun r' hremove hother => ?_, fun r' hadd => ?_⟩
  · rw [select, select, find?_remove hremove code fun o ho => hother o (by rw [select, ho])]
  · rcases h.valid.find?_add hadd code with hfind | hfind
    · left
      rw [select, select, hfind]
    · right
      rw [select, hfind]

/-- A digest that puts all points in one place. -/
def constantDigest (_ : String) : Digest.Md5.State := ⟨7, 7, 7, 7⟩

/-- Two members with a hundred points each, all in one place. -/
def crowded : Ring :=
  refresh { weighted := false, rule := .four } [{ host := "a", port := 1 }, { host := "b", port := 1 }]
    constantDigest

theorem select_stable_crowded :
    (∃ r', crowded.remove { host := "a", port := 1 } = .ok r' ∧ ∀ code,
      (∀ o, crowded.select code = .ok o → ¬o.Same { host := "a", port := 1 }) →
        r'.select code = crowded.select code) ∧
    (∃ r', crowded.add { host := "", port := 2 } constantDigest = .ok r' ∧ ∀ code,
      r'.select code = crowded.select code ∨ r'.select code = .ok { host := "", port := 2 }) := by
  have hcrowded : Reachable constantDigest false .four crowded := .refresh _ .empty
  have hremove : crowded.remove { host := "a", port := 1 } = .ok _ := if_pos (by decide)
  have hadd : crowded.add { host := "", port := 2 } constantDigest = .ok _ :=
    add_of_not_mem (by decide)
  exact ⟨⟨_, hremove, fun code => (select_stable hcrowded _ code).1 _ hremove⟩,
    ⟨_, hadd, fun code => (select_stable hcrowded _ code).2 _ hadd⟩⟩

end Ring

end TaggedRpc.Selection
