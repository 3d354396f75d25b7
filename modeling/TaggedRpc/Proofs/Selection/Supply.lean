import TaggedRpc.Proofs.Selection.Membership

/-!
# Selectors with members pick one

A selector that has endpoints to pick from picks one, whatever the code and the
random number are. A selector from a list has them as soon as it was given an
endpoint: a weight list holds the positions of endpoints only
(`WeightList.lt_length_of_mem_build`), and where it is empty all endpoints take turns.
A ring has them if one of its members owns a point (`Ring.points_refresh_eq_nil_iff`),
which no member does whose weight counts and is not positive.

So an alive set that is not empty picks an endpoint (`AliveSet.Filled.exists_select`),
except on the ring of endpoints that weigh nothing (`AliveSet.Weightless`).
-/

namespace TaggedRpc

namespace Selection

/-! ## Weight lists -/

namespace WeightList

variable {p : Nat → Prop} {players : List Player} {total : Int}

/-- A turn lists a player and leaves the players in the game. -/
theorem turn_index (total : Int) (h : ∀ x ∈ players, p x.index) :
    (∀ i ∈ (turn total players).1, p i) ∧ ∀ x ∈ (turn total players).2, p x.index := by
  have hsorted : ∀ x ∈ (players.mergeSort Player.le).reverse, p x.index := fun x hx =>
    h x (List.mem_mergeSort.1 (List.mem_reverse.1 hx))
  rw [turn]
  split
  · exact ⟨nofun, List.forall_mem_nil _⟩
  · next top others heq =>
    rw [heq, List.forall_mem_cons] at hsorted
    refine ⟨fun i hi => ?_, List.forall_mem_cons.2 ⟨hsorted.1, ?_⟩⟩
    · cases hi
      exact hsorted.1
    · exact List.forall_mem_map.2 hsorted.2

theorem forall_mem_deal (turns : Nat) (h : ∀ x ∈ players, p x.index) :
    ∀ i ∈ deal total turns players, p i := by
  induction turns generalizing players with
  | zero => exact List.forall_mem_nil _
  | succ turns ih =>
    obtain ⟨hlisted, hplayers⟩ := turn_index total h
    intro i hi
    rcases List.mem_append.1 hi with hi | hi
    · exact hlisted i (Option.mem_toList.1 hi)
    · exact ih hplayers i hi

/-- A weight list holds positions of the endpoints. -/
theorem lt_length_of_mem_build {endpoints : List Endpoint} {list : List Nat} {i : Nat}
    (h : build endpoints = some list) (hi : i ∈ list) : i < endpoints.length := by
  rw [build] at h
  split at h
  · cases h
  · dsimp only at h
    split at h
    · cases h
      cases hi
    · split at h
      · cases h
        exact List.mem_range.1 hi
      · cases h
        -- Every endpoint plays under its own position.
        rcases List.mem_append.1 hi with hi | hi
        · obtain ⟨x, hx, rfl⟩ := List.mem_map.1 hi
          obtain ⟨y, hy, rfl⟩ := List.mem_map.1 (List.mem_filter.1 hx).1
          exact (List.mem_zipIdx' hy).1
        · refine forall_mem_deal (p := (· < endpoints.length)) _ (fun x hx => ?_) i hi
          obtain ⟨y, hy, rfl⟩ := List.mem_map.1 (List.mem_filter.1 hx).1
          exact (List.mem_zipIdx' hy).1

end WeightList

variable {es : List Endpoint} {e : Endpoint}

/-! ## Members -/

namespace Members

/-- There are endpoints to pick from, and the weight list holds positions of them. -/
structure Ready (m : Members) : Prop where
  endpoints : m.endpoints ≠ []
  weightList : ∀ i ∈ m.weightList, i < m.endpoints.length

theorem Ready.exists_pick {m : Members} (h : m.Ready) (selector : String) (position : Nat) :
    ∃ e, m.pick selector position = .ok e := by
  have hindex : ∃ i, (if m.weightList.isEmpty then some (position % m.endpoints.length)
      else m.weightList[position % m.weightList.length]?) = some i ∧ i < m.endpoints.length := by
    split
    · exact ⟨_, rfl, Nat.mod_lt _ (List.length_pos_iff.2 h.endpoints)⟩
    · next hempty =>
      have hpos := List.length_pos_iff.2 (mt List.isEmpty_iff.2 hempty)
      have hlt := Nat.mod_lt position hpos
      exact ⟨_, List.getElem?_eq_getElem hlt, h.weightList _ (List.getElem_mem hlt)⟩
  obtain ⟨i, hi, hlt⟩ := hindex
  refine ⟨m.endpoints[i], ?_⟩
  rw [pick, hi, Option.bind_some, List.getElem?_eq_getElem hlt]

/-- Whoever joins stays. -/
theorem endpoints_ne_nil_foldl {m : Members} (h : m.endpoints ≠ []) (es : List Endpoint) :
    (es.foldl (fun m e => (m.add "refresh" e).toOption.getD m) m).endpoints ≠ [] := by
  refine List.foldlRecOn es _ (motive := fun m : Members => m.endpoints ≠ []) h
    (fun m hm e _ => ?_)
  rw [add]
  split
  · exact hm
  · exact List.append_ne_nil_of_right_ne_nil _ (List.cons_ne_nil _ _)

/-- The first endpoint of a list is a member. -/
theorem endpoints_ofList_ne_nil (h : es ≠ []) : (ofList es).endpoints ≠ [] := by
  cases es with
  | nil => exact absurd rfl h
  | cons e es => exact endpoints_ne_nil_foldl (List.cons_ne_nil e []) es

theorem lt_length_of_mem_reweigh {m : Members} {weighted : Bool} {i : Nat}
    (h : i ∈ (m.reweigh weighted).weightList) : i < m.endpoints.length := by
  rw [reweigh] at h
  dsimp only at h
  split at h
  · cases hlist : WeightList.build m.endpoints with
    | none =>
      rw [hlist] at h
      cases h
    | some list =>
      rw [hlist] at h
      exact WeightList.lt_length_of_mem_build hlist h
  · cases h

theorem ready_reweigh {m : Members} (h : m.endpoints ≠ []) (weighted : Bool) :
    (m.reweigh weighted).Ready :=
  ⟨h, fun _ => lt_length_of_mem_reweigh⟩

end Members

/-! ## Rings -/

namespace Ring

variable {r : Ring} {m : Members} {digest : String → Digest.Md5.State} {code : UInt32}

theorem virtualNodes_eq_zero_iff :
    r.virtualNodes e = 0 ↔ r.weighted = true ∧ e.weight.toInt ≤ 0 := by
  cases hweighted : r.weighted with
  | false => simp [virtualNodes, hweighted, defaultWeight]
  | true =>
    have hnodes : max 1 (e.weight.toInt.toNat / 4) ≠ 0 := by omega
    simp only [virtualNodes, hweighted, if_true, true_and, ite_eq_right_iff, hnodes, imp_false,
      Int.not_lt]

/-- A virtual node makes a point, whatever the digest is. -/
theorem ownPoints_eq_nil_iff : r.ownPoints e digest = [] ↔ r.virtualNodes e = 0 := by
  have hpoints : ∀ i : Nat, r.rule.points (digest s!"{e.key}_{i}") ≠ [] := by
    intro i
    cases r.rule <;> exact List.cons_ne_nil _ _
  simp only [ownPoints, pointsFor, List.map_eq_nil_iff, List.flatMap_eq_nil_iff, hpoints,
    List.mem_range, imp_false, Nat.not_lt]
  exact ⟨fun h => Nat.le_zero.1 (h 0), fun h i => h ▸ Nat.zero_le i⟩

/-- A ring and a list that have taken in the same endpoints. -/
structure Alongside (r : Ring) (m : Members) : Prop where
  keys : r.keys = m.keys
  points : r.points = [] ↔ ∀ e ∈ m.endpoints, r.virtualNodes e = 0

theorem Alongside.add (h : r.Alongside m) (e : Endpoint) :
    ((r.insert e digest).toOption.getD r).Alongside ((m.add "refresh" e).toOption.getD m) := by
  by_cases hkey : e.key ∈ r.keys
  · rw [insert_of_mem hkey, Members.add, if_pos (List.contains_iff_mem.2 (h.keys ▸ hkey))]
    exact h
  · rw [insert_of_not_mem hkey, Members.add,
      if_neg (mt List.contains_iff_mem.1 (h.keys ▸ hkey))]
    refine ⟨congrArg (e.key :: ·) h.keys, ?_⟩
    show r.points ++ r.ownPoints e digest = [] ↔ ∀ x ∈ m.endpoints ++ [e], r.virtualNodes x = 0
    rw [List.append_eq_nil_iff, h.points, ownPoints_eq_nil_iff, List.forall_mem_append,
      List.forall_mem_singleton]

/-- A ring has no points if no member has virtual nodes. -/
theorem points_refresh_eq_nil_iff : (r.refresh es digest).points = [] ↔
    ∀ e ∈ (Members.ofList es).endpoints, r.virtualNodes e = 0 := by
  -- The ring takes the endpoints in one after another, like the list of members, and both
  -- keep the first of those with one key.
  suffices ∀ (start : Ring) (m : Members), start.weighted = r.weighted → start.Alongside m →
      ((es.foldl (fun r e => (r.insert e digest).toOption.getD r) start).points = [] ↔
        ∀ e ∈ (es.foldl (fun m e => (m.add "refresh" e).toOption.getD m) m).endpoints,
          r.virtualNodes e = 0) by
    rw [refresh, sort]
    dsimp only
    rw [← List.length_eq_zero_iff, List.length_mergeSort, List.length_eq_zero_iff]
    exact this _ _ rfl ⟨rfl, iff_of_true rfl (List.forall_mem_nil _)⟩
  induction es with
  | nil =>
    intro start m hweighted h
    refine h.points.trans (forall₂_congr fun e _ => ?_)
    rw [virtualNodes_eq_zero_iff, virtualNodes_eq_zero_iff, hweighted]
  | cons e es ih =>
    intro start m hweighted h
    refine ih _ _ ?_ (h.add e)
    dsimp only
    by_cases hkey : e.key ∈ start.keys
    · rwa [insert_of_mem hkey]
    · rwa [insert_of_not_mem hkey]

theorem exists_select (h : r.points ≠ []) (code : UInt32) : ∃ e, r.select code = .ok e := by
  rw [select, find?_eq_first?]
  cases hfirst : first? code r.points with
  | none => exact absurd (eq_nil_of_first?_eq_none hfirst) h
  | some p => exact ⟨p.owner, rfl⟩

theorem select_of_points_eq_nil (h : r.points = []) (code : UInt32) :
    r.select code = .error (.empty name) := by
  rw [select, find?, h]
  rfl

end Ring

/-! ## Selectors -/

namespace Selector

/-- There is something to pick from. -/
def Ready : Selector → Prop
  | roundRobin s => s.members.Ready
  | random s => s.members.Ready
  | modulo s => s.members.Ready
  | ring s => s.points ≠ []

variable {s : Selector} {code : UInt32} {draw : Nat}

theorem Ready.exists_select (h : s.Ready) : ∃ e, (s.select code draw).1 = .ok e := by
  cases s with
  | roundRobin s =>
    have hmembers : s.members.Ready := h
    show ∃ e, s.select.1 = .ok e
    rw [RoundRobin.select, if_neg (mt List.isEmpty_iff.1 hmembers.endpoints)]
    split <;> exact hmembers.exists_pick ..
  | random s | modulo s => exact Members.Ready.exists_pick h ..
  | ring s => exact Ring.exists_select h code

/-- A pick leaves the members as they are. -/
theorem Ready.select (h : s.Ready) : (s.select code draw).2.Ready := by
  cases s with
  | roundRobin s =>
    show s.select.2.members.Ready
    rw [RoundRobin.select]
    split
    · exact h
    · split <;> exact h
  | random | modulo | ring => exact h

end Selector

end Selection

namespace AliveSet

open Selection

variable {es : List Endpoint} {s : AliveSet} {hash : Option HashKey} {draw : Nat}

/-- Endpoints that weigh nothing: the weights count, and none is positive. Of repeated
    endpoints the first counts. -/
def Weightless (es : List Endpoint) : Prop :=
  weighted es = true ∧ ∀ e ∈ (Members.ofList es).endpoints, e.weight.toInt ≤ 0

/-- The selectors of an alive set were given its endpoints. -/
structure Filled (s : AliveSet) : Prop where
  sound : s.Sound
  balance : s.endpoints ≠ [] → s.balance.Ready
  modHash : s.endpoints ≠ [] → s.modHash.members.Ready
  ring : s.endpoints ≠ [] → (s.ring.points = [] ↔ Weightless s.endpoints)

theorem filled_ofList (config : RoutingConfig) (es : List Endpoint) (draw : Nat) :
    (ofList config es draw).Filled where
  sound := sound_ofList ..
  balance hne := by
    have hmembers := Members.endpoints_ofList_ne_nil hne
    rw [ofList]
    dsimp only
    cases config.loadBalance <;> exact Members.ready_reweigh hmembers _
  modHash hne := Members.ready_reweigh (Members.endpoints_ofList_ne_nil hne) _
  ring hne := by
    have hmembers := Members.endpoints_ofList_ne_nil hne
    obtain ⟨x, hx⟩ := List.exists_mem_of_ne_nil _ hmembers
    show (Ring.refresh _ es).points = [] ↔ Weightless es
    simp only [Ring.points_refresh_eq_nil_iff, Ring.virtualNodes_eq_zero_iff]
    exact ⟨fun h => ⟨(h x hx).1, fun e he => (h e he).2⟩, fun h e he => ⟨h.1, h.2 e he⟩⟩

theorem Filled.select (h : s.Filled) : (s.select hash draw).2.Filled := by
  rcases hash with _ | _ | _
  · exact ⟨h.sound.select, fun hne => (h.balance hne).select, h.modHash, h.ring⟩
  · exact h
  · exact h

/-- An alive set that is not empty picks one of its endpoints, unless it is asked for the
    ring of endpoints that weigh nothing. -/
theorem Filled.exists_select (h : s.Filled) (draw : Nat) (hne : s.endpoints ≠ [])
    (hring : ∀ code, hash = some (.ring code) → ¬Weightless s.endpoints) :
    ∃ e ∈ s.endpoints, (s.select hash draw).1 = .ok e := by
  have hpick : ∃ e, (s.select hash draw).1 = .ok e := by
    rcases hash with _ | code | code
    · exact (h.balance hne).exists_select
    · exact (h.modHash hne).exists_pick ..
    · exact Ring.exists_select (mt (h.ring hne).1 (hring code rfl)) code
  obtain ⟨e, he⟩ := hpick
  exact ⟨e, h.sound.mem_of_select he, he⟩

theorem Filled.select_ring (h : s.Filled) (hne : s.endpoints ≠ [])
    (hweightless : Weightless s.endpoints) (code : UInt32) :
    (s.select (some (.ring code)) draw).1 = .error (.empty Ring.name) :=
  Ring.select_of_points_eq_nil ((h.ring hne).2 hweightless) code

end AliveSet

end TaggedRpc
