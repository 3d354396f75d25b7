import TaggedRpc.Manager.Alive
import TaggedRpc.Proofs.Selection.RingStability

/-!
# Selectors pick members

A selector of any kind picks an endpoint that it was given (`Selector.Among.select`),
whatever the weights, the codes and the random numbers are, and so does an alive set
(`AliveSet.Sound.select`).
-/

namespace TaggedRpc

namespace Selection

variable {es : List Endpoint} {e : Endpoint}

theorem Members.mem_of_pick {m : Members} {selector : String} {position : Nat}
    (h : m.pick selector position = .ok e) : e ∈ m.endpoints := by
  rw [pick] at h
  split at h
  · next x hx =>
    cases h
    obtain ⟨i, -, hi⟩ := Option.bind_eq_some_iff.1 hx
    exact List.mem_of_getElem? hi
  · cases h

@[simp] theorem Members.endpoints_reweigh (m : Members) (weighted : Bool) :
    (m.reweigh weighted).endpoints = m.endpoints := rfl

theorem Members.mem_of_mem_add {m m' : Members} {selector : String} {x : Endpoint}
    (h : m.add selector x = .ok m') (he : e ∈ m'.endpoints) : e ∈ m.endpoints ∨ e = x := by
  rw [add] at h
  split at h
  · cases h
  · cases h
    simpa using he

/-- The members of a list are from the list. -/
theorem Members.mem_of_mem_ofList (h : e ∈ (Members.ofList es).endpoints) : e ∈ es := by
  -- The endpoints are added one after another, each of them from the list.
  refine List.foldlRecOn es _ (motive := fun m : Members => ∀ x ∈ m.endpoints, x ∈ es)
    (List.forall_mem_nil _) (fun m ih y hy x hx => ?_) e h
  cases hadd : m.add "refresh" y with
  | error =>
    rw [hadd] at hx
    exact ih x hx
  | ok m' =>
    rw [hadd] at hx
    rcases Members.mem_of_mem_add hadd hx with hx | rfl
    · exact ih x hx
    · exact hy

/-- The owners of the points of a ring are from the list of its members. -/
theorem Ring.owner_mem_of_mem_refresh {r : Ring} {digest : String → Digest.Md5.State} {p : Point}
    (h : p ∈ (r.refresh es digest).points) : p.owner ∈ es := by
  refine List.foldlRecOn es _ (motive := fun r : Ring => ∀ p ∈ r.points, p.owner ∈ es)
    (List.forall_mem_nil _) (fun r ih e he p hp => ?_) p (List.mem_mergeSort.1 h)
  by_cases hkey : e.key ∈ r.keys
  · rw [Ring.insert_of_mem hkey] at hp
    exact ih p hp
  · rw [Ring.insert_of_not_mem hkey] at hp
    rcases List.mem_append.1 hp with hold | hnew
    · exact ih p hold
    · rwa [Ring.mem_ownPoints hnew]

theorem Ring.exists_owner_of_select {r : Ring} {code : UInt32} (h : r.select code = .ok e) :
    ∃ p ∈ r.points, p.owner = e := by
  rw [select, find?_eq_first?] at h
  cases hfirst : first? code r.points with
  | none =>
    rw [hfirst] at h
    cases h
  | some p =>
    rw [hfirst] at h
    cases h
    exact ⟨p, mem_of_first?_eq_some hfirst, rfl⟩

namespace Selector

/-- What a selector picks from is among some endpoints. -/
def Among (es : List Endpoint) : Selector → Prop
  | roundRobin s => ∀ e ∈ s.members.endpoints, e ∈ es
  | random s => ∀ e ∈ s.members.endpoints, e ∈ es
  | modulo s => ∀ e ∈ s.members.endpoints, e ∈ es
  | ring s => ∀ p ∈ s.points, p.owner ∈ es

theorem among_refresh (s : Selector) (es : List Endpoint) (draw : Nat) :
    (s.refresh es draw).Among es := by
  cases s with
  | ring => exact fun _ => Ring.owner_mem_of_mem_refresh
  | _ => exact fun _ => Members.mem_of_mem_ofList

variable {s : Selector} {code : UInt32} {draw : Nat}

/-- A pick leaves the members as they are. -/
theorem Among.select (h : s.Among es) : (s.select code draw).2.Among es := by
  -- Only round robin has a state, which is not its members.
  cases s with
  | roundRobin s =>
    show ∀ e ∈ s.select.2.members.endpoints, e ∈ es
    rw [RoundRobin.select]
    split
    · exact h
    · split <;> exact h
  | _ => exact h

/-- A selector picks a member. -/
theorem Among.mem_of_select (h : s.Among es) (he : (s.select code draw).1 = .ok e) : e ∈ es := by
  cases s with
  | roundRobin s =>
    change s.select.1 = _ at he
    rw [RoundRobin.select] at he
    split at he
    · cases he
    · split at he <;> exact h e (Members.mem_of_pick he)
  | random | modulo => exact h e (Members.mem_of_pick he)
  | ring s =>
    obtain ⟨p, hp, rfl⟩ := Ring.exists_owner_of_select he
    exact h p hp

end Selector

end Selection

namespace AliveSet

open Selection

/-- The selectors of an alive set pick from its endpoints. -/
structure Sound (s : AliveSet) : Prop where
  balance : s.balance.Among s.endpoints
  modHash : (Selector.modulo s.modHash).Among s.endpoints
  ring : (Selector.ring s.ring).Among s.endpoints

theorem sound_ofList (config : RoutingConfig) (es : List Endpoint) (draw : Nat) :
    (ofList config es draw).Sound where
  balance := Selector.among_refresh ..
  modHash := Selector.among_refresh (.modulo _) es draw
  ring := Selector.among_refresh (.ring _) es draw

variable {s : AliveSet} {hash : Option HashKey} {draw : Nat} {e : Endpoint}

@[simp] theorem endpoints_select : (s.select hash draw).2.endpoints = s.endpoints := by
  rcases hash with _ | _ | _ <;> rfl

theorem Sound.select (h : s.Sound) : (s.select hash draw).2.Sound := by
  rcases hash with _ | _ | _
  · exact ⟨h.balance.select, h.modHash, h.ring⟩
  · exact h
  · exact h

/-- A call goes to one of the endpoints. -/
theorem Sound.mem_of_select (h : s.Sound) (he : (s.select hash draw).1 = .ok e) :
    e ∈ s.endpoints := by
  rcases hash with _ | code | code
  · exact h.balance.mem_of_select he
  · have hmodulo : ((Selector.modulo s.modHash).select code draw).1 = .ok e := he
    exact h.modHash.mem_of_select hmodulo
  · have hring : ((Selector.ring s.ring).select code draw).1 = .ok e := he
    exact h.ring.mem_of_select hring

/-- So do the calls for which others stand in. -/
theorem mem_of_mem_others {x : Endpoint} (h : x ∈ s.others e) : x ∈ s.endpoints := by
  rcases List.mem_append.1 h with h | h
  · exact List.mem_of_mem_drop h
  · exact List.mem_of_mem_take h

end AliveSet

end TaggedRpc
