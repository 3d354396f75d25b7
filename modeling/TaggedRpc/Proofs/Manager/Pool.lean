import TaggedRpc.Proofs.Manager.Invariant

/-!
# What happens to the pool

Most of what happens to a manager changes little of it. Two relations say how little:

* Calls, and selections that make adapters, leave the roster and the alive endpoints, and
  who is eligible (`Manager.Quiet`): a new adapter is healthy, and an endpoint without an
  adapter counts as healthy too.
* No operation but a refresh changes the roster, and whoever is new in the pool was made
  for an active endpoint (`Manager.Furnishes`).
-/

namespace TaggedRpc.Manager

open Selection

variable {m m' m'' : Manager} {a a' : Adapter} {e : Endpoint} {key : String}

/-! ## Looking up -/

@[simp] theorem roster_adapterFor (m : Manager) (e : Endpoint) (now : Nat) :
    (m.adapterFor e now).2.roster = m.roster := by
  rw [adapterFor]
  split <;> rfl

@[simp] theorem alive_adapterFor (m : Manager) (e : Endpoint) (now : Nat) :
    (m.adapterFor e now).2.alive = m.alive := by
  rw [adapterFor]
  split <;> rfl

@[simp] theorem closed_adapterFor (m : Manager) (e : Endpoint) (now : Nat) :
    (m.adapterFor e now).2.closed = m.closed := by
  rw [adapterFor]
  split <;> rfl

theorem adapterFor_eq_with_adapters (m : Manager) (e : Endpoint) (now : Nat) :
    ∃ adapters, (m.adapterFor e now).2 = { m with adapters } := by
  rw [adapterFor]
  split <;> exact ⟨_, rfl⟩

/-- Taking a roster over changes nothing, or says so. -/
theorem apply_cases (m : Manager) (r : Roster) (draw now : Nat) :
    m.apply r draw now = (false, m) ∨
      m.apply r draw now = (true, ({ m with roster := sorted r }.evict now).rebuildAlive draw) := by
  rw [apply]
  split
  · exact .inl rfl
  · dsimp only
    split
    · exact .inl rfl
    · exact .inr rfl

/-- A refresh takes over what the directory answers. -/
theorem refresh_eq_apply (hopen : (m.direct || m.closed) = false) {s : Sources} {d : Directory} {r : Roster}
    (hd : s.directory = some d) (hr : (d.query m.object m.set).1 = .ok r) (draw now : Nat) :
    ∃ s', m.refresh s draw now = (.ok (m.apply r draw now).1, s', (m.apply r draw now).2) := by
  rw [Manager.refresh, if_neg (ne_true_of_eq_false hopen), hd]
  dsimp only
  rw [hr]
  exact ⟨_, rfl⟩

/-- Nobody is in the pool of a manager that is loaded. -/
theorem adapters_of_load {ref : Reference} {set : Option String} {config : ManagerConfig}
    {s s' : Sources} {draw now : Nat} (h : load ref set config s draw now = (.ok m, s')) :
    m.adapters = [] := by
  refine load_induction (Q := fun m => m.adapters = []) rfl (fun m r hm => ?_) h
  rcases m.apply_cases r draw now with happly | happly <;> rw [happly]
  · exact hm
  · exact (congrArg (List.filter _) hm).trans List.filter_nil

theorem adapter?_map {f : Adapter → Adapter} (hf : ∀ a, (f a).key = a.key) (key : String) :
    ((m.adapters.map f).find? fun a => a.key == key) = (m.adapter? key).map f := by
  rw [List.find?_map, adapter?]
  simp only [Function.comp_def, hf]

theorem key_modify (hkey : a'.key = key) (x : Adapter) :
    (if x.key = key then a' else x).key = x.key := by
  split
  · next hx => exact hkey.trans hx.symm
  · rfl

theorem adapter?_modifyAdapter (ha : m.adapter? key = some a) (hkey : a'.key = key) (k : String) :
    (m.modifyAdapter key fun _ => a').adapter? k = if k = key then some a' else m.adapter? k := by
  show ((m.adapters.map _).find? _) = _
  rw [adapter?_map (key_modify hkey)]
  split
  · next hk =>
    rw [hk, ha, Option.map_some, if_pos (mem_of_adapter? ha).2]
  · next hk =>
    cases hx : m.adapter? k with
    | none => rfl
    | some x => rw [Option.map_some, if_neg ((mem_of_adapter? hx).2 ▸ hk)]

theorem adapter?_adapterFor (m : Manager) (e : Endpoint) (now : Nat) :
    (m.adapterFor e now).2.adapter? e.key = some (m.adapterFor e now).1 := by
  cases h : m.adapter? e.key with
  | some a => rw [adapterFor_of_some h, h]
  | none =>
    rw [adapterFor_of_none h, adapter?, find?_key_concat, ← adapter?, h, Option.none_or]
    exact if_pos rfl

/-- Whether an endpoint is eligible depends on the health of its adapter only. -/
theorem isHealthy_adapterFor (m : Manager) (e : Endpoint) (now : Nat) (key : String) :
    ((m.adapterFor e now).2.adapter? key).all Adapter.isHealthy =
      (m.adapter? key).all Adapter.isHealthy := by
  cases hnone : m.adapter? e.key with
  | some a => rw [adapterFor_of_some hnone]
  | none =>
    rw [adapterFor_of_none hnone, adapter?, find?_key_concat, ← adapter?]
    split
    · next hkey =>
      -- There was no adapter, and a new one is healthy.
      have hkey : e.key = key := hkey
      rw [← hkey, hnone]
      rfl
    · rw [Option.or_none]

/-! ## Health -/

/-- A manager with the same roster, the same alive endpoints, and the same eligible
    ones. -/
structure Quiet (m m' : Manager) : Prop where
  roster : m'.roster = m.roster
  alive : m'.alive.endpoints = m.alive.endpoints
  eligible : m'.eligible = m.eligible

theorem Quiet.refl (m : Manager) : m.Quiet m := ⟨rfl, rfl, rfl⟩

theorem quiet_of_isHealthy (hroster : m'.roster = m.roster)
    (halive : m'.alive.endpoints = m.alive.endpoints)
    (h : ∀ key, (m'.adapter? key).all Adapter.isHealthy = (m.adapter? key).all Adapter.isHealthy) :
    m.Quiet m' := by
  refine ⟨hroster, halive, eligible_congr hroster fun e _ => ?_⟩
  rw [isEligible_eq, isEligible_eq, h]

theorem quiet_adapterFor (m : Manager) (e : Endpoint) (now : Nat) :
    m.Quiet (m.adapterFor e now).2 :=
  quiet_of_isHealthy (roster_adapterFor ..) (congrArg _ (alive_adapterFor ..))
    (isHealthy_adapterFor m e now)

/-- Adapters change, and those that are found are as healthy as before. -/
theorem quiet_map {f : Adapter → Adapter} (hkey : ∀ a, (f a).key = a.key)
    (hf : ∀ key a, m.adapter? key = some a → (f a).isHealthy = a.isHealthy)
    (leaving : List Adapter) : m.Quiet { m with adapters := m.adapters.map f, leaving } := by
  refine quiet_of_isHealthy rfl rfl fun key => ?_
  show (((m.adapters.map f).find? _).all _) = _
  rw [adapter?_map hkey]
  cases ha : m.adapter? key with
  | none => rfl
  | some a => exact hf key a ha

/-- The adapter with a key changes, and is as healthy as before. -/
theorem quiet_modifyAdapter (ha : m.adapter? key = some a) (h : a.Alike a') :
    m.Quiet (m.modifyAdapter key fun _ => a') := by
  refine quiet_map (key_modify (h.key.trans (mem_of_adapter? ha).2)) (fun k x hx => ?_) m.leaving
  split
  · next hxkey =>
    -- The adapter with the key of `x` is `a`, as it is found first.
    obtain rfl : k = key := (mem_of_adapter? hx).2.symm.trans hxkey
    cases ha.symm.trans hx
    exact h.healthy
  · rfl

/-! ## Newcomers -/

/-- The roster stays, and whoever is new in the pool was made for an active endpoint. -/
structure Furnishes (m m' : Manager) : Prop where
  roster : m'.roster = m.roster
  pool : ∀ a' ∈ m'.adapters, (∃ a ∈ m.adapters, a.endpoint = a'.endpoint) ∨
    a'.endpoint ∈ m.roster.active

theorem Furnishes.refl (m : Manager) : m.Furnishes m :=
  ⟨rfl, fun a ha => .inl ⟨a, ha, rfl⟩⟩

theorem Furnishes.trans (h : m.Furnishes m') (h' : m'.Furnishes m'') : m.Furnishes m'' := by
  refine ⟨h'.roster.trans h.roster, fun a ha => ?_⟩
  rcases h'.pool a ha with ⟨b, hb, hab⟩ | hmem
  · rw [← hab]
    exact h.pool b hb
  · exact .inr (h.roster ▸ hmem)

/-- Adapters change, but not their endpoints. -/
theorem furnishes_of_map (hroster : m'.roster = m.roster)
    (h : m'.adapters.map Adapter.endpoint = m.adapters.map Adapter.endpoint) : m.Furnishes m' := by
  refine ⟨hroster, fun a' ha' => .inl ?_⟩
  have hmem : a'.endpoint ∈ m.adapters.map Adapter.endpoint := h ▸ List.mem_map_of_mem ha'
  exact List.mem_map.1 hmem

theorem map_endpoint_map {f : Adapter → Adapter} (hf : ∀ a, (f a).endpoint = a.endpoint)
    (as : List Adapter) : (as.map f).map Adapter.endpoint = as.map Adapter.endpoint := by
  rw [List.map_map]
  exact List.map_congr_left fun a _ => hf a

theorem map_endpoint_of_forall₂ {as as' : List Adapter}
    (h : List.Forall₂ (fun a a' => a'.endpoint = a.endpoint) as as') :
    as'.map Adapter.endpoint = as.map Adapter.endpoint := by
  rw [← List.forall₂_eq_eq_eq, List.forall₂_map_left_iff, List.forall₂_map_right_iff]
  exact h.flip

theorem furnishes_onAdapter? {α : Type} {key : String} {f : Adapter → α × Adapter}
    (hf : ∀ a, m.adapter? key = some a → (f a).2.endpoint = a.endpoint) :
    m.Furnishes (m.onAdapter? key f).2 := by
  rw [onAdapter?]
  cases ha : m.adapter? key with
  | none => exact .refl m
  | some a =>
    refine ⟨rfl, fun a' ha' => ?_⟩
    obtain ⟨x, hx, rfl⟩ := List.mem_map.1 ha'
    split
    · exact .inl ⟨a, (mem_of_adapter? ha).1, (hf a ha).symm⟩
    · exact .inl ⟨x, hx, rfl⟩

theorem furnishes_onCall? {α : Type} (m : Manager) (id : Int32) {f : Adapter → α × Adapter}
    (hf : ∀ a, (f a).2.endpoint = a.endpoint) : m.Furnishes (m.onCall? id f).2 := by
  rw [onCall?]
  dsimp only
  split
  · refine furnishes_of_map rfl (map_endpoint_map (fun a => ?_) m.adapters)
    split
    · exact hf a
    · rfl
  · exact .refl m

theorem furnishes_poll (m : Manager) (now : Nat) : m.Furnishes (m.poll now).2 := by
  refine furnishes_of_map rfl (map_endpoint_map (fun a => ?_) m.adapters)
  exact (a.alike_poll now).endpoint

theorem furnishes_adapterFor (he : e ∈ m.roster.active) (now : Nat) :
    m.Furnishes (m.adapterFor e now).2 := by
  cases hnone : m.adapter? e.key with
  | some a =>
    rw [adapterFor_of_some hnone]
    exact .refl m
  | none =>
    rw [adapterFor_of_none hnone]
    refine ⟨rfl, fun a ha => ?_⟩
    rcases List.mem_append.1 ha with ha | ha
    · exact .inl ⟨a, ha, rfl⟩
    · rw [List.mem_singleton.1 ha]
      exact .inr he

theorem furnishes_firstHealthy (now : Nat) (es : List Endpoint) (m : Manager)
    (hes : ∀ e ∈ es, e ∈ m.roster.active) : m.Furnishes (m.firstHealthy now es).2 := by
  induction es generalizing m with
  | nil => exact .refl m
  | cons e es ih =>
    have hfirst := furnishes_adapterFor (hes e List.mem_cons_self) now
    rw [firstHealthy]
    dsimp only
    split
    · exact hfirst
    · refine hfirst.trans (ih _ fun x hx => ?_)
      rw [hfirst.roster]
      exact hes x (List.mem_cons_of_mem e hx)

theorem furnishes_degrade (m : Manager) (draw now : Nat) :
    m.Furnishes (m.degrade draw now).2 := by
  rw [degrade]
  split
  · exact .refl m
  · split
    · next he => exact furnishes_adapterFor (List.mem_of_getElem? he) now
    · exact .refl m

theorem Valid.furnishes_pick (h : m.Valid) (hopen : m.closed = false) (hash : Option HashKey)
    (draw now : Nat) : m.Furnishes (m.pick hash draw now).2 := by
  rw [pick]
  rcases hselect : m.alive.select hash draw with ⟨_ | e, alive⟩
  · exact furnishes_of_map rfl rfl
  · -- The alive set is up to date, so all of its endpoints are active.
    have hactive : ∀ x ∈ m.alive.endpoints, x ∈ m.roster.active := by
      intro x hx
      rw [h.alive hopen] at hx
      exact (mem_eligible.1 hx).1
    have hendpoints : alive.endpoints = m.alive.endpoints := by
      rw [← AliveSet.endpoints_select (s := m.alive), hselect]
    have he : e ∈ m.alive.endpoints := h.sound.mem_of_select (by rw [hselect])
    have hwalk := furnishes_firstHealthy now (e :: alive.others e) { m with alive } fun x hx => by
      rcases List.mem_cons.1 hx with rfl | hx
      · exact hactive x he
      · exact hactive x (hendpoints ▸ AliveSet.mem_of_mem_others hx)
    exact ⟨hwalk.roster, hwalk.pool⟩

theorem Valid.furnishes_select (h : m.Valid) (hash : Option HashKey) (draw now : Nat) :
    m.Furnishes (m.select hash draw now).2 := by
  cases hclosed : m.closed with
  | true =>
    rw [Manager.select, hclosed]
    exact .refl m
  | false =>
    have hpick := h.furnishes_pick hclosed hash draw now
    rw [select_eq hclosed]
    cases (m.pick hash draw now).1 with
    | some => exact hpick
    | none => exact hpick.trans (furnishes_degrade ..)

theorem furnishes_addAlive (m : Manager) (e : Endpoint) (draw : Nat) :
    m.Furnishes (m.addAlive e draw) := by
  rw [addAlive]
  dsimp only
  split <;> exact furnishes_of_map rfl rfl

theorem furnishes_checkStatus (m : Manager) (dial : Dialer) (keepAlive : Option Nat)
    (lastId : Int32) (draw now : Nat) :
    m.Furnishes (m.checkStatus dial keepAlive lastId draw now).2 := by
  have hendpoints := map_endpoint_of_forall₂
    (checkAdapters_spec dial keepAlive now lastId m.adapters).1
  rw [checkStatus]
  split
  · exact .refl m
  · dsimp only
    split <;> exact furnishes_of_map rfl hendpoints

end TaggedRpc.Manager
