import Mathlib.Data.List.Forall2
import Mathlib.Data.List.Nodup
import TaggedRpc.Manager.Basic
import TaggedRpc.Proofs.Endpoint.Key
import TaggedRpc.Proofs.Manager.Alike
import TaggedRpc.Proofs.Manager.Order
import TaggedRpc.Proofs.Selection.Membership

/-!
# What managers keep

The roster, the alive set, the pool and the health of its adapters are changed by
different operations, and only some of them build the alive set again. In every run
of a manager, operation by operation (`Manager.Reachable`),

* the adapters in the pool are those of active endpoints;
* until the manager is closed, its alive set holds the active endpoints without an
  unhealthy adapter, by the checksums of their keys and then by their texts;
* an adapter that is selected is that of an active endpoint;
* a directory that does not answer, or has no active endpoint, changes nothing.

This is `Manager.Reachable.orderly`. It rests on `Manager.Valid`, which every operation
keeps: one that does not build the alive set again leaves every adapter as healthy as
it was (`Adapter.Alike`), or adds a healthy one.
-/

namespace TaggedRpc

namespace Manager

variable {m m' : Manager} {e : Endpoint} {draw now : Nat}

theorem isActiveKey_iff {r : Roster} {key : String} :
    isActiveKey r key = true ↔ ∃ e ∈ r.active, e.key = key := by
  simp [isActiveKey]

theorem isEligible_eq (m : Manager) (e : Endpoint) :
    m.isEligible e = (m.adapter? e.key).all Adapter.isHealthy := by
  rw [isEligible]
  cases m.adapter? e.key <;> rfl

theorem mem_eligible : e ∈ m.eligible ↔ e ∈ m.roster.active ∧ m.isEligible e = true := by
  rw [eligible, List.mem_mergeSort, List.mem_filter]

theorem mem_of_adapter? {key : String} {a : Adapter} (h : m.adapter? key = some a) :
    a ∈ m.adapters ∧ a.key = key :=
  ⟨List.mem_of_find?_eq_some h, by simpa using List.find?_some h⟩

/-- What holds of a manager between two operations. -/
structure Valid (m : Manager) : Prop where
  /-- The roster is in its order. -/
  sorted : m.roster.active.Pairwise fun a b => textLe a b = true
  /-- The adapters in the pool are those of active endpoints. -/
  pool : ∀ a ∈ m.adapters, isActiveKey m.roster a.key = true
  /-- No endpoint has two adapters. -/
  keys : (m.adapters.map Adapter.key).Nodup
  /-- A closed manager has no adapters. -/
  emptied : m.closed = true → m.adapters = []
  /-- The selectors pick from the alive set. -/
  sound : m.alive.Sound
  /-- The alive set is up to date. -/
  alive : m.closed = false → m.alive.endpoints = m.eligible

theorem Valid.isActive_of_mem_alive (h : m.Valid) (hopen : m.closed = false)
    (he : e ∈ m.alive.endpoints) : isActiveKey m.roster e.key = true := by
  rw [h.alive hopen] at he
  exact isActiveKey_iff.2 ⟨e, (mem_eligible.1 he).1, rfl⟩

/-- An alive set that is built again is up to date. -/
theorem valid_rebuildAlive (sorted : m.roster.active.Pairwise fun a b => textLe a b = true)
    (pool : ∀ a ∈ m.adapters, isActiveKey m.roster a.key = true)
    (keys : (m.adapters.map Adapter.key).Nodup) (emptied : m.closed = true → m.adapters = [])
    (draw : Nat) : (m.rebuildAlive draw).Valid where
  sorted := sorted
  pool := pool
  keys := keys
  emptied := emptied
  sound := AliveSet.sound_ofList ..
  alive _ := rfl

/-- An alive set stays up to date as long as no active endpoint becomes eligible or
    loses that. -/
theorem eligible_congr (hroster : m'.roster = m.roster)
    (h : ∀ e ∈ m.roster.active, m'.isEligible e = m.isEligible e) : m'.eligible = m.eligible := by
  rw [eligible, eligible, hroster, List.filter_congr h]

/-! ## The pool -/

theorem map_key_of_forall₂ {as as' : List Adapter}
    (h : List.Forall₂ (fun a a' => a'.endpoint = a.endpoint) as as') :
    as'.map Adapter.key = as.map Adapter.key := by
  induction h with
  | nil => rfl
  | cons hhead _ ih => rw [List.map_cons, List.map_cons, ih, Adapter.key, Adapter.key, hhead]

theorem all_isHealthy_find?_of_forall₂ {as as' : List Adapter}
    (h : List.Forall₂ Adapter.Alike as as') (key : String) :
    (as'.find? fun a => a.key == key).all Adapter.isHealthy =
      (as.find? fun a => a.key == key).all Adapter.isHealthy := by
  induction h with
  | nil => rfl
  | cons hhead _ ih =>
    rw [List.find?_cons, List.find?_cons, hhead.key]
    split
    · exact hhead.healthy
    · exact ih

/-- The pool keeps its keys. -/
theorem pool_of_map_key {as : List Adapter} (h : m.Valid)
    (hkeys : as.map Adapter.key = m.adapters.map Adapter.key) :
    (∀ a ∈ as, isActiveKey m.roster a.key = true) ∧ (as.map Adapter.key).Nodup ∧
      (m.closed = true → as = []) := by
  refine ⟨fun a ha => ?_, hkeys ▸ h.keys, fun hclosed => ?_⟩
  · have hkey : a.key ∈ m.adapters.map Adapter.key := hkeys ▸ List.mem_map_of_mem ha
    obtain ⟨b, hb, hbkey⟩ := List.mem_map.1 hkey
    exact hbkey ▸ h.pool b hb
  · rw [h.emptied hclosed] at hkeys
    exact List.map_eq_nil_iff.1 hkeys

/-- Adapters change, and the alive set is built again. -/
theorem Valid.rebuildAlive (h : m.Valid) {as : List Adapter}
    (hkeys : as.map Adapter.key = m.adapters.map Adapter.key) (draw : Nat) :
    (Manager.rebuildAlive { m with adapters := as } draw).Valid := by
  obtain ⟨pool, keys, emptied⟩ := pool_of_map_key h hkeys
  exact valid_rebuildAlive (m := { m with adapters := as }) h.sorted pool keys emptied draw

/-- Adapters change, and are as healthy as before. -/
theorem Valid.alike (h : m.Valid) {as : List Adapter}
    (halike : List.Forall₂ Adapter.Alike m.adapters as) (leaving : List Adapter) :
    { m with adapters := as, leaving }.Valid := by
  obtain ⟨pool, keys, emptied⟩ :=
    pool_of_map_key h (map_key_of_forall₂ (halike.imp fun _ _ h => h.endpoint))
  refine ⟨h.sorted, pool, keys, emptied, h.sound, fun hopen => ?_⟩
  refine (h.alive hopen).trans (Eq.symm ?_)
  refine eligible_congr rfl fun e _ => ?_
  rw [isEligible_eq, isEligible_eq]
  exact all_isHealthy_find?_of_forall₂ halike e.key

theorem Valid.map (h : m.Valid) {f : Adapter → Adapter} (hf : ∀ a ∈ m.adapters, a.Alike (f a))
    (leaving : List Adapter) : { m with adapters := m.adapters.map f, leaving }.Valid :=
  h.alike (List.forall₂_map_right_iff.2 (List.forall₂_same.2 hf)) leaving

/-- The adapter with a key changes, and is as healthy as before. -/
theorem Valid.onAdapter? {α : Type} (h : m.Valid) {key : String} {f : Adapter → α × Adapter}
    (hf : ∀ a, m.adapter? key = some a → a.Alike (f a).2) : (m.onAdapter? key f).2.Valid := by
  rw [Manager.onAdapter?]
  cases ha : m.adapter? key with
  | none => exact h
  | some a =>
    refine h.map (fun x hx => ?_) m.leaving
    split
    · next hkey =>
      -- There is no other adapter with the key.
      obtain ⟨hmem, hakey⟩ := mem_of_adapter? ha
      have heq : x = a := List.inj_on_of_nodup_map h.keys hx hmem (hkey.trans hakey.symm)
      exact heq ▸ hf a ha
    · exact .refl x

theorem Valid.onCall? {α : Type} (h : m.Valid) (id : Int32) {f : Adapter → α × Adapter}
    (hf : ∀ a : Adapter, a.Alike (f a).2) : (m.onCall? id f).2.Valid := by
  rw [Manager.onCall?]
  dsimp only
  split
  · refine h.map (fun a _ => ?_) _
    split
    · exact hf a
    · exact .refl a
  · exact h

theorem Valid.poll (h : m.Valid) (now : Nat) : (m.poll now).2.Valid := by
  rw [Manager.poll]
  refine h.map (fun a _ => ?_) _
  exact (a.alike_poll now).trans ⟨rfl, rfl⟩

/-! ## The roster -/

theorem Valid.apply (h : m.Valid) (r : Roster) (draw now : Nat) : (m.apply r draw now).2.Valid := by
  rw [Manager.apply]
  split
  · exact h
  · dsimp only
    split
    · exact h
    · -- The pool loses what does not fit the new roster, so nothing is to be shown of
      -- the adapters that stay.
      refine valid_rebuildAlive (pairwise_textLe_sorted r) (fun a ha => ?_) ?_ (fun hclosed => ?_)
        draw
      · exact (List.mem_filter.1 ha).2
      · exact h.keys.sublist (List.filter_sublist.map _)
      · show m.adapters.filter _ = []
        rw [h.emptied hclosed, List.filter_nil]

theorem Valid.refresh (h : m.Valid) (s : Sources) (draw now : Nat) :
    (m.refresh s draw now).2.2.Valid := by
  rw [Manager.refresh]
  split
  · exact h
  · split
    · exact h
    · dsimp only
      split
      · exact h
      · exact h.apply _ draw now

/-- A directory that does not answer changes nothing. -/
theorem refresh_of_error {s : Sources} {error : RpcError}
    (h : (m.refresh s draw now).1 = .error error) : (m.refresh s draw now).2.2 = m := by
  rw [Manager.refresh] at h ⊢
  split
  · rfl
  · next hopen =>
    rw [if_neg hopen] at h
    split
    · rfl
    · next d hd =>
      rw [hd] at h
      dsimp only at h ⊢
      split
      · rfl
      · next hr =>
        rw [hr] at h
        cases h

/-- A directory without active endpoints changes nothing. -/
theorem refresh_of_isEmpty {s : Sources} {d : Directory} {r : Roster} (hd : s.directory = some d)
    (hr : (d.query m.object m.set).1 = .ok r) (hempty : r.active = []) :
    (m.refresh s draw now).2.2 = m := by
  rw [Manager.refresh]
  split
  · rfl
  · have happly : m.apply r draw now = (false, m) := if_pos (by rw [hempty]; rfl)
    rw [hd]
    dsimp only
    rw [hr]
    dsimp only
    rw [happly]

theorem valid_empty (ref : Reference) (set : Option String) (config : ManagerConfig)
    (draw now : Nat) : (empty ref set config draw now).Valid where
  sorted := .nil
  pool := List.forall_mem_nil _
  keys := List.nodup_nil
  emptied _ := rfl
  sound := AliveSet.sound_ofList ..
  alive _ := (List.mergeSort_nil).symm

theorem valid_of_load {ref : Reference} {set : Option String} {config : ManagerConfig}
    {s s' : Sources} (h : load ref set config s draw now = (.ok m, s')) : m.Valid := by
  have hempty := valid_empty ref set config draw now
  rw [load] at h
  split at h
  · cases h
    exact hempty.apply ..
  · cases h
  · have hrefresh := hempty.refresh s draw now
    split at h
    · next heq =>
      cases h
      rw [heq] at hrefresh
      exact hrefresh
    · next heq =>
      rw [heq] at hrefresh
      split at h
      · cases h
        exact hrefresh.apply ..
      · cases h
        exact hrefresh

/-- A refresh takes a roster over, or does nothing. -/
theorem refresh_induction {Q : Manager → Prop} (hm : Q m)
    (happly : ∀ r, Q (m.apply r draw now).2) (s : Sources) : Q (m.refresh s draw now).2.2 := by
  rw [Manager.refresh]
  split
  · exact hm
  · split
    · exact hm
    · dsimp only
      split
      · exact hm
      · exact happly _

/-- What holds without endpoints, and when a roster is taken over, holds of a manager that
    is loaded. -/
theorem load_induction {Q : Manager → Prop} {ref : Reference} {set : Option String}
    {config : ManagerConfig} {s s' : Sources} (hempty : Q (empty ref set config draw now))
    (happly : ∀ m r, Q m → Q (m.apply r draw now).2)
    (h : load ref set config s draw now = (.ok m, s')) : Q m := by
  have hrefresh := refresh_induction hempty (fun r => happly _ r hempty) s
  rw [load] at h
  split at h
  · cases h
    exact happly _ _ hempty
  · cases h
  · split at h
    · next heq =>
      cases h
      rw [heq] at hrefresh
      exact hrefresh
    · next heq =>
      rw [heq] at hrefresh
      split at h
      · cases h
        exact happly _ _ hrefresh
      · cases h
        exact hrefresh

/-! ## Selecting -/

/-- What becomes of a manager when adapters are made for endpoints that are active. -/
structure Grows (m m' : Manager) : Prop where
  roster : m'.roster = m.roster
  closed : m'.closed = m.closed
  valid : m.Valid → m'.Valid

theorem Grows.refl (m : Manager) : m.Grows m := ⟨rfl, rfl, id⟩

theorem Grows.trans {m'' : Manager} (h : m.Grows m') (h' : m'.Grows m'') : m.Grows m'' where
  roster := h'.roster.trans h.roster
  closed := h'.closed.trans h.closed
  valid hm := h'.valid (h.valid hm)

theorem adapterFor_of_some {a : Adapter} (h : m.adapter? e.key = some a) (now : Nat) :
    m.adapterFor e now = (a, m) := by
  rw [adapterFor, h]

theorem adapterFor_of_none (h : m.adapter? e.key = none) (now : Nat) :
    m.adapterFor e now = (.new e m.config.adapter now,
      { m with adapters := m.adapters ++ [.new e m.config.adapter now] }) := by
  rw [adapterFor, h]

/-- The adapter with a key when there is one more. -/
theorem find?_key_concat (as : List Adapter) (a : Adapter) (key : String) :
    ((as ++ [a]).find? fun a => a.key == key) =
      (as.find? fun a => a.key == key).or (if a.key = key then some a else none) := by
  rw [List.find?_append, List.find?_singleton]
  simp only [beq_iff_eq]

theorem isSome_adapter?_adapterFor (m : Manager) (e : Endpoint) (now : Nat) :
    ((m.adapterFor e now).2.adapter? e.key).isSome := by
  cases h : m.adapter? e.key with
  | some a =>
    rw [adapterFor_of_some h, h]
    rfl
  | none =>
    rw [adapterFor_of_none h, adapter?, find?_key_concat, Option.isSome_or]
    simp [Adapter.key, Adapter.new]

/-- A new adapter is healthy, and its endpoint was eligible without it. -/
theorem grows_adapterFor (hopen : m.closed = false) (he : isActiveKey m.roster e.key = true)
    (now : Nat) : m.Grows (m.adapterFor e now).2 := by
  cases hnone : m.adapter? e.key with
  | some a =>
    rw [adapterFor_of_some hnone]
    exact .refl m
  | none =>
    rw [adapterFor_of_none hnone]
    refine ⟨rfl, rfl, fun h => ?_⟩
    constructor
    case sorted => exact h.sorted
    case pool =>
      intro a ha
      rcases List.mem_append.1 ha with ha | ha
      · exact h.pool a ha
      · rw [List.mem_singleton.1 ha]
        exact he
    case keys =>
      have hnew : e.key ∉ m.adapters.map Adapter.key := by
        intro hkey
        obtain ⟨a, ha, hakey⟩ := List.mem_map.1 hkey
        exact List.find?_eq_none.1 hnone a ha (beq_iff_eq.2 hakey)
      rw [List.map_append, List.nodup_append]
      refine ⟨h.keys, List.nodup_singleton _, ?_⟩
      rintro key hold _ hmem rfl
      have hkey : key = e.key := List.mem_singleton.1 hmem
      exact hnew (hkey ▸ hold)
    case emptied => exact fun hclosed => nomatch hopen.symm.trans hclosed
    case sound => exact h.sound
    case alive =>
      -- An endpoint without an adapter is as eligible as one with a healthy adapter.
      intro _
      refine (h.alive hopen).trans (Eq.symm ?_)
      refine eligible_congr rfl fun x _ => ?_
      rw [isEligible_eq, isEligible_eq, adapter?, find?_key_concat, ← adapter?]
      by_cases hx : x.key = e.key
      · rw [hx, hnone, Option.none_or]
        split <;> rfl
      · rw [if_neg fun heq => hx heq.symm, Option.or_none]

/-- Whoever is found among active endpoints is one of them, and has an adapter. -/
theorem firstHealthy_spec (now : Nat) (es : List Endpoint) (m : Manager) (hopen : m.closed = false)
    (hes : ∀ e ∈ es, isActiveKey m.roster e.key = true) :
    m.Grows (m.firstHealthy now es).2 ∧
      ∀ e, (m.firstHealthy now es).1 = some e →
        ((m.firstHealthy now es).2.adapter? e.key).isSome := by
  induction es generalizing m with
  | nil => exact ⟨.refl m, nofun⟩
  | cons e es ih =>
    have hgrows := grows_adapterFor hopen (hes e List.mem_cons_self) now
    rw [firstHealthy]
    dsimp only
    split
    · refine ⟨hgrows, fun x hx => ?_⟩
      cases hx
      exact isSome_adapter?_adapterFor m e now
    · obtain ⟨hrest, hfound⟩ := ih (m.adapterFor e now).2 (hgrows.closed.trans hopen) fun x hx => by
        rw [hgrows.roster]
        exact hes x (List.mem_cons_of_mem _ hx)
      exact ⟨hgrows.trans hrest, hfound⟩

/-- A pick changes the state of a selector only. -/
theorem Valid.withAlive (h : m.Valid) (hash : Option HashKey) (draw : Nat) :
    { m with alive := (m.alive.select hash draw).2 }.Valid :=
  ⟨h.sorted, h.pool, h.keys, h.emptied, h.sound.select, fun hopen =>
    AliveSet.endpoints_select.trans (h.alive hopen)⟩

/-- The healthy endpoint for a call, if there is one. -/
def pick (m : Manager) (hash : Option HashKey) (draw now : Nat) : Option Endpoint × Manager :=
  let (picked, alive) := m.alive.select hash draw
  match picked with
  | .ok e => { m with alive }.firstHealthy now (e :: alive.others e)
  | .error _ => (none, { m with alive })

/-- The degraded pick for a call. -/
def degrade (m : Manager) (draw now : Nat) : Except RpcError (String × Bool) × Manager :=
  if !m.config.degradeToUnhealthy then (.error (.noEndpoint m.object), m)
  else
    match m.roster.active[draw % m.roster.active.length]? with
    | some e => (.ok (e.key, true), (m.adapterFor e now).2)
    | none => (.error (.noEndpoint m.object), m)

theorem select_eq (hopen : m.closed = false) (hash : Option HashKey) (draw now : Nat) :
    m.select hash draw now =
      match (m.pick hash draw now).1 with
      | some e => (.ok (e.key, false), (m.pick hash draw now).2)
      | none => (m.pick hash draw now).2.degrade draw now := by
  rw [select, if_neg (ne_true_of_eq_false hopen), pick]
  rcases m.alive.select hash draw with ⟨_ | e, alive⟩ <;> rfl

theorem Valid.pick_spec (h : m.Valid) (hopen : m.closed = false) (hash : Option HashKey)
    (draw now : Nat) :
    { m with alive := (m.alive.select hash draw).2 }.Grows (m.pick hash draw now).2 ∧
      ∀ e, (m.pick hash draw now).1 = some e →
        ((m.pick hash draw now).2.adapter? e.key).isSome := by
  rw [pick]
  rcases hselect : m.alive.select hash draw with ⟨_ | e, alive⟩
  · exact ⟨.refl _, nofun⟩
  · -- The one that was picked and those that stand in for it are all alive.
    refine firstHealthy_spec now _ { m with alive } hopen fun x hx => ?_
    refine h.isActive_of_mem_alive hopen ?_
    have he := h.sound.mem_of_select (e := e) (by rw [hselect])
    have hendpoints : alive.endpoints = m.alive.endpoints := by
      rw [← AliveSet.endpoints_select (s := m.alive), hselect]
    rcases List.mem_cons.1 hx with rfl | hx
    · exact he
    · exact hendpoints ▸ AliveSet.mem_of_mem_others hx

theorem degrade_spec (hopen : m.closed = false) (draw now : Nat) :
    m.Grows (m.degrade draw now).2 ∧
      ∀ key degraded, (m.degrade draw now).1 = .ok (key, degraded) →
        ((m.degrade draw now).2.adapter? key).isSome := by
  rw [degrade]
  split
  · exact ⟨.refl m, nofun⟩
  · split
    · next e he =>
      refine ⟨grows_adapterFor hopen ?_ now, fun key degraded heq => ?_⟩
      · exact isActiveKey_iff.2 ⟨e, List.mem_of_getElem? he, rfl⟩
      · cases heq
        exact isSome_adapter?_adapterFor m e now
    · exact ⟨.refl m, nofun⟩

/-- Selecting keeps a manager valid, and what is selected has an adapter in the pool. -/
theorem Valid.select (h : m.Valid) (hash : Option HashKey) (draw now : Nat) :
    (m.select hash draw now).2.Valid ∧ (m.select hash draw now).2.roster = m.roster ∧
      ∀ key degraded, (m.select hash draw now).1 = .ok (key, degraded) →
        ((m.select hash draw now).2.adapter? key).isSome := by
  cases hclosed : m.closed with
  | true =>
    rw [Manager.select, hclosed]
    exact ⟨h, rfl, nofun⟩
  | false =>
    obtain ⟨hgrows, hfound⟩ := h.pick_spec hclosed hash draw now
    rw [select_eq hclosed]
    cases hpick : (m.pick hash draw now).1 with
    | none =>
      obtain ⟨hdegrade, hpicked⟩ := degrade_spec (hgrows.closed.trans hclosed) draw now
      have hall := hgrows.trans hdegrade
      exact ⟨hall.valid (h.withAlive hash draw), hall.roster, hpicked⟩
    | some e =>
      refine ⟨hgrows.valid (h.withAlive hash draw), hgrows.roster, fun key degraded heq => ?_⟩
      cases heq
      exact hfound e hpick

/-! ## Health -/

theorem Valid.addAlive (h : m.Valid) (e : Endpoint) (draw : Nat) : (m.addAlive e draw).Valid := by
  rw [Manager.addAlive]
  dsimp only
  split
  · exact valid_rebuildAlive h.sorted h.pool h.keys h.emptied draw
  · exact h

theorem map_key_modifyAdapter {key : String} {a : Adapter} (ha : a.key = key) :
    (m.modifyAdapter key fun _ => a).adapters.map Adapter.key = m.adapters.map Adapter.key := by
  rw [modifyAdapter, List.map_map]
  refine List.map_congr_left fun x _ => ?_
  rw [Function.comp_apply]
  split
  · next hx => exact ha.trans hx.symm
  · rfl

/-- An endpoint with an unhealthy adapter is active, but not alive. -/
theorem Valid.not_alive (h : m.Valid) {a : Adapter} (ha : m.adapter? e.key = some a)
    (hunhealthy : a.isHealthy = false) :
    (m.roster.active.any fun x => decide (x.Same e)) = true ∧
      (m.alive.endpoints.any fun x => decide (x.Same e)) = false := by
  obtain ⟨hmem, hkey⟩ := mem_of_adapter? ha
  constructor
  · obtain ⟨x, hx, hxkey⟩ := isActiveKey_iff.1 (h.pool a hmem)
    exact List.any_eq_true.2
      ⟨x, hx, decide_eq_true (Endpoint.key_eq_iff.1 (hxkey.trans hkey))⟩
  · have hopen : m.closed = false := by
      refine eq_false_of_ne_true fun hclosed => ?_
      rw [h.emptied hclosed] at hmem
      cases hmem
    -- The alive set is up to date, so whoever is in it has no unhealthy adapter.
    refine List.any_eq_false.2 fun x hx hsame => ?_
    rw [h.alive hopen, mem_eligible, isEligible_eq,
      Endpoint.key_eq_of_same (of_decide_eq_true hsame), ha] at hx
    cases hunhealthy.symm.trans hx.2

/-- To revive an endpoint that is not alive is to build the alive set again. -/
theorem Valid.revive (h : m.Valid) (e : Endpoint) (draw now : Nat) :
    ((m.onAdapter? e.key fun a => ((), a.heal now)).2.addAlive e draw).Valid := by
  cases ha : m.adapter? e.key with
  | none =>
    rw [Manager.onAdapter?, ha]
    exact h.addAlive e draw
  | some a =>
    cases hhealthy : a.isHealthy with
    | true =>
      -- It was healthy and stays so.
      refine (h.onAdapter? fun b hb => ?_).addAlive e draw
      cases ha.symm.trans hb
      exact ⟨rfl, hhealthy.symm⟩
    | false =>
      obtain ⟨hactive, hdead⟩ := h.not_alive ha hhealthy
      have hadd : (m.modifyAdapter e.key fun _ => a.heal now).addAlive e draw =
          (m.modifyAdapter e.key fun _ => a.heal now).rebuildAlive draw :=
        if_pos (Bool.and_eq_true_iff.2 ⟨hactive, by rw [Bool.not_eq_true']; exact hdead⟩)
      rw [Manager.onAdapter?, ha]
      dsimp only
      rw [hadd]
      exact h.rebuildAlive (map_key_modifyAdapter (a := a.heal now) (mem_of_adapter? ha).2) draw

theorem checkAdapter_spec (dial : Dialer) (keepAlive : Option Nat) (now : Nat) (lastId : Int32)
    (a : Adapter) : (checkAdapter dial keepAlive now lastId a).2.2.endpoint = a.endpoint ∧
      ((checkAdapter dial keepAlive now lastId a).1 = false →
        a.Alike (checkAdapter dial keepAlive now lastId a).2.2) := by
  have hping : ∀ b : Adapter, a.Alike b → (b.checkHealth dial now).2.endpoint = a.endpoint ∧
      (((b.checkHealth dial now).1 != .nothing) = false → a.Alike (b.checkHealth dial now).2) := by
    refine fun b hb => ⟨(b.endpoint_checkHealth dial now).trans hb.endpoint, fun hnothing => ?_⟩
    exact hb.trans (Adapter.alike_checkHealth (by simpa using hnothing))
  unfold checkAdapter
  dsimp only
  split
  · split
    · exact hping _ (a.alike_keepAlive ..)
    · exact hping a (.refl a)
  · exact hping a (.refl a)

theorem checkAdapters_spec (dial : Dialer) (keepAlive : Option Nat) (now : Nat) (lastId : Int32)
    (as : List Adapter) :
    List.Forall₂ (fun a a' => a'.endpoint = a.endpoint) as
        (checkAdapters dial keepAlive now lastId as).2.2 ∧
      ((checkAdapters dial keepAlive now lastId as).1 = false →
        List.Forall₂ Adapter.Alike as (checkAdapters dial keepAlive now lastId as).2.2) := by
  induction as generalizing lastId with
  | nil => exact ⟨.nil, fun _ => .nil⟩
  | cons a as ih =>
    obtain ⟨hendpoint, halike⟩ := checkAdapter_spec dial keepAlive now lastId a
    obtain ⟨hendpoints, halikes⟩ := ih (checkAdapter dial keepAlive now lastId a).2.1
    refine ⟨.cons hendpoint hendpoints, fun hchanged => ?_⟩
    obtain ⟨hfirst, hrest⟩ := Bool.or_eq_false_iff.1 hchanged
    exact .cons (halike hfirst) (halikes hrest)

theorem Valid.checkStatus (h : m.Valid) (dial : Dialer) (keepAlive : Option Nat) (lastId : Int32)
    (draw now : Nat) : (m.checkStatus dial keepAlive lastId draw now).2.Valid := by
  obtain ⟨hendpoints, halike⟩ := checkAdapters_spec dial keepAlive now lastId m.adapters
  rw [Manager.checkStatus]
  split
  · exact h
  · dsimp only
    split
    · exact h.rebuildAlive (map_key_of_forall₂ hendpoints) draw
    · next hchanged => exact h.alike (halike (eq_false_of_ne_true hchanged)) m.leaving

theorem Valid.close (h : m.Valid) (grace now : Nat) : (m.close grace now).Valid where
  sorted := h.sorted
  pool := List.forall_mem_nil _
  keys := List.nodup_nil
  emptied _ := rfl
  sound := h.sound
  alive := nofun

/-! ## Runs -/

/-- One operation on a manager. -/
inductive Step : Manager → Manager → Prop
  | refresh (m : Manager) (s : Sources) (draw now : Nat) : Step m (m.refresh s draw now).2.2
  | select (m : Manager) (hash : Option HashKey) (draw now : Nat) :
      Step m (m.select hash draw now).2
  /-- A call uses the adapter with a key. -/
  | use {α : Type} {f : Adapter → α × Adapter} (m : Manager) (key : String) :
      (∀ a : Adapter, a.Use (f a).2) → Step m (m.onAdapter? key f).2
  /-- A call uses the adapter on which it waits. -/
  | useOn {α : Type} {f : Adapter → α × Adapter} (m : Manager) (id : Int32) :
      (∀ a : Adapter, a.Use (f a).2) → Step m (m.onCall? id f).2
  /-- A degraded pick has answered. -/
  | revive (m : Manager) (e : Endpoint) (draw now : Nat) :
      Step m ((m.onAdapter? e.key fun a => ((), a.heal now)).2.addAlive e draw)
  | addAlive (m : Manager) (e : Endpoint) (draw : Nat) : Step m (m.addAlive e draw)
  | checkStatus (m : Manager) (dial : Dialer) (keepAlive : Option Nat) (lastId : Int32)
      (draw now : Nat) : Step m (m.checkStatus dial keepAlive lastId draw now).2
  | close (m : Manager) (grace now : Nat) : Step m (m.close grace now)
  | poll (m : Manager) (now : Nat) : Step m (m.poll now).2

/-- The managers that come of loading one and of operations, one after another. -/
inductive Reachable : Manager → Prop
  | load {ref : Reference} {set : Option String} {config : ManagerConfig} {s s' : Sources}
      {draw now : Nat} {m : Manager} :
      Manager.load ref set config s draw now = (.ok m, s') → Reachable m
  | step {m m' : Manager} : Reachable m → Step m m' → Reachable m'

theorem Valid.step (h : m.Valid) (hstep : Step m m') : m'.Valid := by
  cases hstep with
  | refresh => exact h.refresh ..
  | select => exact (h.select ..).1
  | use _ _ hf => exact h.onAdapter? fun a _ => (hf a).alike
  | useOn _ _ hf => exact h.onCall? _ fun a => (hf a).alike
  | revive => exact h.revive ..
  | addAlive => exact h.addAlive ..
  | checkStatus => exact h.checkStatus ..
  | close => exact h.close ..
  | poll => exact h.poll ..

/-- Every manager is valid. -/
theorem Reachable.valid (h : Reachable m) : m.Valid := by
  induction h with
  | load hload => exact valid_of_load hload
  | step _ hstep ih => exact ih.step hstep

/-- What holds of a manager after each operation. -/
structure Orderly (m : Manager) : Prop where
  /-- The adapters in the pool are those of active endpoints. -/
  pool : ∀ a ∈ m.adapters, ∃ e ∈ m.roster.active, e.key = a.key
  /-- The active endpoints without an unhealthy adapter are alive, and no others. -/
  alive : m.closed = false → m.alive.endpoints.Perm (m.roster.active.filter m.isEligible)
  /-- They go by checksum, and by text where that is the same. -/
  ordered : m.closed = false → m.alive.endpoints.Pairwise Before
  /-- What is selected is the adapter of an active endpoint. -/
  selected : ∀ hash draw now key degraded, (m.select hash draw now).1 = .ok (key, degraded) →
    ∃ a, (m.select hash draw now).2.adapter? key = some a ∧
      ∃ e ∈ m.roster.active, e.Same a.endpoint
  /-- A directory that does not answer changes nothing. -/
  unanswered : ∀ s draw now error, (m.refresh s draw now).1 = .error error →
    (m.refresh s draw now).2.2 = m
  /-- A directory without active endpoints changes nothing. -/
  unmanned : ∀ (s : Sources) (d : Directory) (r : Roster) (draw now : Nat), s.directory = some d →
    (d.query m.object m.set).1 = .ok r → r.active = [] → (m.refresh s draw now).2.2 = m

/-- Every manager is orderly. -/
theorem Reachable.orderly (h : Reachable m) : Orderly m := by
  have hvalid := h.valid
  constructor
  case pool => exact fun a ha => isActiveKey_iff.1 (hvalid.pool a ha)
  case alive =>
    intro hopen
    rw [hvalid.alive hopen]
    exact List.mergeSort_perm ..
  case ordered =>
    intro hopen
    rw [hvalid.alive hopen]
    exact pairwise_eligible hvalid.sorted
  case selected =>
    intro hash draw now key degraded hkey
    obtain ⟨hselected, hroster, hpooled⟩ := hvalid.select hash draw now
    obtain ⟨a, ha⟩ := Option.isSome_iff_exists.1 (hpooled key degraded hkey)
    obtain ⟨e, he, hsame⟩ := isActiveKey_iff.1 (hselected.pool a (mem_of_adapter? ha).1)
    exact ⟨a, ha, e, hroster ▸ he, Endpoint.key_eq_iff.1 hsame⟩
  case unanswered => exact fun _ _ _ _ => refresh_of_error
  case unmanned => exact fun _ _ _ _ _ => refresh_of_isEmpty

/-- The only endpoint fails a call and is found unhealthy: none is alive then, and the
    next pick is degraded. -/
theorem Reachable.orderly_degraded : ∃ m : Manager, Reachable m ∧
    m.roster.active.length = 1 ∧ m.alive.endpoints = [] ∧
    (m.select none 0 9000).1.toOption = some ("a:1", true) ∧ Orderly m := by
  have loaded := @Reachable.load ⟨"echo", some [{ host := "a", port := 1 }]⟩ none
    { adapter := { object := "echo", health := { failThreshold := 1 } } } {} {} 0 0 _ rfl
  have selected := loaded.step (.select _ none 0 1000)
  have failed := selected.step
    (.use (f := fun a => ((), a.record false 2000)) _ "a:1" fun a => .record a false 2000)
  have checked := failed.step (.checkStatus _ (fun _ _ => .ok ()) none 0 0 8000)
  exact ⟨_, checked, by decide +kernel, by decide +kernel, by decide +kernel, checked.orderly⟩

end Manager

end TaggedRpc
