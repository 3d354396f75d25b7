import TaggedRpc.Proofs.Manager.Availability

/-!
# Where pushes go

An adapter hands the pushes of its endpoint to one callback (`Manager.pushTo`). Calls, status checks
and time leave it alone (`Manager.Beside`), and so do the selections that make adapters, as nobody
has given these a callback yet. Only a refresh takes callbacks away, with the adapters that it
evicts (`Manager.pushTo_refresh`).

None of them makes another manager of a manager: it stays the one of its object in its set, with its
pinned endpoints if it has any (`Manager.Onward`).
-/

namespace TaggedRpc

/-- The payload of a push, unless it asks to be connected anew. -/
def Response.payload? (r : Response) : Option Bytes :=
  if r.isPush ∧ r.description ≠ Packet.reconnectDirective then some r.buffer else none

/-- The callback that an arrival runs, and what the callback gets. -/
def Arrival.push? : Arrival → Option (String × Bytes)
  | .pushed callback payload => some (callback, payload)
  | _ => none

/-! ## Adapters -/

namespace Adapter

/-- The payloads of the pushes in what is read. -/
def payloads (a : Adapter) (chunk : Bytes) (now : Nat) : List Bytes :=
  let frames := (a.connection.receive chunk now).1
  (frames.filterMap fun f => (Response.unpack f).toOption).filterMap Response.payload?

variable (a : Adapter) (now : Nat)

@[simp] theorem pushTo_modifyConnection (number : Nat) (f : Connection → Connection) :
    (a.modifyConnection number f).pushTo = a.pushTo := by
  rw [modifyConnection]
  split <;> rfl

@[simp] theorem pushTo_finishCall (number : Nat) (success : Bool) :
    (a.finishCall number success now).pushTo = a.pushTo :=
  a.pushTo_modifyConnection number _

@[simp] theorem pushTo_send (dial : Dialer) (r : Request) :
    (a.send dial r now).2.pushTo = a.pushTo := by
  rw [send]
  split
  · rfl
  · split <;> rfl

@[simp] theorem pushTo_replaceConnection : (a.replaceConnection now).pushTo = a.pushTo := by
  rw [replaceConnection]
  split <;> rfl

@[simp] theorem pushTo_onResponse (r : Response) : (a.onResponse r now).2.pushTo = a.pushTo := by
  rw [onResponse]
  split
  · split
    · exact a.pushTo_replaceConnection now
    · split <;> rfl
  · split
    · rfl
    · split <;> rfl

@[simp] theorem pushTo_onResponses (rs : List Response) :
    (a.onResponses now rs).2.pushTo = a.pushTo := by
  induction rs generalizing a with
  | nil => rfl
  | cons r rs ih => exact (ih _).trans (a.pushTo_onResponse now r)

@[simp] theorem pushTo_receive (chunk : Bytes) : (a.receive chunk now).2.pushTo = a.pushTo :=
  pushTo_onResponses ..

@[simp] theorem pushTo_keepAlive (dial : Dialer) (interval : Nat) (lastId : Int32) :
    (a.keepAlive dial interval lastId now).2.pushTo = a.pushTo := by
  rw [keepAlive]
  split
  · rfl
  · exact a.pushTo_send ..

@[simp] theorem pushTo_checkHealth (dial : Dialer) :
    (a.checkHealth dial now).2.pushTo = a.pushTo := by
  rw [checkHealth]
  dsimp only
  split
  · rfl
  · rfl
  · split <;> rfl

@[simp] theorem pushTo_poll : (a.poll now).2.pushTo = a.pushTo := by
  rw [poll]
  split <;> rfl

theorem push?_onResponse (r : Response) :
    (a.onResponse r now).1.push? = r.payload?.bind fun payload => a.pushTo.map (·, payload) := by
  rw [onResponse]
  by_cases hpush : r.isPush = true
  · by_cases hreconnect : r.description = Packet.reconnectDirective
    · have hnone : r.payload? = none := if_neg fun h => h.2 hreconnect
      rw [if_pos hpush, if_pos hreconnect, hnone]
      rfl
    · have hsome : r.payload? = some r.buffer := if_pos ⟨hpush, hreconnect⟩
      rw [if_pos hpush, if_neg hreconnect, hsome, Option.bind_some]
      cases a.pushTo <;> rfl
  · have hnone : r.payload? = none := if_neg fun h => hpush h.1
    rw [if_neg hpush, hnone]
    split
    · rfl
    · split <;> rfl

/-- All pushes run the callback of the adapter, if it has one. -/
theorem push?_onResponses (rs : List Response) :
    (a.onResponses now rs).1.filterMap Arrival.push? =
      (rs.filterMap Response.payload?).filterMap fun payload => a.pushTo.map (·, payload) := by
  induction rs generalizing a with
  | nil => rfl
  | cons r rs ih =>
    rw [onResponses]
    dsimp only
    rw [List.filterMap_cons, push?_onResponse, ih, pushTo_onResponse, List.filterMap_cons]
    cases r.payload? with
    | none => rfl
    | some payload =>
      rw [Option.bind_some, List.filterMap_cons]

theorem push?_receive (chunk : Bytes) : (a.receive chunk now).1.filterMap Arrival.push? =
    (a.payloads chunk now).filterMap fun payload => a.pushTo.map (·, payload) :=
  push?_onResponses ..

/-- An adapter of the same endpoint whose pushes go where they did. -/
structure Beside (a a' : Adapter) : Prop where
  endpoint : a'.endpoint = a.endpoint
  pushTo : a'.pushTo = a.pushTo

variable {a}

theorem Beside.refl (a : Adapter) : a.Beside a := ⟨rfl, rfl⟩

theorem Beside.trans {b c : Adapter} (hab : a.Beside b) (hbc : b.Beside c) : a.Beside c :=
  ⟨hbc.endpoint.trans hab.endpoint, hbc.pushTo.trans hab.pushTo⟩

theorem Beside.key {b : Adapter} (h : a.Beside b) : b.key = a.key :=
  congrArg Endpoint.key h.endpoint

/-- What a call does, except that it may bring a callback. -/
theorem Use.beside {b : Adapter} (h : a.Use b) (hpush : b.pushTo = a.pushTo) : a.Beside b :=
  ⟨h.alike.endpoint, hpush⟩

theorem beside_receive (a : Adapter) (chunk : Bytes) (now : Nat) :
    a.Beside (a.receive chunk now).2 :=
  (Use.receive a chunk now).beside (a.pushTo_receive now chunk)

theorem beside_send (a : Adapter) (dial : Dialer) (r : Request) (now : Nat) :
    a.Beside (a.send dial r now).2 :=
  (Use.send a dial r now).beside (a.pushTo_send now dial r)

theorem beside_finishCall (a : Adapter) (number : Nat) (success : Bool) (now : Nat) :
    a.Beside (a.finishCall number success now) :=
  (Use.finishCall a number success now).beside (a.pushTo_finishCall now number success)

theorem beside_cancel (a : Adapter) (id : Int32) : a.Beside (a.cancel id).2 := ⟨rfl, rfl⟩

theorem beside_poll (a : Adapter) (now : Nat) : a.Beside (a.poll now).2 :=
  ⟨(a.alike_poll now).endpoint, a.pushTo_poll now⟩

theorem beside_checkHealth (a : Adapter) (dial : Dialer) (now : Nat) :
    a.Beside (a.checkHealth dial now).2 :=
  ⟨a.endpoint_checkHealth dial now, a.pushTo_checkHealth now dial⟩

theorem beside_keepAlive (a : Adapter) (dial : Dialer) (interval : Nat) (lastId : Int32)
    (now : Nat) : a.Beside (a.keepAlive dial interval lastId now).2 :=
  ⟨(a.alike_keepAlive dial interval lastId now).endpoint,
    a.pushTo_keepAlive now dial interval lastId⟩

end Adapter

namespace Manager

variable {m m' m'' : Manager} {s : Sources} {draw now : Nat}

/-! ## Staying the same manager -/

/-- The manager of the same object in the same set. -/
structure Onward (m m' : Manager) : Prop where
  object : m'.object = m.object
  set : m'.set = m.set
  direct : m'.direct = m.direct
  config : m'.config = m.config
  /-- Pinned endpoints stay. -/
  pinned : m.direct = true → m'.roster = m.roster
  /-- It is not opened again. -/
  closed : m.closed = true → m'.closed = true

theorem Onward.refl (m : Manager) : m.Onward m := ⟨rfl, rfl, rfl, rfl, fun _ => rfl, id⟩

theorem Onward.trans (h : m.Onward m') (h' : m'.Onward m'') : m.Onward m'' where
  object := h'.object.trans h.object
  set := h'.set.trans h.set
  direct := h'.direct.trans h.direct
  config := h'.config.trans h.config
  pinned hdirect := (h'.pinned (h.direct.trans hdirect)).trans (h.pinned hdirect)
  closed := h'.closed ∘ h.closed

/-- The name of the callback that the pushes of an endpoint go to. -/
def pushTo (m : Manager) (key : String) : Option String := (m.adapter? key).bind Adapter.pushTo

/-- A manager in which the pushes of each endpoint go where they did. -/
structure Beside (m m' : Manager) : Prop extends Onward m m' where
  pushTo (key : String) : m'.pushTo key = m.pushTo key

theorem Beside.refl (m : Manager) : m.Beside m := ⟨.refl m, fun _ => rfl⟩

theorem Beside.trans (h : m.Beside m') (h' : m'.Beside m'') : m.Beside m'' :=
  ⟨h.toOnward.trans h'.toOnward, fun key => (h'.pushTo key).trans (h.pushTo key)⟩

/-! ## What leaves the callbacks alone -/

theorem pushTo_adapterFor (m : Manager) (e : Endpoint) (now : Nat) (key : String) :
    (m.adapterFor e now).2.pushTo key = m.pushTo key := by
  cases hnone : m.adapter? e.key with
  | some a => rw [adapterFor_of_some hnone]
  | none =>
    rw [adapterFor_of_none hnone, pushTo, adapter?, find?_key_concat, ← adapter?, pushTo]
    cases m.adapter? key with
    | some a => rfl
    | none =>
      -- An adapter that was made just now has no callback.
      rw [Option.none_or]
      split <;> rfl

theorem beside_adapterFor (m : Manager) (e : Endpoint) (now : Nat) :
    m.Beside (m.adapterFor e now).2 := by
  have hpush := pushTo_adapterFor m e now
  obtain ⟨adapters, heq⟩ := adapterFor_eq_with_adapters m e now
  rw [heq] at hpush ⊢
  exact ⟨⟨rfl, rfl, rfl, rfl, fun _ => rfl, id⟩, hpush⟩

theorem beside_firstHealthy (now : Nat) (es : List Endpoint) (m : Manager) :
    m.Beside (m.firstHealthy now es).2 := by
  induction es generalizing m with
  | nil => exact .refl m
  | cons e es ih =>
    rw [firstHealthy]
    dsimp only
    split
    · exact beside_adapterFor m e now
    · exact (beside_adapterFor m e now).trans (ih _)

theorem beside_withAlive (m : Manager) (alive : AliveSet) : m.Beside { m with alive } :=
  ⟨⟨rfl, rfl, rfl, rfl, fun _ => rfl, id⟩, fun _ => rfl⟩

theorem beside_pick (m : Manager) (hash : Option HashKey) (draw now : Nat) :
    m.Beside (m.pick hash draw now).2 := by
  rw [pick]
  rcases m.alive.select hash draw with ⟨_ | e, alive⟩
  · exact m.beside_withAlive alive
  · exact (m.beside_withAlive alive).trans (beside_firstHealthy ..)

theorem adapter?_pick {hash : Option HashKey} {e : Endpoint}
    (h : (m.pick hash draw now).1 = some e) :
    ∃ a, (m.pick hash draw now).2.adapter? e.key = some a := by
  rw [pick] at h ⊢
  rcases hselect : m.alive.select hash draw with ⟨_ | picked, alive⟩
  · rw [hselect] at h
    cases h
  · rw [hselect] at h
    obtain ⟨a, ha, -⟩ := firstHealthy_snd _ _ _ h
    exact ⟨a, ha⟩

theorem adapter?_degrade {key : String} {degraded : Bool}
    (h : (m.degrade draw now).1 = .ok (key, degraded)) :
    ∃ a, (m.degrade draw now).2.adapter? key = some a := by
  rw [degrade] at h ⊢
  split at h
  · cases h
  · next hdegrade =>
    rw [if_neg hdegrade]
    split at h
    · next e he =>
      cases h
      exact ⟨_, adapter?_adapterFor m e now⟩
    · cases h

theorem beside_degrade (m : Manager) (draw now : Nat) : m.Beside (m.degrade draw now).2 := by
  rw [degrade]
  split
  · exact .refl m
  · split
    · exact beside_adapterFor ..
    · exact .refl m

theorem beside_select (m : Manager) (hash : Option HashKey) (draw now : Nat) :
    m.Beside (m.select hash draw now).2 := by
  by_cases hclosed : m.closed = true
  · rw [Manager.select, if_pos hclosed]
    exact .refl m
  · rw [select_eq (eq_false_of_ne_true hclosed)]
    cases (m.pick hash draw now).1 with
    | some => exact m.beside_pick ..
    | none => exact (m.beside_pick ..).trans (beside_degrade ..)

theorem pushTo_find?_of_forall₂ {as as' : List Adapter} (h : List.Forall₂ Adapter.Beside as as')
    (key : String) : (as'.find? fun a => a.key == key).bind Adapter.pushTo =
      (as.find? fun a => a.key == key).bind Adapter.pushTo := by
  induction h with
  | nil => rfl
  | cons hhead _ ih =>
    -- Both lists have the key at the same places, so both searches end at the same one.
    rw [List.find?_cons, List.find?_cons, hhead.key]
    split
    · exact hhead.pushTo
    · exact ih

/-- Adapters change, but neither their endpoints nor their callbacks. -/
theorem beside_of_forall₂ {as : List Adapter} (h : List.Forall₂ Adapter.Beside m.adapters as)
    (leaving : List Adapter) : m.Beside { m with adapters := as, leaving } :=
  ⟨⟨rfl, rfl, rfl, rfl, fun _ => rfl, id⟩, pushTo_find?_of_forall₂ h⟩

theorem beside_map {f : Adapter → Adapter} (hf : ∀ a ∈ m.adapters, a.Beside (f a))
    (leaving : List Adapter) : m.Beside { m with adapters := m.adapters.map f, leaving } :=
  beside_of_forall₂ (List.forall₂_map_right_iff.2 (List.forall₂_same.2 hf)) leaving

theorem onward_onAdapter? {α : Type} (m : Manager) (key : String) (f : Adapter → α × Adapter) :
    m.Onward (m.onAdapter? key f).2 := by
  rw [Manager.onAdapter?]
  split <;> exact ⟨rfl, rfl, rfl, rfl, fun _ => rfl, id⟩

/-- One adapter may get another callback. -/
theorem pushTo_onAdapter? {α : Type} {key : String} {f : Adapter → α × Adapter} {a : Adapter}
    (ha : m.adapter? key = some a) (hkey : (f a).2.key = key) (k : String) :
    (m.onAdapter? key f).2.pushTo k = if k = key then (f a).2.pushTo else m.pushTo k := by
  rw [Manager.onAdapter?, ha]
  dsimp only
  rw [pushTo, adapter?_modifyAdapter ha hkey]
  split <;> rfl

theorem beside_onAdapter? {α : Type} (m : Manager) (key : String) {f : Adapter → α × Adapter}
    (hf : ∀ a : Adapter, a.Beside (f a).2) : m.Beside (m.onAdapter? key f).2 := by
  refine ⟨m.onward_onAdapter? key f, fun k => ?_⟩
  cases ha : m.adapter? key with
  | none => rw [Manager.onAdapter?, ha]
  | some a =>
    rw [pushTo_onAdapter? ha ((hf a).key.trans (mem_of_adapter? ha).2)]
    split
    · next hk => rw [hk, pushTo, ha, Option.bind_some, (hf a).pushTo]
    · rfl

theorem beside_onCall? {α : Type} (m : Manager) (id : Int32) {f : Adapter → α × Adapter}
    (hf : ∀ a : Adapter, a.Beside (f a).2) : m.Beside (m.onCall? id f).2 := by
  rw [Manager.onCall?]
  dsimp only
  split
  · refine beside_map (fun a _ => ?_) _
    split
    · exact hf a
    · exact .refl a
  · exact .refl m

theorem beside_poll (m : Manager) (now : Nat) : m.Beside (m.poll now).2 := by
  rw [Manager.poll]
  refine beside_map (fun a _ => ?_) _
  exact (a.beside_poll now).trans ⟨rfl, rfl⟩

theorem beside_addAlive (m : Manager) (e : Endpoint) (draw : Nat) :
    m.Beside (m.addAlive e draw) := by
  rw [addAlive]
  dsimp only
  split
  · exact m.beside_withAlive _
  · exact .refl m

theorem beside_checkAdapter (dial : Dialer) (keepAlive : Option Nat) (now : Nat) (lastId : Int32)
    (a : Adapter) : a.Beside (checkAdapter dial keepAlive now lastId a).2.2 := by
  unfold checkAdapter
  dsimp only
  split
  · split
    · exact (a.beside_keepAlive ..).trans (Adapter.beside_checkHealth ..)
    · exact a.beside_checkHealth dial now
  · exact a.beside_checkHealth dial now

theorem beside_checkAdapters (dial : Dialer) (keepAlive : Option Nat) (now : Nat) (lastId : Int32)
    (as : List Adapter) :
    List.Forall₂ Adapter.Beside as (checkAdapters dial keepAlive now lastId as).2.2 := by
  induction as generalizing lastId with
  | nil => exact .nil
  | cons a as ih => exact .cons (beside_checkAdapter ..) (ih _)

theorem beside_checkStatus (m : Manager) (dial : Dialer) (keepAlive : Option Nat) (lastId : Int32)
    (draw now : Nat) : m.Beside (m.checkStatus dial keepAlive lastId draw now).2 := by
  have hchecked := beside_of_forall₂ (beside_checkAdapters dial keepAlive now lastId m.adapters)
    m.leaving
  rw [Manager.checkStatus]
  split
  · exact .refl m
  · dsimp only
    split
    · exact hchecked.trans (beside_withAlive ..)
    · exact hchecked

/-- A selection leads to an adapter. -/
theorem adapter?_select {hash : Option HashKey} {key : String} {degraded : Bool}
    (h : (m.select hash draw now).1 = .ok (key, degraded)) :
    ∃ a, (m.select hash draw now).2.adapter? key = some a := by
  by_cases hclosed : m.closed = true
  · rw [Manager.select, if_pos hclosed] at h
    cases h
  · rw [select_eq (eq_false_of_ne_true hclosed)] at h ⊢
    cases hpicked : (m.pick hash draw now).1 with
    | some e =>
      rw [hpicked] at h
      cases h
      obtain ⟨a, ha⟩ := adapter?_pick hpicked
      exact ⟨a, ha⟩
    | none =>
      rw [hpicked] at h
      exact adapter?_degrade h

/-! ## What takes callbacks away -/

/-- A refresh changes nothing, or it says so and has taken a roster over. -/
theorem refresh_cases (m : Manager) (s : Sources) (draw now : Nat) :
    (m.refresh s draw now).1 ≠ .ok true ∧ (m.refresh s draw now).2.2 = m ∨
      m.direct = false ∧ (m.refresh s draw now).1 = .ok true ∧ ∃ r,
        (m.refresh s draw now).2.2 =
          ({ m with roster := sorted r }.evict now).rebuildAlive draw := by
  by_cases hopen : (m.direct || m.closed) = true
  · rw [Manager.refresh, if_pos hopen]
    exact .inl ⟨by simp, rfl⟩
  cases hd : s.directory with
  | none =>
    rw [Manager.refresh, if_neg hopen, hd]
    exact .inl ⟨by simp, rfl⟩
  | some d =>
    cases hr : (d.query m.object m.set).1 with
    | error e =>
      rw [Manager.refresh, if_neg hopen, hd]
      dsimp only
      rw [hr]
      exact .inl ⟨by simp, rfl⟩
    | ok r =>
      obtain ⟨s', hrefresh⟩ := refresh_eq_apply (eq_false_of_ne_true hopen) hd hr draw now
      rw [hrefresh]
      rcases m.apply_cases r draw now with happly | happly <;> rw [happly]
      · exact .inl ⟨by simp, rfl⟩
      · have hdirect := (Bool.or_eq_false_iff.1 (eq_false_of_ne_true hopen)).1
        exact .inr ⟨hdirect, rfl, r, rfl⟩

theorem refresh_of_ne (h : (m.refresh s draw now).1 ≠ .ok true) :
    (m.refresh s draw now).2.2 = m := by
  rcases m.refresh_cases s draw now with ⟨-, heq⟩ | ⟨-, hchanged, -⟩
  · exact heq
  · exact absurd hchanged h

theorem onward_refresh (m : Manager) (s : Sources) (draw now : Nat) :
    m.Onward (m.refresh s draw now).2.2 := by
  rcases m.refresh_cases s draw now with ⟨-, heq⟩ | ⟨hdirect, -, r, heq⟩ <;> rw [heq]
  · exact .refl m
  · refine ⟨rfl, rfl, rfl, rfl, fun hdirect' => ?_, id⟩
    cases hdirect.symm.trans hdirect'

/-- A manager that is loaded has no adapters. -/
theorem pushTo_of_load {ref : Reference} {set : Option String} {config : ManagerConfig}
    {s' : Sources} (h : load ref set config s draw now = (.ok m, s')) (key : String) :
    m.pushTo key = none := by
  rw [pushTo, adapter?, adapters_of_load h]
  rfl

/-- Looking up among the adapters with keys of a kind. -/
theorem find?_filter_key (p : String → Bool) (as : List Adapter) (key : String) :
    ((as.filter fun a => p a.key).find? fun a => a.key == key) =
      if p key = true then as.find? fun a => a.key == key else none := by
  rw [List.find?_filter]
  have hcongr : (fun a : Adapter => decide (p a.key = true ∧ (a.key == key) = true)) =
      fun a => decide (p key = true ∧ (a.key == key) = true) := by
    funext a
    by_cases ha : a.key = key
    · rw [ha]
    · simp [ha]
  rw [hcongr]
  split
  · next hp => simp only [hp, true_and, Bool.decide_eq_true]
  · next hp => simp [hp]

/-- A refresh takes callbacks away with the adapters of endpoints that are not active any more. -/
theorem pushTo_refresh (h : (m.refresh s draw now).1 = .ok true) (key : String) :
    (m.refresh s draw now).2.2.pushTo key =
      if isActiveKey (m.refresh s draw now).2.2.roster key = true then m.pushTo key else none := by
  rcases m.refresh_cases s draw now with ⟨hne, -⟩ | ⟨-, -, r, heq⟩
  · exact absurd h hne
  · rw [heq]
    show ((m.adapters.filter fun a => isActiveKey (sorted r) a.key).find? _).bind _ =
      if isActiveKey (sorted r) key = true then m.pushTo key else none
    rw [find?_filter_key]
    split <;> rfl

end Manager

end TaggedRpc
