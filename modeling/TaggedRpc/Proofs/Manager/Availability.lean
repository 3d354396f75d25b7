import TaggedRpc.Proofs.Manager.Solo
import TaggedRpc.Proofs.Selection.Supply

/-!
# Calls find healthy endpoints

The alive set of a manager lags behind health, so a selection that picks an unhealthy
endpoint walks on to the others of the alive set. The walk comes by all of them
(`AliveSet.same_or_mem_others`) and stops at the first one that is eligible
(`Manager.firstHealthy_fst`). So if an alive endpoint is eligible, a call gets a healthy
adapter of an alive endpoint as soon as the alive set picks anything at all, and that it
does unless it is asked for the ring of endpoints that weigh nothing.

This holds in every scene that a run of operations among threads comes by
(`Manager.Scene.Run.select_healthy_iff`). On the ring of endpoints that weigh nothing a
healthy endpoint is passed over (`Manager.not_select_healthy`).
-/

namespace TaggedRpc

namespace AliveSet

variable {s : AliveSet} {e x : Endpoint}

/-- A walk that starts at an endpoint comes by all of them, each under its key. -/
theorem same_or_mem_others (he : e ∈ s.endpoints) (hx : x ∈ s.endpoints) :
    x.Same e ∨ x ∈ s.others e := by
  let same : Endpoint → Bool := fun x => decide (x.Same e)
  have hlt : s.endpoints.findIdx same < s.endpoints.length :=
    List.findIdx_lt_length_of_exists ⟨e, he, decide_eq_true ⟨rfl, rfl⟩⟩
  have hstart : (s.endpoints[s.endpoints.findIdx same]).Same e :=
    of_decide_eq_true (List.findIdx_getElem (p := same) (w := hlt))
  have hothers : s.others e = s.endpoints.drop (s.endpoints.findIdx same + 1) ++
      s.endpoints.take (s.endpoints.findIdx same) := by
    rw [others, if_pos hlt]
  rw [← List.take_append_drop (s.endpoints.findIdx same) s.endpoints, List.mem_append,
    List.drop_eq_getElem_cons hlt, List.mem_cons] at hx
  rw [hothers, List.mem_append]
  rcases hx with hx | rfl | hx
  · exact .inr (.inr hx)
  · exact .inl hstart
  · exact .inr (.inl hx)

end AliveSet

namespace Manager

variable {m m' : Manager} {e x : Endpoint}

/-! ## Walking -/

theorem isEligible_congr (h : x.Same e) : m.isEligible x = m.isEligible e := by
  rw [isEligible_eq, isEligible_eq, Endpoint.key_eq_of_same h]

theorem isEligible_adapterFor (m : Manager) (e : Endpoint) (now : Nat) :
    (m.adapterFor e now).2.isEligible = m.isEligible := by
  funext x
  rw [isEligible_eq, isEligible_eq, isHealthy_adapterFor]

/-- The adapter of an endpoint is healthy if the endpoint is eligible, also if it was made
    just now. -/
theorem isHealthy_fst_adapterFor (m : Manager) (e : Endpoint) (now : Nat) :
    (m.adapterFor e now).1.isHealthy = m.isEligible e := by
  rw [← isEligible_adapterFor m e now, isEligible_eq, adapter?_adapterFor, Option.all_some]

/-- A walk stops at the first eligible endpoint. -/
theorem firstHealthy_fst (now : Nat) (es : List Endpoint) (m : Manager) :
    (m.firstHealthy now es).1 = es.find? m.isEligible := by
  induction es generalizing m with
  | nil => rfl
  | cons e es ih =>
    rw [firstHealthy, List.find?_cons]
    dsimp only
    rw [isHealthy_fst_adapterFor]
    cases m.isEligible e with
    | true => rfl
    | false => exact (ih _).trans (by rw [isEligible_adapterFor])

/-- Whoever it stops at has a healthy adapter then. -/
theorem firstHealthy_snd (now : Nat) (es : List Endpoint) (m : Manager)
    (h : (m.firstHealthy now es).1 = some e) :
    ∃ a, (m.firstHealthy now es).2.adapter? e.key = some a ∧ a.isHealthy = true := by
  induction es generalizing m with
  | nil => cases h
  | cons x es ih =>
    rw [firstHealthy] at h ⊢
    dsimp only at h ⊢
    split
    · next hhealthy =>
      rw [if_pos hhealthy] at h
      cases h
      exact ⟨_, adapter?_adapterFor m e now, hhealthy⟩
    · next hunhealthy =>
      rw [if_neg hunhealthy] at h
      exact ih _ h

/-- A walk from a pick finds a healthy endpoint if one is alive. -/
theorem exists_find?_candidates {s : AliveSet} (he : e ∈ s.endpoints) (hx : x ∈ s.endpoints)
    (hhealthy : m.isEligible x = true) :
    ∃ y ∈ s.endpoints, (e :: s.others e).find? m.isEligible = some y := by
  have hfound : ((e :: s.others e).find? m.isEligible).isSome := by
    rw [List.find?_isSome]
    rcases AliveSet.same_or_mem_others he hx with hsame | hmem
    · exact ⟨e, List.mem_cons_self, (isEligible_congr hsame).symm.trans hhealthy⟩
    · exact ⟨x, List.mem_cons_of_mem _ hmem, hhealthy⟩
  obtain ⟨y, hy⟩ := Option.isSome_iff_exists.1 hfound
  refine ⟨y, ?_, hy⟩
  rcases List.mem_cons.1 (List.mem_of_find?_eq_some hy) with rfl | hmem
  · exact he
  · exact AliveSet.mem_of_mem_others hmem

/-! ## Selecting -/

/-- A degraded pick says so. -/
theorem degrade_eq_true {draw now : Nat} {key : String} {degraded : Bool}
    (h : (m.degrade draw now).1 = .ok (key, degraded)) : degraded = true := by
  rw [degrade] at h
  split at h
  · cases h
  · split at h
    · cases h
      rfl
    · cases h

section Select

variable (hfilled : m.alive.Filled) (hopen : m.closed = false) {hash : Option HashKey}
  {draw now : Nat}
include hfilled hopen

theorem select_healthy (hx : x ∈ m.alive.endpoints) (hhealthy : m.isEligible x = true)
    (hring : ∀ code, hash = some (.ring code) → ¬AliveSet.Weightless m.alive.endpoints) :
    ∃ e ∈ m.alive.endpoints, ∃ a, (m.select hash draw now).1 = .ok (e.key, false) ∧
      (m.select hash draw now).2.adapter? e.key = some a ∧ a.isHealthy = true := by
  obtain ⟨e, he, hpicked⟩ := hfilled.exists_select draw (List.ne_nil_of_mem hx) hring
  have hpick : m.pick hash draw now = { m with alive := (m.alive.select hash draw).2 }.firstHealthy
      now (e :: (m.alive.select hash draw).2.others e) := by
    rw [pick]
    rcases hselect : m.alive.select hash draw with ⟨r, alive⟩
    rw [hselect] at hpicked
    cases hpicked
    rfl
  have hendpoints : (m.alive.select hash draw).2.endpoints = m.alive.endpoints :=
    AliveSet.endpoints_select
  obtain ⟨y, hy, hfind⟩ := exists_find?_candidates (hendpoints ▸ he) (hendpoints ▸ hx) hhealthy
  have hfound : (m.pick hash draw now).1 = some y := by
    rw [hpick, firstHealthy_fst]
    exact hfind
  obtain ⟨a, ha, hahealthy⟩ := firstHealthy_snd now _ _ (hpick ▸ hfound)
  rw [select_eq hopen, hfound]
  exact ⟨y, hendpoints ▸ hy, a, rfl, hpick ▸ ha, hahealthy⟩

/-- The ring of endpoints that weigh nothing leads to a degraded pick at best. -/
theorem select_weightless {code : UInt32} (hne : m.alive.endpoints ≠ [])
    (hweightless : AliveSet.Weightless m.alive.endpoints) (key : String) :
    (m.select (some (.ring code)) draw now).1 ≠ .ok (key, false) := by
  have hpick : (m.pick (some (.ring code)) draw now).1 = none := by
    rw [pick]
    dsimp only
    rw [hfilled.select_ring hne hweightless]
  intro hselect
  rw [select_eq hopen, hpick] at hselect
  cases degrade_eq_true hselect

end Select

/-! ## Runs -/

theorem filled_apply (h : m.alive.Filled) (r : Roster) (draw now : Nat) :
    (m.apply r draw now).2.alive.Filled := by
  rw [Manager.apply]
  split
  · exact h
  · dsimp only
    split
    · exact h
    · exact AliveSet.filled_ofList ..

namespace Task

variable {t : Task} {t' : Option Task}

/-- The alive set that a task is about to publish has endpoints to pick from. -/
def Filled : Task → Prop
  | publishing _ s => s.Filled
  | _ => True

theorem Step.filled (h : Step m t m' t') (halive : m.alive.Filled) (ht : t.Filled) :
    m'.alive.Filled ∧ ∀ x, t' = some x → x.Filled := by
  cases h with
  | build =>
    refine ⟨halive, ?_⟩
    rintro _ ⟨⟩
    exact AliveSet.filled_ofList ..
  | publish => exact ⟨ht, fun _ h => nomatch h⟩
  | pick =>
    refine ⟨halive.select, ?_⟩
    rintro _ ⟨⟩
    trivial
  | take | pass | settle =>
    refine ⟨(alive_adapterFor ..).symm ▸ halive, ?_⟩
    rintro _ ⟨⟩
    trivial
  | _ => exact ⟨halive, by rintro _ ⟨⟩ <;> trivial⟩

end Task

namespace Scene

/-- The alive sets in a scene have endpoints to pick from. -/
structure Filled (s : Scene) : Prop where
  alive : s.manager.alive.Filled
  tasks : ∀ t ∈ s.tasks, t.Filled

theorem Step.filled {s s' : Scene} (h : Step s s') (hs : s.Filled) : s'.Filled := by
  cases h with
  | start h => cases h <;> exact ⟨hs.alive, List.forall_mem_cons.2 ⟨trivial, hs.tasks⟩⟩
  | go before after h =>
    obtain ⟨halive, hnext⟩ := h.filled hs.alive (hs.tasks _ List.mem_append_cons_self)
    exact ⟨halive, forall_mem_go hs.tasks hnext⟩
  | serve h => exact ⟨h.alive ▸ hs.alive, hs.tasks⟩

theorem Run.filled {P : Scene → Prop} {s s' : Scene} (h : Run P s s') (hs : s.Filled) :
    s'.Filled := by
  induction h with
  | refl => exact hs
  | tail _ hstep ih => exact hstep.1.filled ih

end Scene

@[simp] theorem closed_addAlive (m : Manager) (e : Endpoint) (draw : Nat) :
    (m.addAlive e draw).closed = m.closed := by
  rw [addAlive]
  dsimp only
  split <;> rfl

/-- A manager that is closed stays so. -/
theorem Step.closed (h : Step m m') (hclosed : m.closed = true) : m'.closed = true := by
  cases h with
  | refresh =>
    rw [Manager.refresh, hclosed, Bool.or_true, if_pos rfl]
    exact hclosed
  | select =>
    rw [Manager.select, if_pos hclosed]
    exact hclosed
  | use m key hf => exact (Serves.use m key hf).closed.trans hclosed
  | useOn m id hf => exact (Serves.useOn m id hf).closed.trans hclosed
  | poll m now => exact (Serves.poll m now).closed.trans hclosed
  | revive =>
    rw [closed_addAlive, onAdapter?]
    split <;> exact hclosed
  | addAlive => exact (closed_addAlive ..).trans hclosed
  | checkStatus =>
    rw [Manager.checkStatus, if_pos hclosed]
    exact hclosed
  | close => rfl

theorem Reachable.filled (h : Reachable m) (hopen : m.closed = false) : m.alive.Filled := by
  induction h with
  | load hload =>
    exact load_induction (Q := fun m => m.alive.Filled) (AliveSet.filled_ofList ..)
      (fun _ r h => filled_apply h r ..) hload
  | @step m m' hm hstep ih =>
    have hopen' : m.closed = false :=
      eq_false_of_ne_true fun hclosed => ne_true_of_eq_false hopen (hstep.closed hclosed)
    have hrun : Scene.Run (fun _ => True) ⟨m, []⟩ ⟨m', []⟩ :=
      hstep.run (fun _ _ => trivial) hm.valid hopen' hopen
    exact (hrun.filled ⟨ih hopen', List.forall_mem_nil _⟩).alive

/-- Whatever is under way on a manager that is open: if an alive endpoint has no adapter
    or a healthy one, then a call gets a healthy adapter of an alive endpoint, unless it
    asks for the ring and the alive endpoints weigh nothing. -/
theorem Scene.Run.select_healthy_iff {s : Scene} (hm : Reachable m)
    (hrun : Run (fun _ => True) ⟨m, []⟩ s) (hopen : s.manager.closed = false)
    (hash : Option HashKey) (draw now : Nat)
    (halive : ∃ e ∈ s.manager.alive.endpoints, s.manager.isEligible e = true) :
    (∃ e ∈ s.manager.alive.endpoints, ∃ a,
      (s.manager.select hash draw now).1 = .ok (e.key, false) ∧
      (s.manager.select hash draw now).2.adapter? e.key = some a ∧ a.isHealthy = true) ↔
    ¬((∃ code, hash = some (.ring code)) ∧ AliveSet.Weightless s.manager.alive.endpoints) := by
  have hfilled : s.manager.alive.Filled :=
    (hrun.filled ⟨hm.filled (hrun.closed.symm.trans hopen), List.forall_mem_nil _⟩).alive
  obtain ⟨x, hx, hhealthy⟩ := halive
  constructor
  · rintro ⟨e, he, a, hselect, -⟩ ⟨⟨code, rfl⟩, hweightless⟩
    exact select_weightless hfilled hopen (List.ne_nil_of_mem he) hweightless e.key hselect
  · intro hnot
    refine select_healthy hfilled hopen hx hhealthy fun code hcode hweightless => ?_
    exact hnot ⟨⟨code, hcode⟩, hweightless⟩

theorem mergeSort_pair {α : Type} (le : α → α → Bool) (a b : α) :
    [a, b].mergeSort le = if le a b then [a, b] else [b, a] := by
  simp [List.mergeSort, List.merge]

/-- Two pinned endpoints, which trip when a call fails. -/
def twin : Manager where
  object := "echo"
  set := none
  direct := true
  config := { adapter := { object := "echo", health := { failThreshold := 1 } } }
  roster := ⟨[{ host := "a", port := 1 }, { host := "b", port := 1 }], []⟩
  alive := .ofList {} [{ host := "b", port := 1 }, { host := "a", port := 1 }] 0

theorem reachable_twin : Reachable twin := by
  have htext : twin.roster.active.mergeSort textLe = twin.roster.active :=
    (mergeSort_pair ..).trans (if_pos (by decide +kernel))
  have halive : twin.roster.active.mergeSort aliveLe = twin.alive.endpoints :=
    (mergeSort_pair ..).trans (if_neg (by decide +kernel))
  let ref : Reference := ⟨"echo", some twin.roster.active⟩
  have happly : (empty ref none twin.config 0 0).apply twin.roster 0 0 = (true, twin) := by
    have hinactive : twin.roster.inactive.mergeSort textLe = [] := List.mergeSort_nil
    rw [Manager.apply, if_neg (by decide)]
    dsimp only [sorted]
    rw [htext, hinactive, if_neg (by decide +kernel)]
    -- Nobody has an adapter yet, so both are eligible.
    show (true, { twin with
      alive := .ofList twin.config.routing (twin.roster.active.mergeSort aliveLe) 0 }) = _
    rw [halive]
    rfl
  refine @Reachable.load ref none twin.config {} {} 0 0 _ ?_
  show (Except.ok ((empty ref none twin.config 0 0).apply twin.roster 0 0).2, _) = _
  rw [happly]

/-- A tick has found the endpoint unhealthy that the next call picks, and has not built
    the alive set again. The call goes to the other one. -/
theorem Scene.Run.select_healthy_iff_lagging : ∃ s : Scene, Run (fun _ => True) ⟨twin, []⟩ s ∧
    s.manager.alive.endpoints.map Endpoint.key = ["b:1", "a:1"] ∧
    (s.manager.adapter? "b:1").map Adapter.isHealthy = some false ∧
    (s.manager.select (some (.modulo 0)) 0 9000).1.toOption = some ("a:1", false) ∧
    ((∃ e ∈ s.manager.alive.endpoints, ∃ a,
      (s.manager.select (some (.modulo 0)) 0 9000).1 = .ok (e.key, false) ∧
      (s.manager.select (some (.modulo 0)) 0 9000).2.adapter? e.key = some a ∧
      a.isHealthy = true) ↔
    ¬((∃ code, some (HashKey.modulo 0) = some (.ring code)) ∧
      AliveSet.Weightless s.manager.alive.endpoints)) := by
  have hP : Solo fun _ => True := fun _ _ => trivial
  have selected := run_select hP (m := twin) rfl (some (.modulo 0)) 0 1000
  have left := selected.trans (run_go hP (.leave _ _))
  have failed := left.tail ⟨.serve (.use (f := fun a => ((), a.record false 2000)) _ "b:1"
    fun a => .record a false 2000), trivial⟩
  have ticking := failed.tail
    ⟨.start (.check (by decide +kernel) (by decide +kernel : ["b:1"].Perm _)) nofun, trivial⟩
  have tripped := ticking.tail
    ⟨.go [] [] (.trip 8000 (Option.some_get (by decide +kernel)).symm (by decide +kernel)), trivial⟩
  exact ⟨_, tripped, by decide +kernel, by decide +kernel, by decide +kernel,
    select_healthy_iff reachable_twin tripped (by decide +kernel) _ 0 9000 (by decide +kernel)⟩

/-- The only endpoint is healthy and weighs nothing, and on the ring it is passed over: its
    pick is degraded. -/
theorem not_select_healthy : ¬∀ m : Manager, Reachable m → m.closed = false →
    ∀ (hash : Option HashKey) (draw now : Nat),
      (∃ e ∈ m.alive.endpoints, m.isEligible e = true) →
      ∃ e ∈ m.alive.endpoints, (m.select hash draw now).1.toOption = some (e.key, false) := by
  intro h
  have loaded := @Reachable.load
    ⟨"echo", some [{ host := "a", port := 1, weight := 0, weightType := .static }]⟩ none
    { adapter := { object := "echo" } } {} {} 0 0 _ rfl
  have hselect := h _ loaded (by decide +kernel) (some (.ring 5)) 0 1000 (by decide +kernel)
  exact absurd hselect (by decide +kernel)

end Manager

end TaggedRpc
