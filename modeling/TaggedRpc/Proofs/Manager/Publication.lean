import TaggedRpc.Proofs.Manager.Solo

/-!
# Publishing alive sets

Whoever changes the roster of a manager or the health of an endpoint builds the alive set
again: reads, and then publishes what came of that. Refreshes exclude each other, but a
tick or a revival may read and publish while a refresh does.

If operations do not overlap between reading and publishing (`Manager.Scene.Alone`), then
the alive set is up to date when none is under way any more
(`Manager.Scene.Run.alive_eq`). The reason is that there is always somebody left who will
*settle* it as long as it is not (`Manager.Task.Settles`, `Manager.Scene.Current`).

Otherwise an update can be lost: of two that have read, the one who has read first may
publish last (`Manager.Scene.not_alive_eq`).
-/

namespace TaggedRpc.Manager

variable {m m' : Manager} {t x : Task} {t' : Option Task}

/-! ## Who settles the alive set -/

namespace Task

/-- Whether a task will build the alive set again, whatever the others do. -/
def isUrgent : Task → Bool
  | swapped | rebuilding _ | checking _ true | retrying _ _ true => true
  | _ => false

/-- Whether a task is between reading and publishing, or between healing an adapter and
    looking for its endpoint in the alive set. -/
def isCritical : Task → Bool
  | publishing .. | adding true _ => true
  | _ => false

/-- Whether a task has built an alive set, and has not published it yet. -/
def isPublishing : Task → Bool
  | publishing .. => true
  | _ => false

/-- A task that will leave the alive set up to date: one that will build it again, or has
    built what is still right. -/
def Settles (m : Manager) : Task → Prop
  | publishing _ s => s.endpoints = m.eligible
  | adding true e => (m.roster.active.any fun x => decide (x.Same e)) = true ∧
      (m.alive.endpoints.any fun x => decide (x.Same e)) = false
  | missing e => (m.roster.active.any fun x => decide (x.Same e)) = true
  | t => t.isUrgent = true

theorem isPublishing_of_isCritical (h : x.isCritical = false) : x.isPublishing = false := by
  cases x with
  | publishing => cases h
  | _ => rfl

theorem settles_of_isUrgent (h : x.isUrgent = true) (m : Manager) : x.Settles m := by
  cases x with
  | publishing | adding | missing => cases h
  | _ => exact h

theorem Settles.congr (h : x.Settles m) (hquiet : m.Quiet m') : x.Settles m' := by
  cases x with
  | publishing => exact Eq.trans h hquiet.eligible.symm
  | adding healed =>
    cases healed with
    | false => cases h
    | true =>
      obtain ⟨hactive, halive⟩ := h
      exact ⟨hquiet.roster ▸ hactive, hquiet.alive ▸ halive⟩
  | missing => exact Eq.trans (congrArg (fun r : Roster => r.active.any _) hquiet.roster) h
  | _ => exact h

/-- Outside of the critical sections it does not matter what is alive. -/
theorem Settles.of_roster (h : x.Settles m) (hx : x.isCritical = false)
    (hroster : m'.roster = m.roster) : x.Settles m' := by
  cases x with
  | publishing => cases hx
  | adding healed =>
    cases healed with
    | false => cases h
    | true => cases hx
  | missing => exact Eq.trans (congrArg (fun r : Roster => r.active.any _) hroster) h
  | _ => exact h

namespace Step

/-- What a step can do to what is alive and to what is eligible: it publishes an alive
    set, or changes neither, or leaves a task that will build the alive set again. -/
theorem effect (h : Step m t m' t') :
    (∃ refresh s, t = publishing refresh s ∧ m' = { m with alive := s } ∧ t' = none) ∨
    t.isPublishing = false ∧
      (m.Quiet m' ∨ ∃ x, t' = some x ∧ x.isUrgent = true) := by
  cases h with
  | publish _ refresh s => exact .inl ⟨refresh, s, rfl, rfl, rfl⟩
  | evict | trip | recover => exact .inr ⟨rfl, .inr ⟨_, rfl, rfl⟩⟩
  | check now ha hfound | dial now ha hfound =>
    refine .inr ⟨rfl, .inl (quiet_modifyAdapter ha ⟨rfl, ?_⟩)⟩
    exact (Adapter.healthy_check _ now).resolve_left fun h => nomatch hfound.symm.trans h
  | refused _ _ ha => exact .inr ⟨rfl, .inl (quiet_modifyAdapter ha ⟨rfl, rfl⟩)⟩
  | pick => exact .inr ⟨rfl, .inl ⟨rfl, AliveSet.endpoints_select, rfl⟩⟩
  | take | pass | settle => exact .inr ⟨rfl, .inl (quiet_adapterFor ..)⟩
  | _ => exact .inr ⟨rfl, .inl (.refl _)⟩

/-- A task that will settle the alive set does not leave before it publishes. -/
theorem settles (h : Step m t m' t') (ht : t.Settles m)
    (hnot : t.isPublishing = false) : ∃ x, t' = some x ∧ x.Settles m' := by
  cases h with
  | evict | build | trip | recover | report | restore => exact ⟨_, rfl, rfl⟩
  | publish => cases hnot
  | @check _ _ _ _ changed | @dial _ _ _ _ changed | @refused _ _ _ _ changed
  | @checkGone _ _ changed | @dialGone _ _ changed =>
    cases changed with
    | false => cases ht
    | true => exact ⟨_, rfl, rfl⟩
  | @seen _ healed _ hseen =>
    cases healed with
    | false => cases ht
    | true => cases hseen.symm.trans ht.2
  | @miss _ healed =>
    cases healed with
    | false => cases ht
    | true => exact ⟨_, rfl, ht.1⟩
  | reject hinactive => cases hinactive.symm.trans ht
  | _ => cases ht

/-- What has been built just now is right. -/
theorem settles_of_isPublishing (h : Step m t m' t') (ht' : t' = some x)
    (hx : x.isPublishing = true) : x.Settles m' := by
  cases h with
  | build =>
    cases ht'
    rfl
  | _ => cases ht' <;> cases hx

end Step

end Task

/-- To heal an adapter makes an endpoint eligible only if it is active and was not. -/
theorem quiet_heal {e : Endpoint} {a : Adapter} (ha : m.adapter? e.key = some a) (now : Nat) :
    m.Quiet (m.modifyAdapter e.key fun _ => a.heal now) ∨
      a.isHealthy = false ∧ (m.roster.active.any fun x => decide (x.Same e)) = true := by
  cases hhealthy : a.isHealthy with
  | true => exact .inl (quiet_modifyAdapter ha ⟨rfl, hhealthy.symm⟩)
  | false =>
    cases hactive : m.roster.active.any fun x => decide (x.Same e) with
    | true => exact .inr ⟨rfl, rfl⟩
    | false =>
      refine .inl ⟨rfl, rfl, eligible_congr rfl fun x hx => ?_⟩
      have hkey : x.key ≠ e.key := fun hkey =>
        List.any_eq_false.1 hactive x hx (decide_eq_true (Endpoint.key_eq_iff.1 hkey))
      have hhealed : (a.heal now).key = e.key := (mem_of_adapter? ha).2
      rw [isEligible_eq, isEligible_eq, adapter?_modifyAdapter ha hhealed, if_neg hkey]

/-- An endpoint with an unhealthy adapter is not in an alive set that is up to date. -/
theorem not_alive_of_eligible {e : Endpoint} {a : Adapter} (ha : m.adapter? e.key = some a)
    (hunhealthy : a.isHealthy = false) (halive : m.alive.endpoints = m.eligible) :
    (m.alive.endpoints.any fun x => decide (x.Same e)) = false := by
  refine List.any_eq_false.2 fun x hx hsame => ?_
  rw [halive, mem_eligible, isEligible_eq, Endpoint.key_eq_of_same (of_decide_eq_true hsame),
    ha] at hx
  cases hunhealthy.symm.trans hx.2

/-! ## Scenes that settle -/

namespace Scene

/-- Critical sections do not overlap. -/
def Alone (s : Scene) : Prop := s.tasks.countP Task.isCritical ≤ 1

/-- Somebody will settle the alive set, or it is up to date and nobody publishes another
    one. -/
def Current (s : Scene) : Prop :=
  (∃ t ∈ s.tasks, t.Settles s.manager) ∨
    (∀ t ∈ s.tasks, t.isPublishing = false) ∧
      s.manager.alive.endpoints = s.manager.eligible

/-- Some are still there, others are new. -/
theorem Current.quiet {ts ts' : List Task} (h : Current ⟨m, ts⟩) (hquiet : m.Quiet m')
    (hold : ∀ t ∈ ts, t.Settles m → ∃ x ∈ ts', x.Settles m')
    (hnew : (∀ t ∈ ts, t.isPublishing = false) → ∀ t ∈ ts', t.isPublishing = false) :
    Current ⟨m', ts'⟩ := by
  rcases h with ⟨t, ht, hsettles⟩ | ⟨hnot, halive⟩
  · exact .inl (hold t ht hsettles)
  · exact .inr ⟨hnew hnot, hquiet.alive.trans (halive.trans hquiet.eligible.symm)⟩

/-- An operation starts. -/
theorem Current.start {ts : List Task} (h : Current ⟨m, ts⟩) (hstart : Task.Start m m' t)
    (halone : Alone ⟨m', t :: ts⟩) : Current ⟨m', t :: ts⟩ := by
  have hquiet : m.Quiet m' → t.isPublishing = false → Current ⟨m', t :: ts⟩ := fun hquiet hnew =>
    h.quiet hquiet (fun x hx hs => ⟨x, List.mem_cons_of_mem t hx, hs.congr hquiet⟩)
      fun hnot => List.forall_mem_cons.2 ⟨hnew, hnot⟩
  cases hstart with
  | refresh => exact .inl ⟨_, List.mem_cons_self, rfl⟩
  | check | add | select => exact hquiet (.refl m) rfl
  | @revive e a now ha =>
    rcases quiet_heal ha now with hsame | ⟨hunhealthy, hactive⟩
    · exact hquiet hsame rfl
    · rcases h with ⟨x, hx, hsettles⟩ | ⟨-, halive⟩
      · -- Nobody else is in a critical section, so whoever settles the alive set still does.
        have hcritical : x.isCritical = false :=
          @eq_false_of_countP_le_one [] ts _ _ halone rfl x hx
        exact .inl ⟨x, List.mem_cons_of_mem _ hx, hsettles.of_roster hcritical rfl⟩
      · have hdead := not_alive_of_eligible ha hunhealthy halive
        exact .inl ⟨_, List.mem_cons_self, hactive, hdead⟩

/-- A task goes on. -/
theorem Current.go {before after : List Task} (h : Current ⟨m, before ++ t :: after⟩)
    (hstep : Task.Step m t m' t') (halone : Alone ⟨m, before ++ t :: after⟩) :
    Current ⟨m', before ++ (t'.toList ++ after)⟩ := by
  rcases hstep.effect with ⟨refresh, s, rfl, rfl, rfl⟩ | ⟨hnot, hquiet | ⟨x, hx, hurgent⟩⟩
  · -- Nobody else is about to publish.
    have hothers := eq_false_of_countP_le_one halone rfl
    rcases h with ⟨x, hx, hsettles⟩ | ⟨hnone, -⟩
    · rcases mem_before_go.1 hx with rfl | hx
      · refine .inr ⟨fun y hy => ?_, hsettles⟩
        rcases mem_after_go.1 hy with hy | hy
        · exact Task.isPublishing_of_isCritical (hothers y hy)
        · cases hy
      · exact .inl ⟨x, mem_after_go.2 (.inl hx), hsettles.of_roster (hothers x hx) rfl⟩
    · cases hnone _ (mem_before_go.2 (.inl rfl))
  · by_cases hbuilt : ∃ x, t' = some x ∧ x.isPublishing = true
    · obtain ⟨x, hx, hpublishing⟩ := hbuilt
      exact .inl ⟨x, mem_after_go.2 (.inr hx), hstep.settles_of_isPublishing hx hpublishing⟩
    · refine h.quiet hquiet (fun x hx hs => ?_) fun hnone x hx => ?_
      · rcases mem_before_go.1 hx with rfl | hx
        · obtain ⟨y, hy, hsettles⟩ := hstep.settles hs hnot
          exact ⟨y, mem_after_go.2 (.inr hy), hsettles⟩
        · exact ⟨x, mem_after_go.2 (.inl hx), hs.congr hquiet⟩
      · rcases mem_after_go.1 hx with hx | hx
        · exact hnone x (mem_before_go.2 (.inr hx))
        · exact eq_false_of_ne_true fun hpublishing => hbuilt ⟨x, hx, hpublishing⟩
  · exact .inl ⟨x, mem_after_go.2 (.inr hx), Task.settles_of_isUrgent hurgent m'⟩

theorem Step.current {s s' : Scene} (h : Step s s') (hs : s.Current) (halone : s.Alone)
    (halone' : s'.Alone) : s'.Current := by
  cases h with
  | start hstart => exact hs.start hstart halone'
  | go _ _ hstep => exact hs.go hstep halone
  | serve hserve =>
    exact hs.quiet hserve.quiet (fun t ht hs => ⟨t, ht, hs.congr hserve.quiet⟩) id

theorem Run.current {s s' : Scene} (h : Run Alone s s') (hs : s.Current) (halone : s.Alone) :
    s'.Current ∧ s'.Alone := by
  induction h with
  | refl => exact ⟨hs, halone⟩
  | tail _ hstep ih => exact ⟨hstep.1.current ih.1 ih.2 hstep.2, hstep.2⟩

/-- If critical sections do not overlap, the alive set is up to date when nothing is under
    way any more. -/
theorem Run.alive_eq (hm : Reachable m) (hopen : m.closed = false)
    (hrun : Run Alone ⟨m, []⟩ ⟨m', []⟩) : m'.alive.endpoints = m'.eligible := by
  have hcurrent : Current ⟨m, []⟩ := .inr ⟨List.forall_mem_nil _, hm.valid.alive hopen⟩
  rcases (hrun.current hcurrent (Nat.zero_le 1)).1 with ⟨t, ht, -⟩ | ⟨-, halive⟩
  · cases ht
  · exact halive

theorem solo_alone : Solo Alone := fun _ t => by
  cases t with
  | none => exact Nat.zero_le 1
  | some t => exact List.countP_le_length

/-- The only endpoint of a manager has failed a call, which no tick has seen yet. -/
def failing : Manager :=
  let health : HealthConfig := { failThreshold := 1 }
  let d : Directory := { table := [("echo", ⟨[{ host := "a", port := 1 }], []⟩)] }
  let unlisted := empty ⟨"echo", none⟩ none { adapter := { object := "echo", health } } 0 0
  let listed := (unlisted.refresh { directory := some d } 0 0).2.2
  ((listed.select none 0 1000).2.onAdapter? "a:1" fun a => ((), a.record false 2000)).2

theorem reachable_failing : Reachable failing := by
  have loaded := @Reachable.load ⟨"echo", none⟩ none
    { adapter := { object := "echo", health := { failThreshold := 1 } } }
    { directory := some { unavailable := true } } _ 0 0 _ rfl
  exact ((loaded.step (.refresh ..)).step (.select ..)).step
    (.use (f := fun a => ((), a.record false 2000)) _ _ fun a => .record a false 2000)

/-- What the directory has to say next: another endpoint is inactive. -/
def extended : Roster := ⟨[{ host := "a", port := 1 }], [{ host := "c", port := 1 }]⟩

/-- A tick trips the endpoint while a refresh is under way, and both build the alive set
    again, one after the other. -/
theorem Run.alive_eq_tripped : ∃ m' : Manager, Run Alone ⟨failing, []⟩ ⟨m', []⟩ ∧
    m'.roster.inactive.map Endpoint.key = ["c:1"] ∧
    (m'.adapter? "a:1").map Adapter.isHealthy = some false ∧
    m'.alive.endpoints = m'.eligible := by
  have swapped : Run Alone ⟨failing, []⟩ _ := .single
    ⟨.start (.refresh (r := extended) (by decide +kernel) (by decide +kernel) (by decide +kernel)
      (by decide +kernel)) (fun _ => List.forall_mem_nil _), solo_alone _ (some _)⟩
  have ticking := swapped.tail
    ⟨.start (.check (by decide +kernel) (by decide +kernel : ["a:1"].Perm _)) nofun, Nat.zero_le 1⟩
  have tripped := ticking.tail
    ⟨.go [] [.swapped] (.trip 8000 (Option.some_get (by decide +kernel)).symm (by decide +kernel)),
      Nat.zero_le 1⟩
  have evicted := tripped.tail ⟨.go [.checking [] true] [] (.evict _ 8000), Nat.zero_le 1⟩
  have reported := evicted.tail ⟨.go [] [.rebuilding true] (.report _), Nat.zero_le 1⟩
  have built := reported.tail ⟨.go [] [.rebuilding true] (.build _ false 0), Nat.le_refl 1⟩
  have published := built.tail ⟨.go [] [.rebuilding true] (.publish _ false _), Nat.zero_le 1⟩
  have done := published.trans (run_rebuildAlive solo_alone _ true 0)
  exact ⟨_, done, by decide +kernel, by decide +kernel,
    Run.alive_eq reachable_failing (by decide +kernel) done⟩

/-- A refresh has read that the endpoint is healthy when a tick trips it. The tick
    publishes that there is none, and then the refresh publishes what it has read. -/
theorem not_alive_eq : ¬∀ m m' : Manager, Reachable m → m.closed = false →
    Run (fun _ => True) ⟨m, []⟩ ⟨m', []⟩ →
    ∀ e, e ∈ m'.alive.endpoints ↔ e ∈ m'.roster.active ∧ m'.isEligible e = true := by
  intro h
  have swapped : Run (fun _ => True) ⟨failing, []⟩ _ := .single
    ⟨.start (.refresh (r := extended) (by decide +kernel) (by decide +kernel) (by decide +kernel)
      (by decide +kernel)) (fun _ => List.forall_mem_nil _), trivial⟩
  have evicted := swapped.tail ⟨.go [] [] (.evict _ 8000), trivial⟩
  have read := evicted.tail ⟨.go [] [] (.build _ true 0), trivial⟩
  have ticking := read.tail
    ⟨.start (.check (by decide +kernel) (by decide +kernel : ["a:1"].Perm _)) nofun, trivial⟩
  have tripped := ticking.tail
    ⟨.go [] _ (.trip 8000 (Option.some_get (by decide +kernel)).symm (by decide +kernel)), trivial⟩
  have reported := tripped.tail ⟨.go [] _ (.report _), trivial⟩
  have built := reported.tail ⟨.go [] _ (.build _ false 0), trivial⟩
  have published := built.tail ⟨.go [] _ (.publish _ false _), trivial⟩
  have done := published.tail ⟨.go [] [] (.publish _ true _), trivial⟩
  have hiff := h _ _ reachable_failing (by decide +kernel) done { host := "a", port := 1 }
  exact absurd hiff (by decide +kernel)

end Scene

end TaggedRpc.Manager
