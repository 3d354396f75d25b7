import TaggedRpc.Proofs.Manager.Solo

/-!
# Evicting adapters

A refresh that takes a roster over evicts the adapters of endpoints that are not active
any more. Selections put adapters into the pool for the endpoints that they have picked,
from an alive set that may have been replaced since.

If no selection is under way from the eviction of a refresh to the publication of its
alive set (`Manager.Scene.Apart`), then the adapters in the pool are those of active
endpoints (`Manager.Cleared`): a selection knows endpoints of the roster only
(`Manager.Task.Within`).

Otherwise a selection can pick an endpoint before a refresh evicts its adapter, and look
it up in the pool afterwards, which makes a new one (`Manager.Scene.not_pooled`).

The roster is what the directory has answered, up to texts: an endpoint whose text is
that of another one passes for it (`Manager.not_answered`).
-/

namespace TaggedRpc

namespace AliveSet

variable {s s' : AliveSet} {hash : Option HashKey} {draw : Nat}

theorem Later.sound (h : s.Later s') (hs : s.Sound) : s'.Sound := by
  induction h with
  | refl => exact hs
  | tail _ hselect ih =>
    obtain ⟨hash, draw, rfl⟩ := hselect
    exact ih.select

/-- Whoever stands in for a pick is one of the endpoints. -/
theorem Sound.mem_of_mem_candidates (h : s.Sound) {e : Endpoint}
    (he : e ∈ (s.select hash draw).2.candidates (s.select hash draw).1) : e ∈ s.endpoints := by
  cases hpick : (s.select hash draw).1 with
  | error =>
    rw [hpick] at he
    cases he
  | ok x =>
    rw [hpick] at he
    rcases List.mem_cons.1 he with rfl | he
    · exact h.mem_of_select hpick
    · exact endpoints_select ▸ mem_of_mem_others he

end AliveSet

namespace Manager

variable {m m' : Manager} {t x : Task} {t' : Option Task} {r : Roster}

/-- The adapters in the pool are those of active endpoints. -/
def Pooled (m : Manager) : Prop := ∀ a ∈ m.adapters, isActiveKey m.roster a.key = true

theorem Pooled.adapterFor (h : m.Pooled) {e : Endpoint} (he : isActiveKey m.roster e.key = true)
    (now : Nat) : (m.adapterFor e now).2.Pooled := by
  intro a ha
  rw [roster_adapterFor]
  cases hnone : m.adapter? e.key with
  | some =>
    rw [adapterFor_of_some hnone] at ha
    exact h a ha
  | none =>
    rw [adapterFor_of_none hnone] at ha
    rcases List.mem_append.1 ha with ha | ha
    · exact h a ha
    · rw [List.mem_singleton.1 ha]
      exact he

theorem pooled_evict (m : Manager) (now : Nat) : (m.evict now).Pooled :=
  fun _ ha => (List.mem_filter.1 ha).2

theorem Pooled.furnishes (h : m.Pooled) (hfurnishes : m.Furnishes m') : m'.Pooled := by
  intro a' ha'
  rw [hfurnishes.roster]
  rcases hfurnishes.pool a' ha' with ⟨a, ha, hendpoint⟩ | hmem
  · have hkey : a.key = a'.key := congrArg Endpoint.key hendpoint
    exact hkey ▸ h a ha
  · exact isActiveKey_iff.2 ⟨a'.endpoint, hmem, rfl⟩

/-! ## What selections know -/

namespace Task

/-- Whether a refresh has evicted adapters, and has not published yet. -/
def isEvicting : Task → Bool
  | rebuilding true | publishing true _ => true
  | _ => false

/-- The alive sets that a task has are sound. -/
def Sound : Task → Prop
  | publishing _ s | picking s _ => s.Sound
  | _ => True

/-- The endpoints that a task knows are active. -/
def Within (r : Roster) : Task → Prop
  | publishing _ s | picking s _ => ∀ e ∈ s.endpoints, isActiveKey r e.key = true
  | walking es => ∀ e ∈ es, isActiveKey r e.key = true
  | settling e => isActiveKey r e.key = true
  | _ => True

theorem isRefresh_of_isSelection (h : t.isSelection = true) : t.isRefresh = false := by
  cases t with
  | picking | walking | settling | answered => rfl
  | _ => cases h

theorem eq_swapped_or_isEvicting (h : t.isRefresh = true) : t = swapped ∨ t.isEvicting = true := by
  cases t with
  | swapped => exact .inl rfl
  | rebuilding refresh | publishing refresh =>
    cases refresh with
    | false => cases h
    | true => exact .inr rfl
  | _ => cases h

/-- What a step of a selection does. -/
structure Selects (m : Manager) (t : Task) (m' : Manager) (t' : Option Task) : Prop where
  roster : m'.roster = m.roster
  alive : m'.alive.endpoints = m.alive.endpoints
  sound : m.alive.Sound → m'.alive.Sound
  /-- A selection goes on as a selection, without an alive set. -/
  next : ∀ x, t' = some x → x.isSelection = true ∧ x.Sound
  pooled : t.Within m.roster → m.Pooled → m'.Pooled
  within : t.Sound → t.Within m.roster → ∀ x, t' = some x → x.Within m.roster

theorem selects_adapterFor {e : Endpoint} (now : Nat)
    (he : t.Within m.roster → isActiveKey m.roster e.key = true)
    (hnext : x.isSelection = true ∧ x.Sound) (hwithin : t.Within m.roster → x.Within m.roster) :
    Selects m t (m.adapterFor e now).2 (some x) where
  roster := roster_adapterFor ..
  alive := congrArg _ (alive_adapterFor ..)
  sound h := (alive_adapterFor m e now).symm ▸ h
  next := by
    rintro _ ⟨⟩
    exact hnext
  pooled ht hpool := hpool.adapterFor (he ht) now
  within := by
    rintro - ht _ ⟨⟩
    exact hwithin ht

theorem selects_same (hnext : x.isSelection = true ∧ x.Sound)
    (hwithin : t.Sound → t.Within m.roster → x.Within m.roster) : Selects m t m (some x) where
  roster := rfl
  alive := rfl
  sound := id
  next := by
    rintro _ ⟨⟩
    exact hnext
  pooled _ := id
  within := by
    rintro hsound ht _ ⟨⟩
    exact hwithin hsound ht

theorem Step.selects (h : Step m t m' t') (ht : t.isSelection = true) : Selects m t m' t' := by
  cases h with
  | pick draw hlater hes =>
    subst hes
    refine ⟨rfl, AliveSet.endpoints_select, AliveSet.Sound.select, ?_, fun _ => id, ?_⟩
    · rintro _ ⟨⟩
      exact ⟨rfl, trivial⟩
    · rintro hsound hwithin _ ⟨⟩ e he
      exact hwithin e (hlater.endpoints ▸ (hlater.sound hsound).mem_of_mem_candidates he)
  | pickOld m draw hlater hes =>
    subst hes
    refine selects_same ⟨rfl, trivial⟩ fun hsound hwithin e he => ?_
    exact hwithin e (hlater.endpoints ▸ (hlater.sound hsound).mem_of_mem_candidates he)
  | take m e now =>
    exact selects_adapterFor now (fun h => h e List.mem_cons_self) ⟨rfl, trivial⟩ fun _ => trivial
  | pass m e now =>
    exact selects_adapterFor now (fun h => h e List.mem_cons_self) ⟨rfl, trivial⟩
      fun h x hx => h x (List.mem_cons_of_mem e hx)
  | degrade draw _ he =>
    exact selects_same ⟨rfl, trivial⟩ fun _ _ =>
      isActiveKey_iff.2 ⟨_, List.mem_of_getElem? he, rfl⟩
  | giveUp => exact selects_same ⟨rfl, trivial⟩ fun _ _ => trivial
  | settle m e now => exact selects_adapterFor now id ⟨rfl, trivial⟩ fun _ => trivial
  | leave => exact ⟨rfl, rfl, id, (fun _ h => nomatch h), fun _ => id, fun _ _ _ h => nomatch h⟩
  | _ => cases ht

end Task

/-! ## Scenes of refreshes and selections -/

namespace Scene

/-- Refreshes and selections are under way, and no selection is while a refresh is
    between its eviction and its publication. -/
structure Apart (s : Scene) : Prop where
  kinds : ∀ t ∈ s.tasks, t.isRefresh = true ∨ t.isSelection = true
  apart : ∀ t ∈ s.tasks, t.isEvicting = true → ∀ x ∈ s.tasks, x.isSelection = false

instance (s : Scene) : Decidable s.Apart :=
  decidable_of_iff ((∀ t ∈ s.tasks, t.isRefresh = true ∨ t.isSelection = true) ∧
      ∀ t ∈ s.tasks, t.isEvicting = true → ∀ x ∈ s.tasks, x.isSelection = false)
    ⟨fun h => ⟨h.1, h.2⟩, fun h => ⟨h.1, h.2⟩⟩

/-- Whoever is housed in the pool is active, except from the moment when a refresh has
    taken its roster over until it evicts. -/
structure Housed (s : Scene) : Prop where
  single : s.tasks.countP Task.isRefresh ≤ 1
  sound : s.manager.alive.Sound
  tasks : ∀ t ∈ s.tasks, t.Sound
  pooled : .swapped ∉ s.tasks → s.manager.Pooled
  within : .swapped ∉ s.tasks → ∀ t ∈ s.tasks, t.Within s.manager.roster
  /-- Unless a refresh is under way, the alive set has active endpoints only. -/
  alive : s.manager.closed = false → (∀ t ∈ s.tasks, t.isRefresh = false) →
    ∀ e ∈ s.manager.alive.endpoints, isActiveKey s.manager.roster e.key = true

theorem Housed.start {ts : List Task} (h : Housed ⟨m, ts⟩) (hstart : Task.Start m m' t)
    (hlock : t.isRefresh = true → ∀ x ∈ ts, x.isRefresh = false) (hapart : Apart ⟨m', t :: ts⟩) :
    Housed ⟨m', t :: ts⟩ := by
  have hkind := hapart.kinds t List.mem_cons_self
  cases hstart with
  | check | add | revive => rcases hkind with hkind | hkind <;> cases hkind
  | refresh =>
    have hcount : ts.countP Task.isRefresh = 0 :=
      List.countP_eq_zero.2 fun x hx => ne_true_of_eq_false (hlock rfl x hx)
    refine ⟨?_, h.sound, List.forall_mem_cons.2 ⟨trivial, h.tasks⟩, ?_, ?_, ?_⟩
    · exact Nat.le_of_eq ((List.countP_cons_of_pos rfl).trans (congrArg (· + 1) hcount))
    · exact fun hnot => absurd List.mem_cons_self hnot
    · exact fun hnot => absurd List.mem_cons_self hnot
    · exact fun _ hnone => nomatch hnone _ List.mem_cons_self
  | select hash hopen =>
    have hold : Task.swapped ∉ Task.picking m.alive hash :: ts → Task.swapped ∉ ts :=
      mt (List.mem_cons_of_mem _)
    refine ⟨?_, h.sound, List.forall_mem_cons.2 ⟨h.sound, h.tasks⟩,
      fun hnot => h.pooled (hold hnot), fun hnot => ?_, fun hopen hnone => ?_⟩
    · show (Task.picking m.alive hash :: ts).countP Task.isRefresh ≤ 1
      rw [List.countP_cons_of_neg Bool.false_ne_true]
      exact h.single
    · refine List.forall_mem_cons.2 ⟨h.alive hopen fun x hx => ?_, h.within (hold hnot)⟩
      -- A refresh that is under way would have evicted, and not published.
      refine eq_false_of_ne_true fun hrefresh => ?_
      rcases Task.eq_swapped_or_isEvicting hrefresh with rfl | hevicting
      · exact hold hnot hx
      · cases hapart.apart x (List.mem_cons_of_mem _ hx) hevicting _ List.mem_cons_self
    · exact h.alive hopen fun x hx => hnone x (List.mem_cons_of_mem _ hx)

section Go

variable {before after : List Task}

theorem Housed.select (h : Housed ⟨m, before ++ t :: after⟩) (hstep : Task.Selects m t m' t')
    (ht : t.isSelection = true) (hclosed : m'.closed = m.closed) :
    Housed ⟨m', before ++ (t'.toList ++ after)⟩ := by
  have hmem : t ∈ before ++ t :: after := List.mem_append_cons_self
  have hnext : ∀ x, t' = some x → x.isRefresh = false := fun x hx =>
    Task.isRefresh_of_isSelection (hstep.next x hx).1
  have hold : Task.swapped ∉ before ++ (t'.toList ++ after) →
      Task.swapped ∉ before ++ t :: after := by
    rintro hnot hswapped
    rcases mem_before_go.1 hswapped with rfl | hswapped
    · cases ht
    · exact hnot (mem_after_go.2 (.inl hswapped))
  refine ⟨?_, hstep.sound h.sound, forall_mem_go h.tasks fun x hx => (hstep.next x hx).2,
    fun hnot => hstep.pooled (h.within (hold hnot) t hmem) (h.pooled (hold hnot)),
    fun hnot => ?_, fun hopen hnone e he => ?_⟩
  · have hzero : t'.toList.countP Task.isRefresh = 0 :=
      List.countP_eq_zero.2 fun x hx => ne_true_of_eq_false (hnext x (Option.mem_toList.1 hx))
    have hcount := h.single
    rw [List.countP_append, List.countP_cons_of_neg
      (ne_true_of_eq_false (Task.isRefresh_of_isSelection ht))] at hcount
    rw [List.countP_append, List.countP_append, hzero, Nat.zero_add]
    exact hcount
  · show ∀ x ∈ before ++ (t'.toList ++ after), x.Within m'.roster
    rw [hstep.roster]
    exact forall_mem_go (h.within (hold hnot))
      (hstep.within (h.tasks t hmem) (h.within (hold hnot) t hmem))
  · show isActiveKey m'.roster e.key = true
    rw [hstep.roster]
    refine h.alive (hclosed.symm.trans hopen) (fun x hx => ?_) e (hstep.alive ▸ he)
    rcases mem_before_go.1 hx with rfl | hx
    · exact Task.isRefresh_of_isSelection ht
    · exact hnone x (mem_after_go.2 (.inl hx))

/-- A refresh between its eviction and its publication is the only task. -/
theorem Apart.alone (h : Apart ⟨m, before ++ ((some t).toList ++ after)⟩)
    (ht : t.isEvicting = true) (hrest : ∀ x ∈ before ++ after, x.isRefresh = false) :
    ∀ x ∈ before ++ after, False := by
  intro x hx
  have hmem : x ∈ before ++ ((some t).toList ++ after) := mem_after_go.2 (.inl hx)
  have hselection := (h.kinds x hmem).resolve_left (ne_true_of_eq_false (hrest x hx))
  have hnot := h.apart t (mem_after_go.2 (.inr rfl)) ht x hmem
  cases hnot.symm.trans hselection

theorem Housed.refresh (h : Housed ⟨m, before ++ t :: after⟩) (hstep : Task.Step m t m' t')
    (ht : t.isRefresh = true) (hapart : Apart ⟨m', before ++ (t'.toList ++ after)⟩) :
    Housed ⟨m', before ++ (t'.toList ++ after)⟩ := by
  have hmem : t ∈ before ++ t :: after := List.mem_append_cons_self
  have hrest := eq_false_of_countP_le_one h.single ht
  have hswapped : t ≠ .swapped → Task.swapped ∉ before ++ t :: after := by
    rintro hne hswapped
    rcases mem_before_go.1 hswapped with heq | hswapped
    · exact hne heq.symm
    · cases hrest _ hswapped
  cases hstep with
  | evict m now =>
    have hnone := hapart.alone rfl hrest
    refine ⟨countP_go_le_one hrest, h.sound, forall_mem_go h.tasks ?_, fun _ => pooled_evict m now,
      fun _ x hx => ?_, fun _ hno => ?_⟩
    · rintro _ ⟨⟩
      trivial
    · rcases mem_after_go.1 hx with hx | hx
      · exact (hnone x hx).elim
      · cases hx
        trivial
    · cases hno _ (mem_after_go.2 (.inr rfl))
  | build m refresh draw =>
    cases refresh with
    | false => cases ht
    | true =>
      have hnot := hswapped nofun
      refine ⟨countP_go_le_one hrest, h.sound, forall_mem_go h.tasks ?_, fun _ => h.pooled hnot,
        fun _ => forall_mem_go (h.within hnot) ?_, fun _ hno => ?_⟩
      · rintro _ ⟨⟩
        exact AliveSet.sound_ofList ..
      · rintro _ ⟨⟩ e he
        exact isActiveKey_iff.2 ⟨e, (mem_eligible.1 he).1, rfl⟩
      · cases hno _ (mem_after_go.2 (.inr rfl))
  | publish m refresh p =>
    have hnot := hswapped nofun
    exact ⟨countP_go_le_one hrest, h.tasks _ hmem, forall_mem_go h.tasks (fun _ h => nomatch h),
      fun _ => h.pooled hnot, fun _ => forall_mem_go (h.within hnot) (fun _ h => nomatch h),
      fun _ _ => h.within hnot _ hmem⟩
  | _ => cases ht

end Go

theorem Step.housed {s s' : Scene} (h : Step s s') (hs : s.Housed) (hapart : s.Apart)
    (hapart' : s'.Apart) : s'.Housed := by
  have hclosed := h.closed
  cases h with
  | start hstart hlock => exact hs.start hstart hlock hapart'
  | go before after hstep =>
    rcases hapart.kinds _ List.mem_append_cons_self with hrefresh | hselection
    · exact hs.refresh hstep hrefresh hapart'
    · exact hs.select (hstep.selects hselection) hselection hclosed
  | serve hserve =>
    have hroster := hserve.quiet.roster
    refine ⟨hs.single, hserve.alive ▸ hs.sound, hs.tasks,
      fun hnot => (hs.pooled hnot).furnishes hserve.furnishes, ?_, ?_⟩
    · exact hroster ▸ hs.within
    · intro hopen hnone e he
      exact hroster ▸ hs.alive (hclosed ▸ hopen) hnone e (hserve.alive ▸ he)

theorem Run.housed {s s' : Scene} (h : Run Apart s s') (hs : s.Housed) (hapart : s.Apart) :
    s'.Housed ∧ s'.Apart := by
  induction h with
  | refl => exact ⟨hs, hapart⟩
  | tail _ hstep ih => exact ⟨hstep.1.housed ih.1 ih.2 hstep.2, hstep.2⟩

theorem Run.pooled (hm : Reachable m) (hrun : Run Apart ⟨m, []⟩ ⟨m', []⟩) : m'.Pooled := by
  have hvalid := hm.valid
  have hhoused : Housed ⟨m, []⟩ :=
    ⟨Nat.zero_le 1, hvalid.sound, List.forall_mem_nil _, fun _ => hvalid.pool,
      fun _ => List.forall_mem_nil _, fun hopen _ _ he => hvalid.isActive_of_mem_alive hopen he⟩
  exact (hrun.housed hhoused ⟨List.forall_mem_nil _, List.forall_mem_nil _⟩).1.pooled nofun

end Scene

/-! ## What the directory answers -/

/-- Lists of the same texts have the same endpoints, if the texts tell them apart. -/
theorem isActiveKey_of_sameTexts {es : List Endpoint} {key : String}
    (h : sameTexts r.active es = true)
    (hapart : ∀ e ∈ r.active, ∀ e' ∈ es, e.text = e'.text → e.Same e')
    (hkey : isActiveKey r key = true) : ∃ e ∈ es, e.key = key := by
  obtain ⟨e, he, rfl⟩ := isActiveKey_iff.1 hkey
  have hmem : e.text ∈ es.map Endpoint.text := eq_of_beq h ▸ List.mem_map_of_mem he
  obtain ⟨e', he', htext⟩ := List.mem_map.1 hmem
  exact ⟨e', he', (Endpoint.key_eq_of_same (hapart e he e' he' htext.symm)).symm⟩

theorem Pooled.apply (h : m.Pooled) {draw now : Nat} (hactive : r.active ≠ [])
    (hapart : ∀ e ∈ m.roster.active, ∀ e' ∈ r.active, e.text = e'.text → e.Same e') :
    ∀ a ∈ (m.apply r draw now).2.adapters, ∃ e ∈ r.active, e.key = a.key := by
  rw [Manager.apply, if_neg (mt List.isEmpty_iff.1 hactive)]
  dsimp only
  have hsorted : ∀ e, e ∈ (sorted r).active ↔ e ∈ r.active := fun _ => List.mem_mergeSort
  split
  · next hsame =>
    intro a ha
    rw [Bool.and_eq_true] at hsame
    obtain ⟨e, he, hkey⟩ := isActiveKey_of_sameTexts hsame.1
      (fun e he e' he' => hapart e he e' ((hsorted e').1 he')) (h a ha)
    exact ⟨e, (hsorted e).1 he, hkey⟩
  · intro a ha
    obtain ⟨e, he, hkey⟩ := isActiveKey_iff.1 (List.mem_filter.1 ha).2
    exact ⟨e, (hsorted e).1 he, hkey⟩

/-- Whose adapters are in the pool after refreshes and selections. -/
structure Cleared (m : Manager) : Prop where
  /-- Those of the roster, if no selection is under way from the eviction of a refresh to
      its publication. -/
  interleaved : ∀ m', Scene.Run Scene.Apart ⟨m, []⟩ ⟨m', []⟩ →
    ∀ a ∈ m'.adapters, ∃ e ∈ m'.roster.active, e.key = a.key
  /-- Those of the answer of the directory, if the texts tell its endpoints apart from
      those before. -/
  answered : ∀ (s : Sources) (d : Directory) (r : Roster) (draw now : Nat), m.direct = false →
    m.closed = false → s.directory = some d → (d.query m.object m.set).1 = .ok r →
    r.active ≠ [] →
    (∀ e ∈ m.roster.active, ∀ e' ∈ r.active, e.text = e'.text → e.Same e') →
    ∀ a ∈ (m.refresh s draw now).2.2.adapters, ∃ e ∈ r.active, e.key = a.key

/-- The pool of every manager is cleared. -/
theorem Reachable.cleared (h : Reachable m) : Cleared m where
  interleaved m' hrun a ha := isActiveKey_iff.1 (Scene.Run.pooled h hrun a ha)
  answered s d r draw now hdirect hopen hd hr hactive hapart := by
    have hpooled : m.Pooled := h.valid.pool
    have hasked : ¬(m.direct || m.closed) = true := by
      rw [hdirect, hopen]
      exact Bool.false_ne_true
    rw [Manager.refresh, if_neg hasked, hd]
    dsimp only
    rw [hr]
    exact hpooled.apply hactive hapart

namespace Scene

/-- A manager of one endpoint, which is about to move. -/
def moving : Manager :=
  let d : Directory := { table := [("echo", ⟨[{ host := "a", port := 1 }], []⟩)] }
  ((empty ⟨"echo", none⟩ none { adapter := { object := "echo" } } 0 0).refresh
    { directory := some d } 0 0).2.2

theorem reachable_moving : Reachable moving :=
  (@Reachable.load ⟨"echo", none⟩ none { adapter := { object := "echo" } }
    { directory := some { unavailable := true } } _ 0 0 _ rfl).step (.refresh ..)

/-- Where the endpoint moves. -/
def moved : Roster := ⟨[{ host := "b", port := 1 }], []⟩

/-- The endpoint stays, and another one becomes inactive. -/
def stayed : Sources :=
  let r : Roster := ⟨moving.roster.active, [{ host := "c", port := 1 }]⟩
  { directory := some { table := [("echo", r)] } }

/-- A selection makes an adapter for the endpoint after a refresh has taken its roster
    over, in time for the eviction. The next one finds the endpoint where it has moved.
    If the endpoint stays, then so does its adapter. -/
theorem cleared_late : (∃ m' : Manager, Run Apart ⟨moving, []⟩ ⟨m', []⟩ ∧
      m'.leaving.map Adapter.key = ["a:1"] ∧ m'.adapters.map Adapter.key = ["b:1"] ∧
      ∀ a ∈ m'.adapters, ∃ e ∈ m'.roster.active, e.key = a.key) ∧
    ((moving.select none 0 1000).2.refresh stayed 0 2000).2.2.adapters.map Adapter.key = ["a:1"] ∧
    ∀ a ∈ ((moving.select none 0 1000).2.refresh stayed 0 2000).2.2.adapters,
      ∃ e ∈ moving.roster.active, e.key = a.key := by
  have swapped : Run Apart ⟨moving, []⟩ _ := .single
    ⟨.start (.refresh (r := moved) (by decide +kernel) (by decide +kernel) (by decide +kernel)
      (by decide +kernel)) (fun _ => List.forall_mem_nil _), by decide +kernel⟩
  have loaded := swapped.tail ⟨.start (.select none (by decide +kernel)) nofun, by decide +kernel⟩
  have picked := loaded.tail ⟨.go [] [.swapped]
    (.pick 0 .refl (by decide +kernel : _ = [{ host := "a", port := 1 }])), by decide +kernel⟩
  have taken := picked.tail ⟨.go [] [.swapped] (.take _ _ 1000), by decide +kernel⟩
  have left := taken.tail ⟨.go [] [.swapped] (.leave _ _), by decide +kernel⟩
  have evicted := left.tail ⟨.go [] [] (.evict _ 2000), by decide +kernel⟩
  have built := evicted.tail ⟨.go [] [] (.build _ true 0), by decide +kernel⟩
  have published := built.tail ⟨.go [] [] (.publish _ true _), by decide +kernel⟩
  have loaded' := published.tail
    ⟨.start (.select none (by decide +kernel)) nofun, by decide +kernel⟩
  have picked' := loaded'.tail ⟨.go [] []
    (.pick 0 .refl (by decide +kernel : _ = [{ host := "b", port := 1 }])), by decide +kernel⟩
  have taken' := picked'.tail ⟨.go [] [] (.take _ _ 3000), by decide +kernel⟩
  have done := taken'.tail ⟨.go [] [] (.leave _ _), by decide +kernel⟩
  have hstays := (reachable_moving.step (.select _ none 0 1000)).cleared.answered stayed _
    ⟨moving.roster.active, [{ host := "c", port := 1 }]⟩ 0 2000 (by decide +kernel)
    (by decide +kernel) rfl (by decide +kernel) (by decide +kernel) (by decide +kernel)
  refine ⟨⟨_, done, by decide +kernel, by decide +kernel, ?_⟩, by decide +kernel, hstays⟩
  exact reachable_moving.cleared.interleaved _ done

/-- A selection picks the endpoint, a refresh evicts the adapters of endpoints that are not
    active any more, and then the selection makes one for the endpoint. -/
theorem not_pooled : ¬∀ m m' : Manager, Reachable m →
    Run (fun s => ∀ t ∈ s.tasks, t.isRefresh = true ∨ t.isSelection = true) ⟨m, []⟩ ⟨m', []⟩ →
    ∀ a ∈ m'.adapters, ∃ e ∈ m'.roster.active, e.key = a.key := by
  intro h
  have loaded : Run (fun s => ∀ t ∈ s.tasks, t.isRefresh = true ∨ t.isSelection = true)
      ⟨moving, []⟩ _ :=
    .single ⟨.start (.select none (by decide +kernel)) nofun, by decide +kernel⟩
  have picked := loaded.tail ⟨.go [] []
    (.pick 0 .refl (by decide +kernel : _ = [{ host := "a", port := 1 }])), by decide +kernel⟩
  have swapped := picked.tail
    ⟨.start (.refresh (r := moved) (by decide +kernel) (by decide +kernel) (by decide +kernel)
      (by decide +kernel)) (fun _ => by decide +kernel), by decide +kernel⟩
  have evicted := swapped.tail ⟨.go [] _ (.evict _ 2000), by decide +kernel⟩
  have built := evicted.tail ⟨.go [] _ (.build _ true 0), by decide +kernel⟩
  have published := built.tail ⟨.go [] _ (.publish _ true _), by decide +kernel⟩
  have taken := published.tail ⟨.go [] [] (.take _ _ 3000), by decide +kernel⟩
  have done := taken.tail ⟨.go [] [] (.leave _ _), by decide +kernel⟩
  exact absurd (h _ _ reachable_moving done) (by decide +kernel)

end Scene

/-- An endpoint in a set, and another one. They have the same text. -/
def inSet : Endpoint :=
  { host := "a", port := 1, transport := .tls, setId := "s -p 2 -t 3000 -v 0 -w -1" }

@[inherit_doc inSet]
def elsewhere : Endpoint :=
  { host := "a -p 1 -t 3000 -v 0 -w -1 -s s", port := 2, transport := .tls }

/-- The directory answers with another endpoint, which passes for the one before. -/
theorem not_answered : ¬∀ (m : Manager) (s : Sources) (d : Directory) (r : Roster) (draw now : Nat),
    Reachable m → m.direct = false → m.closed = false → s.directory = some d →
    (d.query m.object m.set).1 = .ok r → r.active ≠ [] →
    ∀ a ∈ (m.refresh s draw now).2.2.adapters, ∃ e ∈ r.active, e.key = a.key := by
  intro h
  have loaded := @Reachable.load ⟨"echo", none⟩ none { adapter := { object := "echo" } }
    { directory := some { unavailable := true } } _ 0 0 _ rfl
  have listed := loaded.step
    (.refresh _ { directory := some { table := [("echo", ⟨[inSet], []⟩)] } } 0 1000)
  have selected := listed.step (.select _ none 0 1000)
  have hanswered := h _ { directory := some { table := [("echo", ⟨[elsewhere], []⟩)] } } _
    ⟨[elsewhere], []⟩ 0 2000 selected (by decide +kernel) (by decide +kernel) rfl
    (by decide +kernel) (List.cons_ne_nil _ _)
  exact absurd hanswered (by decide +kernel)

/-- The pool of a manager may keep an adapter that a selection has made after the eviction,
    and one of an endpoint that has the text of another one. -/
theorem not_cleared :
    (¬∀ m m' : Manager, Reachable m →
      Scene.Run (fun s => ∀ t ∈ s.tasks, t.isRefresh = true ∨ t.isSelection = true)
        ⟨m, []⟩ ⟨m', []⟩ →
      ∀ a ∈ m'.adapters, ∃ e ∈ m'.roster.active, e.key = a.key) ∧
    ¬∀ (m : Manager) (s : Sources) (d : Directory) (r : Roster) (draw now : Nat),
      Reachable m → m.direct = false → m.closed = false → s.directory = some d →
      (d.query m.object m.set).1 = .ok r → r.active ≠ [] →
      ∀ a ∈ (m.refresh s draw now).2.2.adapters, ∃ e ∈ r.active, e.key = a.key :=
  ⟨Scene.not_pooled, not_answered⟩

end Manager

end TaggedRpc
