import TaggedRpc.Proofs.Manager.Pool

/-!
# Descriptors of adapters

An adapter keeps the descriptor that it was made with. Adapters are made for active
endpoints only (`Manager.Furnishes`), and those of endpoints that are not active any more
are evicted. But an endpoint is known by its host and port, so its adapter stays when a
refresh brings another descriptor of it.

As long as no refresh does that (`Manager.Steady`), the adapter that is selected has the
descriptor of an active endpoint (`Manager.Steady.selected_current`). Otherwise it can
have an outdated one (`Manager.not_selected_current`).
-/

namespace TaggedRpc.Manager

variable {m m' m'' : Manager} {e : Endpoint} {draw now : Nat}

/-! ## Whose descriptor they have -/

/-- The adapters in the pool have descriptors of active endpoints. -/
def Described (m : Manager) : Prop :=
  ∀ a ∈ m.adapters, ∃ e ∈ m.roster.active, e.Same a.endpoint ∧ e.text = a.endpoint.text

/-- No endpoint that stays active gets another descriptor, if the roster changes. -/
def Keeps (m m' : Manager) : Prop :=
  m'.roster = m.roster ∨
    ∀ e ∈ m.roster.active, ∀ e' ∈ m'.roster.active, e.Same e' → e.text = e'.text

theorem Described.furnishes (h : m.Described) (hfurnishes : m.Furnishes m') : m'.Described := by
  intro a' ha'
  rw [hfurnishes.roster]
  rcases hfurnishes.pool a' ha' with ⟨a, ha, hendpoint⟩ | hmem
  · rw [← hendpoint]
    exact h a ha
  · exact ⟨a'.endpoint, hmem, ⟨rfl, rfl⟩, rfl⟩

/-- A refresh evicts those whose endpoints are not active any more, and leaves the others
    as they are. -/
theorem Described.apply (h : m.Described) {r : Roster} (hkeeps : m.Keeps (m.apply r draw now).2) :
    (m.apply r draw now).2.Described := by
  revert hkeeps
  rw [Manager.apply]
  split
  · exact fun _ => h
  · dsimp only
    split
    · exact fun _ => h
    · intro hkeeps a ha
      obtain ⟨hmem, hactive⟩ := List.mem_filter.1 ha
      obtain ⟨e, he, hsame, htext⟩ := h a hmem
      rcases hkeeps with hroster | hkeeps
      · exact ⟨e, hroster ▸ he, hsame, htext⟩
      · obtain ⟨e', he', hkey⟩ := isActiveKey_iff.1 hactive
        have hsame' : e'.Same a.endpoint := Endpoint.key_eq_iff.1 hkey
        have htext' := hkeeps e he e' he' (hsame.trans hsame'.symm)
        exact ⟨e', he', hsame', htext'.symm.trans htext⟩

theorem Described.refresh (h : m.Described) (s : Sources)
    (hkeeps : m.Keeps (m.refresh s draw now).2.2) : (m.refresh s draw now).2.2.Described :=
  refresh_induction (Q := fun m' => m.Keeps m' → m'.Described) (fun _ => h) (fun _ => h.apply) s
    hkeeps

theorem described_of_load {ref : Reference} {set : Option String} {config : ManagerConfig}
    {s s' : Sources} (h : load ref set config s draw now = (.ok m, s')) : m.Described := by
  intro a ha
  rw [adapters_of_load h] at ha
  cases ha

/-! ## Runs -/

/-- The managers that come of loading one and of operations, one after another, of which
    none gives another descriptor to an endpoint that stays active. -/
inductive Steady : Manager → Prop
  | load {ref : Reference} {set : Option String} {config : ManagerConfig} {s s' : Sources}
      {draw now : Nat} {m : Manager} :
      Manager.load ref set config s draw now = (.ok m, s') → Steady m
  | step {m m' : Manager} : Steady m → Step m m' → m.Keeps m' → Steady m'

theorem Steady.reachable (h : Steady m) : Reachable m := by
  induction h with
  | load hload => exact .load hload
  | step _ hstep _ ih => exact ih.step hstep

theorem Described.step (h : m.Described) (hvalid : m.Valid) (hstep : Step m m')
    (hkeeps : m.Keeps m') : m'.Described := by
  cases hstep with
  | refresh => exact h.refresh _ hkeeps
  | select => exact h.furnishes (hvalid.furnishes_select ..)
  | use _ _ hf => exact h.furnishes (furnishes_onAdapter? fun a _ => (hf a).alike.endpoint)
  | useOn _ _ hf => exact h.furnishes (furnishes_onCall? _ _ fun a => (hf a).alike.endpoint)
  | revive =>
    exact (h.furnishes (furnishes_onAdapter? fun _ _ => rfl)).furnishes (furnishes_addAlive ..)
  | addAlive => exact h.furnishes (furnishes_addAlive ..)
  | checkStatus => exact h.furnishes (furnishes_checkStatus ..)
  | close => exact List.forall_mem_nil _
  | poll => exact h.furnishes (furnishes_poll ..)

theorem Steady.described (h : Steady m) : m.Described := by
  induction h with
  | load hload => exact described_of_load hload
  | step hm hstep hkeeps ih => exact ih.step hm.reachable.valid hstep hkeeps

/-- If no refresh gives another descriptor to an endpoint that stays active, then the
    adapter that is selected was made with the descriptor of an active endpoint. -/
theorem Steady.selected_current (h : Steady m) {hash : Option HashKey} {key : String}
    {degraded : Bool} (hkey : (m.select hash draw now).1 = .ok (key, degraded)) :
    ∃ a, (m.select hash draw now).2.adapter? key = some a ∧
      ∃ e ∈ m.roster.active, e.key = key ∧ e.text = a.endpoint.text := by
  have hvalid := h.reachable.valid
  obtain ⟨a, ha⟩ := Option.isSome_iff_exists.1
    ((hvalid.select hash draw now).2.2 key degraded hkey)
  have hdescribed := h.described.furnishes (hvalid.furnishes_select hash draw now)
  obtain ⟨hmem, hakey⟩ := mem_of_adapter? ha
  obtain ⟨e, he, hsame, htext⟩ := hdescribed a hmem
  rw [(hvalid.furnishes_select hash draw now).roster] at he
  exact ⟨a, ha, e, he, (Endpoint.key_eq_of_same hsame).trans hakey, htext⟩

/-- An endpoint with a secure transport. -/
def secured : Endpoint := { host := "a", port := 1, transport := .tls }

/-- An endpoint stays as it is while another one becomes inactive. -/
theorem Steady.selected_current_secure : ∃ m : Manager, Steady m ∧
    (m.select none 0 3000).1 = .ok ("a:1", false) ∧
    ∃ a, (m.select none 0 3000).2.adapter? "a:1" = some a ∧
      ∃ e ∈ m.roster.active, e.key = "a:1" ∧ e.text = a.endpoint.text := by
  have loaded := @Steady.load ⟨"echo", none⟩ none { adapter := { object := "echo" } }
    { directory := some { unavailable := true } } _ 0 0 _ rfl
  have listed := loaded.step
    (.refresh _ { directory := some { table := [("echo", ⟨[secured], []⟩)] } } 0 1000)
    (.inr (by decide +kernel))
  have selected := listed.step (.select _ none 0 1000) (.inl (by decide +kernel))
  have extended := selected.step
    (.refresh _ { directory := some { table :=
      [("echo", ⟨[secured], [{ host := "c", port := 1 }]⟩)] } } 0 2000)
    (.inr (by decide +kernel))
  exact ⟨_, extended, by decide +kernel,
    extended.selected_current (by decide +kernel : _ = Except.ok ("a:1", false))⟩

/-- An endpoint gives up its secure transport, and is called with it nevertheless. -/
theorem not_selected_current : ¬∀ m : Manager, Reachable m →
    ∀ (hash : Option HashKey) (draw now : Nat) (key : String) (degraded : Bool),
      (m.select hash draw now).1 = .ok (key, degraded) →
      ∃ a, (m.select hash draw now).2.adapter? key = some a ∧
        ∃ e ∈ m.roster.active, e.text = a.endpoint.text := by
  intro h
  have loaded := @Reachable.load ⟨"echo", none⟩ none { adapter := { object := "echo" } }
    { directory := some { unavailable := true } } _ 0 0 _ rfl
  have listed := loaded.step (.refresh _ { directory := some { table :=
    [("echo", ⟨[secured], []⟩)] } } 0 1000)
  have selected := listed.step (.select _ none 0 1000)
  have changed := selected.step (.refresh _ { directory := some { table :=
    [("echo", ⟨[{ secured with transport := .tcp }], []⟩)] } } 0 2000)
  obtain ⟨a, ha, e, he, htext⟩ := h _ changed none 0 3000 "a:1" false (by decide +kernel)
  have hcurrent := List.mem_map_of_mem (f := fun e : Endpoint => some e.text) he
  have hadapter := congrArg (Option.map fun a : Adapter => a.endpoint.text) ha
  rw [Option.map_some, ← htext] at hadapter
  rw [← hadapter] at hcurrent
  exact absurd hcurrent (by decide +kernel)

end TaggedRpc.Manager
