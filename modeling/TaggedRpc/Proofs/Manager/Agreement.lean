import TaggedRpc.Proofs.Endpoint.Text
import TaggedRpc.Proofs.Manager.Availability

/-!
# Managers agree

A roster goes by the texts of its endpoints, and the alive set by checksum and then by
text, so neither depends on the order in which a directory lists the endpoints
(`Manager.sorted_eq_of_perm`). What a hash leads to depends on the alive endpoints only
(`AliveSet.Later.select_eq`). So two managers that were loaded from lists of the same
endpoints route all calls with a hash alike, and a refresh that brings a manager its own
endpoints in another order changes nothing (`Manager.routing_of_perm`).

The exception is the ring of endpoints that weigh nothing. It has no points, so every
call goes to a random endpoint (`Manager.not_routing_of_perm`).
-/

namespace TaggedRpc

open Selection

/-- Two rosters of the same endpoints. -/
structure Roster.Perm (r r' : Roster) : Prop where
  active : r.active.Perm r'.active
  inactive : r.inactive.Perm r'.inactive

namespace AliveSet

variable {s s' : AliveSet}

/-- Picks leave the selectors alone that go by hashes. -/
theorem Later.eq_with_balance (h : s.Later s') : ∃ balance, s' = { s with balance } := by
  induction h with
  | refl => exact ⟨_, rfl⟩
  | tail _ hstep ih =>
    obtain ⟨balance, rfl⟩ := ih
    obtain ⟨hash, draw, rfl⟩ := hstep
    rcases hash with _ | _ | _ <;> exact ⟨_, rfl⟩

/-- Nor does it matter to a hash what has been picked before, or what is drawn. -/
theorem Later.select_eq (h : s.Later s') (hash : HashKey) (draw draw' : Nat) :
    (s'.select (some hash) draw').1 = (s.select (some hash) draw).1 := by
  obtain ⟨balance, rfl⟩ := h.eq_with_balance
  cases hash <;> rfl

theorem Later.filled (h : s.Later s') (hs : s.Filled) : s'.Filled := by
  induction h with
  | refl => exact hs
  | tail _ hstep ih =>
    obtain ⟨hash, draw, rfl⟩ := hstep
    exact ih.select

theorem later_select (s : AliveSet) (hash : Option HashKey) (draw : Nat) :
    s.Later (s.select hash draw).2 :=
  .single ⟨hash, draw, rfl⟩

/-- Nothing is picked if there is nobody. -/
theorem Filled.select_of_nil (h : s.Filled) (hnil : s.endpoints = []) (hash : Option HashKey)
    (draw : Nat) : ∃ error, (s.select hash draw).1 = .error error := by
  cases hselect : (s.select hash draw).1 with
  | error error => exact ⟨error, rfl⟩
  | ok e =>
    have he := h.sound.mem_of_select hselect
    rw [hnil] at he
    cases he

/-- What a hash leads to depends on the endpoints only. -/
theorem select_ofList (config : RoutingConfig) (es : List Endpoint) (hash : HashKey)
    (draw draw' : Nat) : ((ofList config es draw).select (some hash) draw').1 =
      ((ofList config es 0).select (some hash) 0).1 := by
  cases hash <;> rfl

end AliveSet

namespace Manager

variable {m m' m'' : Manager} {e : Endpoint} {es es' : List Endpoint} {r r' : Roster}
  {config : ManagerConfig}

/-! ## Orders -/

theorem perm_mergeSort_textLe (h : es.Perm es') :
    (es.mergeSort textLe).Perm (es'.mergeSort textLe) :=
  (List.mergeSort_perm es textLe).trans (h.trans (List.mergeSort_perm es' textLe).symm)

/-- Sorted by text, endpoints have the same texts in whatever order they came. -/
theorem map_text_mergeSort (h : es.Perm es') :
    (es.mergeSort textLe).map Endpoint.text = (es'.mergeSort textLe).map Endpoint.text := by
  have hsorted : ∀ es : List Endpoint, ((es.mergeSort textLe).map Endpoint.text).Pairwise (· ≤ ·) :=
    fun es => (List.pairwise_mergeSort textLe_trans textLe_total es).map _ fun _ _ => textLe_iff.1
  exact ((perm_mergeSort_textLe h).map Endpoint.text).eq_of_pairwise
    (fun _ _ _ _ => String.le_antisymm) (hsorted es) (hsorted es')

/-- Plain endpoints are in the same order then. -/
theorem mergeSort_textLe_of_perm (h : es.Perm es') (hplain : ∀ e ∈ es, e.Plain) :
    es.mergeSort textLe = es'.mergeSort textLe := by
  refine (perm_mergeSort_textLe h).eq_of_pairwise (fun a b ha hb hab hba => ?_)
    (List.pairwise_mergeSort textLe_trans textLe_total es)
    (List.pairwise_mergeSort textLe_trans textLe_total es')
  have htext := String.le_antisymm (textLe_iff.1 hab) (textLe_iff.1 hba)
  exact Endpoint.text_inj (hplain a (List.mem_mergeSort.1 ha))
    (hplain b (h.mem_iff.2 (List.mem_mergeSort.1 hb))) htext

theorem sorted_of_perm (h : r.Perm r') (hplain : ∀ e ∈ r.active ++ r.inactive, e.Plain) :
    sorted r = sorted r' := by
  have hactive := mergeSort_textLe_of_perm h.active fun e he =>
    hplain e (List.mem_append_left _ he)
  have hinactive := mergeSort_textLe_of_perm h.inactive fun e he =>
    hplain e (List.mem_append_right _ he)
  rw [sorted, sorted, hactive, hinactive]

theorem sameTexts_of_perm (h : es.Perm es') :
    sameTexts (es'.mergeSort textLe) (es.mergeSort textLe) = true :=
  beq_iff_eq.2 (map_text_mergeSort h).symm

/-- Its own endpoints in another order are nothing new to a manager. -/
theorem apply_of_perm (hsorted : m.roster = sorted r') (h : r.Perm r') (draw now : Nat) :
    m.apply r draw now = (false, m) := by
  have hsame : (sameTexts m.roster.active (sorted r).active &&
      sameTexts m.roster.inactive (sorted r).inactive) = true := by
    rw [hsorted]
    exact Bool.and_eq_true_iff.2 ⟨sameTexts_of_perm h.active, sameTexts_of_perm h.inactive⟩
  rw [apply]
  split
  · rfl
  · exact if_pos hsame

/-! ## Rosters -/

/-- A roster is in order. -/
def Sorted (r : Roster) : Prop := ∃ r', r = sorted r'

theorem sorted_nil : Sorted ⟨[], []⟩ :=
  ⟨⟨[], []⟩, congrArg₂ Roster.mk List.mergeSort_nil.symm List.mergeSort_nil.symm⟩

theorem sorted_apply (h : Sorted m.roster) (r : Roster) (draw now : Nat) :
    Sorted (m.apply r draw now).2.roster := by
  rw [Manager.apply]
  split
  · exact h
  · dsimp only
    split
    · exact h
    · exact ⟨r, rfl⟩

theorem Reachable.sorted (h : Reachable m) : Sorted m.roster := by
  induction h with
  | load hload =>
    exact load_induction (Q := fun m => Sorted m.roster) sorted_nil
      (fun _ r h => sorted_apply h r ..) hload
  | @step m m' hm hstep ih =>
    have hstay : ∀ {m'' : Manager}, m.Furnishes m'' → Sorted m''.roster := fun h =>
      h.roster.symm ▸ ih
    cases hstep with
    | refresh =>
      exact refresh_induction (Q := fun m => Sorted m.roster) ih (fun r => sorted_apply ih r ..) _
    | select => exact hstay (hm.valid.furnishes_select ..)
    | use _ _ hf => exact hstay (furnishes_onAdapter? fun a _ => (hf a).alike.endpoint)
    | useOn _ _ hf => exact hstay (furnishes_onCall? _ _ fun a => (hf a).alike.endpoint)
    | revive => exact hstay ((furnishes_onAdapter? fun _ _ => rfl).trans (furnishes_addAlive ..))
    | addAlive => exact hstay (furnishes_addAlive ..)
    | checkStatus => exact hstay (furnishes_checkStatus ..)
    | close => exact ih
    | poll => exact hstay (furnishes_poll ..)

/-- A refresh that brings a manager its own endpoints says that nothing has changed, and
    nothing has. -/
theorem refresh_of_perm (hm : Reachable m) {s : Sources} {d : Directory}
    (hd : s.directory = some d) (hr : (d.query m.object m.set).1 = .ok r)
    (hperm : r.Perm m.roster) (draw now : Nat) :
    ∃ s', m.refresh s draw now = (.ok false, s', m) ∧ s'.cache = s.cache := by
  obtain ⟨r', hsorted⟩ := hm.sorted
  have hperm' : r.Perm r' := by
    rw [hsorted] at hperm
    exact ⟨hperm.active.trans (List.mergeSort_perm ..),
      hperm.inactive.trans (List.mergeSort_perm ..)⟩
  rw [Manager.refresh]
  split
  · exact ⟨s, rfl, rfl⟩
  · refine ⟨{ s with directory := some (d.query m.object m.set).2 }, ?_, rfl⟩
    rw [hd]
    dsimp only
    rw [hr]
    dsimp only
    rw [apply_of_perm hsorted hperm']
    rfl

/-! ## Loading -/

/-- Managers that were loaded from an answer of a directory. -/
inductive Loaded (config : ManagerConfig) (r : Roster) : Manager → Prop
  | load {ref : Reference} {set : Option String} {s s' : Sources} {d : Directory}
      {draw now : Nat} {m : Manager} : ref.direct = none → s.directory = some d →
      (d.query ref.name (set.filter (· ≠ ""))).1 = .ok r →
      load ref set config s draw now = (.ok m, s') → Loaded config r m

/-- The roster that comes of an answer. -/
def firstRoster (r : Roster) : Roster :=
  if r.active.isEmpty then ⟨[], []⟩ else sorted r

/-- What a manager is like just after it was loaded. -/
structure Fresh (config : ManagerConfig) (r : Roster) (m : Manager) : Prop where
  valid : m.Valid
  roster : m.roster = firstRoster r
  adapters : m.adapters = []
  closed : m.closed = false
  alive : ∃ draw, m.alive = .ofList config.routing m.alive.endpoints draw
  config : m.config = config

/-- A manager without endpoints takes the endpoints of a roster over. -/
theorem fresh_apply (hvalid : m.Valid) (hroster : m.roster = ⟨[], []⟩) (hadapters : m.adapters = [])
    (hclosed : m.closed = false) (halive : ∃ draw, m.alive = .ofList m.config.routing [] draw)
    (r : Roster) (draw now : Nat) : Fresh m.config r (m.apply r draw now).2 := by
  cases hempty : r.active with
  | nil =>
    have happly : m.apply r draw now = (false, m) := if_pos (by rw [hempty]; rfl)
    obtain ⟨draw, halive⟩ := halive
    rw [happly]
    refine ⟨hvalid, ?_, hadapters, hclosed, ⟨draw, ?_⟩, rfl⟩
    · rw [hroster, firstRoster, hempty]
      rfl
    · rw [halive]
      rfl
  | cons e es =>
    have hactive : r.active.isEmpty = false := by rw [hempty]; rfl
    -- Nobody has been active so far.
    have hnew : sameTexts m.roster.active (sorted r).active = false := by
      rw [hroster, sameTexts]
      refine eq_false_of_ne_true fun hsame => ?_
      have hlength := congrArg List.length (beq_iff_eq.1 hsame)
      rw [List.length_map, List.length_map, sorted, List.length_mergeSort, hempty] at hlength
      cases hlength
    have happly : m.apply r draw now =
        (true, ({ m with roster := sorted r }.evict now).rebuildAlive draw) := by
      rw [apply, if_neg (ne_true_of_eq_false hactive)]
      exact if_neg (by rw [hnew]; exact Bool.false_ne_true)
    have hvalid' := hvalid.apply r draw now
    rw [happly] at hvalid' ⊢
    refine ⟨hvalid', ?_, ?_, hclosed, ⟨draw, rfl⟩, rfl⟩
    · rw [firstRoster, if_neg (ne_true_of_eq_false hactive)]
      rfl
    · show m.adapters.filter _ = []
      rw [hadapters, List.filter_nil]

theorem Loaded.fresh (h : Loaded config r m) : Fresh config r m := by
  obtain @⟨ref, set, s, s', d, draw, now, _, hdirect, hd, hr, hload⟩ := h
  let start := empty ref set config draw now
  have hopen : (start.direct || start.closed) = false := by
    show (ref.isDirect || false) = false
    rw [Reference.isDirect, hdirect]
    rfl
  obtain ⟨s'', hrefresh⟩ := refresh_eq_apply hopen hd hr draw now
  have hm : m = (start.apply r draw now).2 := by
    rw [Manager.load, hdirect, hd] at hload
    dsimp only at hload
    rw [show (empty ref set config draw now).refresh s draw now = _ from hrefresh] at hload
    cases hload
    rfl
  rw [hm]
  exact fresh_apply (valid_empty ..) rfl rfl rfl ⟨draw, rfl⟩ r draw now

/-- Without adapters, all active endpoints are eligible. -/
theorem isEligible_of_adapters (h : m.adapters = []) (e : Endpoint) : m.isEligible e = true := by
  rw [isEligible_eq, adapter?, h]
  rfl

theorem Fresh.endpoints_alive (h : Fresh config r m) :
    m.alive.endpoints = m.roster.active.mergeSort aliveLe := by
  rw [h.valid.alive h.closed, eligible,
    List.filter_eq_self.2 fun e _ => isEligible_of_adapters h.adapters e]

theorem Fresh.filled (h : Fresh config r m) : m.alive.Filled := by
  obtain ⟨draw, halive⟩ := h.alive
  exact halive ▸ AliveSet.filled_ofList ..

theorem firstRoster_of_perm (h : r.Perm r') (hplain : ∀ e ∈ r.active ++ r.inactive, e.Plain) :
    firstRoster r = firstRoster r' := by
  have hempty : r.active.isEmpty = r'.active.isEmpty := by
    rw [Bool.eq_iff_iff, List.isEmpty_iff, List.isEmpty_iff]
    exact ⟨fun hnil => (hnil ▸ h.active).nil_eq.symm, fun hnil => (hnil ▸ h.active).eq_nil⟩
  rw [firstRoster, firstRoster, hempty, sorted_of_perm h hplain]

/-! ## Routing -/

/-- What remains of a manager while calls are routed and made. -/
structure Routes (m m' : Manager) : Prop where
  quiet : m.Quiet m'
  object : m'.object = m.object
  config : m'.config = m.config
  closed : m'.closed = m.closed
  alive : m.alive.Later m'.alive

theorem Routes.refl (m : Manager) : m.Routes m := ⟨.refl m, rfl, rfl, rfl, .refl⟩

theorem Routes.trans (h : m.Routes m') (h' : m'.Routes m'') : m.Routes m'' where
  quiet := ⟨h'.quiet.roster.trans h.quiet.roster, h'.quiet.alive.trans h.quiet.alive,
    h'.quiet.eligible.trans h.quiet.eligible⟩
  object := h'.object.trans h.object
  config := h'.config.trans h.config
  closed := h'.closed.trans h.closed
  alive := h.alive.trans h'.alive

theorem routes_adapterFor (m : Manager) (e : Endpoint) (now : Nat) :
    m.Routes (m.adapterFor e now).2 := by
  have hquiet := quiet_adapterFor m e now
  obtain ⟨adapters, heq⟩ := adapterFor_eq_with_adapters m e now
  rw [heq] at hquiet ⊢
  exact ⟨hquiet, rfl, rfl, rfl, .refl⟩

theorem routes_firstHealthy (now : Nat) (es : List Endpoint) (m : Manager) :
    m.Routes (m.firstHealthy now es).2 := by
  induction es generalizing m with
  | nil => exact .refl m
  | cons e es ih =>
    rw [firstHealthy]
    dsimp only
    split
    · exact routes_adapterFor m e now
    · exact (routes_adapterFor m e now).trans (ih _)

theorem routes_withAlive (m : Manager) (hash : Option HashKey) (draw : Nat) :
    m.Routes { m with alive := (m.alive.select hash draw).2 } where
  quiet := ⟨rfl, AliveSet.endpoints_select, rfl⟩
  object := rfl
  config := rfl
  closed := rfl
  alive := m.alive.later_select hash draw

theorem routes_pick (m : Manager) (hash : Option HashKey) (draw now : Nat) :
    m.Routes (m.pick hash draw now).2 := by
  have hroutes := m.routes_withAlive hash draw
  rw [pick]
  rcases hselect : m.alive.select hash draw with ⟨_ | e, alive⟩ <;> rw [hselect] at hroutes
  · exact hroutes
  · exact hroutes.trans (routes_firstHealthy ..)

theorem routes_degrade (m : Manager) (draw now : Nat) : m.Routes (m.degrade draw now).2 := by
  rw [degrade]
  split
  · exact .refl m
  · split
    · exact routes_adapterFor ..
    · exact .refl m

theorem routes_select (m : Manager) (hash : Option HashKey) (draw now : Nat) :
    m.Routes (m.select hash draw now).2 := by
  cases hclosed : m.closed with
  | true =>
    rw [Manager.select, if_pos hclosed]
    exact .refl m
  | false =>
    rw [select_eq hclosed]
    cases (m.pick hash draw now).1 with
    | some => exact m.routes_pick ..
    | none => exact (m.routes_pick ..).trans (routes_degrade ..)

theorem Serves.routes (h : Serves m m') : m.Routes m' := by
  have hquiet := h.quiet
  obtain ⟨_, _, rfl⟩ := h.eq_with_adapters
  exact ⟨hquiet, rfl, rfl, rfl, .refl⟩

/-- Calls have been routed and made, in any order. -/
def Calls : Manager → Manager → Prop :=
  Relation.ReflTransGen fun m m' => (∃ hash draw now, m' = (m.select hash draw now).2) ∨ Serves m m'

theorem Calls.routes (h : Calls m m') : m.Routes m' := by
  induction h with
  | refl => exact .refl m
  | tail _ hstep ih =>
    rcases hstep with ⟨hash, draw, now, rfl⟩ | hserves
    · exact ih.trans (routes_select ..)
    · exact ih.trans hserves.routes

/-! ## Picks -/

/-- A pick of an eligible endpoint is what a call gets. -/
theorem select_of_eligible (hopen : m.closed = false) {hash : Option HashKey} {draw : Nat}
    (hpick : (m.alive.select hash draw).1 = .ok e) (heligible : m.isEligible e = true) (now : Nat) :
    m.select hash draw now = (.ok (e.key, false),
      ({ m with alive := (m.alive.select hash draw).2 }.adapterFor e now).2) := by
  have hhealthy := isHealthy_fst_adapterFor { m with alive := (m.alive.select hash draw).2 } e now
  have hpicked : m.pick hash draw now =
      (some e, ({ m with alive := (m.alive.select hash draw).2 }.adapterFor e now).2) := by
    rw [pick]
    rcases hselect : m.alive.select hash draw with ⟨r, alive⟩
    rw [hselect] at hpick hhealthy
    cases hpick
    dsimp only
    rw [firstHealthy]
    exact if_pos (hhealthy.trans heligible)
  rw [select_eq hopen, hpicked]

/-- All calls with a hash go to one endpoint, and an adapter that is made for them has its
    descriptor. -/
structure Picks (m : Manager) (hash : HashKey) (e : Endpoint) : Prop where
  alive : ∀ draw, (m.alive.select (some hash) draw).1 = .ok e
  select : ∀ draw now, (m.select (some hash) draw now).1 = .ok (e.key, false)
  descriptor : m.adapter? e.key = none → ∀ draw now, ∃ a,
    (m.select (some hash) draw now).2.adapter? e.key = some a ∧ a.endpoint = e

theorem picks_of_eligible (hopen : m.closed = false) {hash : HashKey}
    (hpick : ∀ draw, (m.alive.select (some hash) draw).1 = .ok e)
    (heligible : m.isEligible e = true) : m.Picks hash e where
  alive := hpick
  select draw now := by rw [select_of_eligible hopen (hpick draw) heligible]
  descriptor hnone draw now := by
    rw [select_of_eligible hopen (hpick draw) heligible]
    let m' : Manager := { m with alive := (m.alive.select (some hash) draw).2 }
    refine ⟨_, adapter?_adapterFor m' e now, ?_⟩
    rw [adapterFor_of_none (m := m') hnone]
    rfl

/-- Two managers route alike: they have the same roster and the same alive endpoints in the
    same order, and each hash leads both to one endpoint, if there are any and it does not
    lead into the ring of endpoints that weigh nothing. -/
structure Agree (m m' : Manager) : Prop where
  roster : m'.roster = m.roster
  alive : m'.alive.endpoints = m.alive.endpoints
  picks : m.alive.endpoints ≠ [] → ∀ hash : HashKey,
    (∀ code, hash = .ring code → ¬AliveSet.Weightless m.alive.endpoints) →
    ∃ e ∈ m.alive.endpoints, m.Picks hash e ∧ m'.Picks hash e
  refuses : m.alive.endpoints = [] → ∀ hash draw now,
    (m.select hash draw now).1 = .error (.noEndpoint m.object) ∧
    (m'.select hash draw now).1 = .error (.noEndpoint m'.object)

/-- A pick of a manager that was loaded is still its pick after calls. -/
theorem Fresh.picks (h : Fresh config r m) (hcalls : Calls m m') {hash : HashKey}
    (hpick : ((AliveSet.ofList config.routing m.alive.endpoints 0).select (some hash) 0).1 =
      .ok e) :
    m'.Picks hash e := by
  have hroutes := hcalls.routes
  obtain ⟨first, halive⟩ := h.alive
  have hpick' : ∀ draw, (m'.alive.select (some hash) draw).1 = .ok e := by
    intro draw
    rw [hroutes.alive.select_eq hash 0 draw, halive, AliveSet.select_ofList]
    exact hpick
  have he : e ∈ m'.alive.endpoints :=
    (hroutes.alive.filled h.filled).sound.mem_of_select (hpick' 0)
  have heligible : e ∈ m'.eligible := by
    rw [hroutes.quiet.eligible, ← h.valid.alive h.closed, ← hroutes.quiet.alive]
    exact he
  exact picks_of_eligible (hroutes.closed.trans h.closed) hpick' (mem_eligible.1 heligible).2

/-- Without endpoints there is nothing to pick. -/
theorem select_of_active (hopen : m.closed = false) (hfilled : m.alive.Filled)
    (halive : m.alive.endpoints = []) (hactive : m.roster.active = []) (hash : Option HashKey)
    (draw now : Nat) : (m.select hash draw now).1 = .error (.noEndpoint m.object) := by
  obtain ⟨error, herror⟩ := hfilled.select_of_nil halive hash draw
  have hpick : m.pick hash draw now = (none, { m with alive := (m.alive.select hash draw).2 }) := by
    rw [pick]
    rcases hselect : m.alive.select hash draw with ⟨r, alive⟩
    rw [hselect] at herror
    cases herror
    rfl
  rw [select_eq hopen, hpick]
  dsimp only
  rw [degrade]
  split
  · rfl
  · rw [hactive]
    rfl

theorem Fresh.refuses (h : Fresh config r m) (hcalls : Calls m m') (hnil : m.alive.endpoints = [])
    (hash : Option HashKey) (draw now : Nat) :
    (m'.select hash draw now).1 = .error (.noEndpoint m'.object) := by
  have hroutes := hcalls.routes
  have hactive : m.roster.active = [] := by
    rw [h.endpoints_alive] at hnil
    exact List.eq_nil_of_length_eq_zero (by rw [← List.length_mergeSort, hnil]; rfl)
  exact select_of_active (hroutes.closed.trans h.closed) (hroutes.alive.filled h.filled)
    (hroutes.quiet.alive.trans hnil) (hroutes.quiet.roster ▸ hactive) hash draw now

theorem agree_of_perm {m₀ m₀' : Manager} (hm : Loaded config r m₀) (hm' : Loaded config r' m₀')
    (hperm : r.Perm r') (hplain : ∀ e ∈ r.active ++ r.inactive, e.Plain) (hcalls : Calls m₀ m)
    (hcalls' : Calls m₀' m') : Agree m m' := by
  have hfresh := hm.fresh
  have hfresh' := hm'.fresh
  have hroster : m₀'.roster = m₀.roster := by
    rw [hfresh.roster, hfresh'.roster, firstRoster_of_perm hperm hplain]
  have halive : m₀'.alive.endpoints = m₀.alive.endpoints := by
    rw [hfresh.endpoints_alive, hfresh'.endpoints_alive, hroster]
  have hquiet := hcalls.routes.quiet
  have hquiet' := hcalls'.routes.quiet
  constructor
  case roster => rw [hquiet.roster, hquiet'.roster, hroster]
  case alive => rw [hquiet.alive, hquiet'.alive, halive]
  case picks =>
    rw [hquiet.alive]
    intro hne hash hring
    have hfilled := AliveSet.filled_ofList config.routing m₀.alive.endpoints 0
    have hring' : ∀ code, some hash = some (.ring code) → ¬AliveSet.Weightless m₀.alive.endpoints :=
      fun code hcode => hring code (Option.some.inj hcode)
    obtain ⟨e, he, hpick⟩ := hfilled.exists_select 0 hne hring'
    exact ⟨e, he, hfresh.picks hcalls hpick, hfresh'.picks hcalls' (by rw [halive]; exact hpick)⟩
  case refuses =>
    rw [hquiet.alive]
    intro hnil hash draw now
    exact ⟨hfresh.refuses hcalls hnil hash draw now,
      hfresh'.refuses hcalls' (halive.trans hnil) hash draw now⟩

/-- Managers do not go by the order in which a directory lists endpoints. Two that were
    loaded from the same endpoints agree, whatever calls have been made since. And a
    refresh that brings a manager its own endpoints does nothing. -/
theorem routing_of_perm {m₀ m₀' : Manager} (hm : Loaded config r m₀) (hm' : Loaded config r' m₀')
    (hperm : r.Perm r') (hplain : ∀ e ∈ r.active ++ r.inactive, e.Plain) (hcalls : Calls m₀ m)
    (hcalls' : Calls m₀' m') :
    Agree m m' ∧ ∀ {x : Manager} {s : Sources} {d : Directory} {r : Roster} (draw now : Nat),
      Reachable x → s.directory = some d → (d.query x.object x.set).1 = .ok r →
      r.Perm x.roster → ∃ s', x.refresh s draw now = (.ok false, s', x) ∧ s'.cache = s.cache :=
  ⟨agree_of_perm hm hm' hperm hplain hcalls hcalls', fun draw now hx hd hr hperm =>
    refresh_of_perm hx hd hr hperm draw now⟩

theorem Loaded.reachable (h : Loaded config r m) : Reachable m := by
  cases h with
  | load _ _ _ hload => exact .load hload

/-- A directory that lists one object. -/
def listing (object : String) (set : Option String) (r : Roster) : Directory :=
  { table := [(Directory.key object set, r)] }

theorem query_listing (object : String) (set : Option String) (r : Roster) :
    ((listing object set r).query object set).1 = .ok r := by
  simp [Directory.query, Directory.lookup?, listing]

/-- Any answer can be loaded. -/
theorem exists_loaded (config : ManagerConfig) (r : Roster) : ∃ m, Loaded config r m := by
  let start := empty ⟨"echo", none⟩ none config 0 0
  let s : Sources := { directory := some (listing "echo" none r) }
  have hquery := query_listing "echo" none r
  obtain ⟨s', hrefresh⟩ := refresh_eq_apply (m := start) (s := s) rfl rfl hquery 0 0
  have hload : load ⟨"echo", none⟩ none config s 0 0 = (.ok (start.apply r 0 0).2, s') := by
    rw [load]
    dsimp only
    rw [show (empty ⟨"echo", none⟩ none config 0 0).refresh s 0 0 = _ from hrefresh]
  exact ⟨(start.apply r 0 0).2, .load rfl rfl hquery hload⟩

theorem Loaded.roster_perm (h : Loaded config r m) (hactive : r.active.isEmpty = false) :
    m.roster.Perm r := by
  rw [h.fresh.roster, firstRoster, if_neg (ne_true_of_eq_false hactive)]
  exact ⟨List.mergeSort_perm .., List.mergeSort_perm ..⟩

/-- Two endpoints, one of which is listed with two descriptors. -/
def doubled : Roster :=
  ⟨[{ host := "b", port := 1 }, { host := "a", port := 1 },
      { host := "b", port := 1, weight := 5 }],
    []⟩

/-- The descriptors in another order. -/
def shuffled : Roster :=
  ⟨[{ host := "b", port := 1, weight := 5 }, { host := "b", port := 1 },
      { host := "a", port := 1 }],
    []⟩

/-- One manager was loaded from each list, and one of them has routed a call and then finds
    the other list in the directory. -/
theorem routing_of_perm_shuffled : ∃ m m' : Manager,
    Loaded { adapter := { object := "echo" } } doubled m ∧
    Loaded { adapter := { object := "echo" } } shuffled m' ∧ doubled.Perm shuffled ∧
    m.roster.Perm doubled ∧ Agree (m.select none 0 1000).2 m' ∧
    ∃ s', (m.select none 0 1000).2.refresh
      { directory := some (listing (m.select none 0 1000).2.object (m.select none 0 1000).2.set
        shuffled) } 0 2000 = (.ok false, s', (m.select none 0 1000).2) := by
  obtain ⟨m, hm⟩ := exists_loaded { adapter := { object := "echo" } } doubled
  obtain ⟨m', hm'⟩ := exists_loaded { adapter := { object := "echo" } } shuffled
  have hperm : doubled.Perm shuffled := ⟨by decide, by decide⟩
  have hplain : ∀ e ∈ doubled.active ++ doubled.inactive, e.Plain := by decide
  have hroster := hm.roster_perm rfl
  obtain ⟨hagree, hrefresh⟩ := routing_of_perm hm hm' hperm hplain
    (.single (.inl ⟨none, 0, 1000, rfl⟩)) .refl
  have hown : shuffled.Perm (m.select none 0 1000).2.roster := by
    rw [(hm.reachable.valid.furnishes_select ..).roster]
    exact ⟨hperm.active.symm.trans hroster.active.symm,
      hperm.inactive.symm.trans hroster.inactive.symm⟩
  obtain ⟨s', heq, -⟩ := hrefresh (s := { directory := some _ }) 0 2000
    (hm.reachable.step (.select m none 0 1000)) rfl (query_listing ..) hown
  exact ⟨m, m', hm, hm', hperm, hroster, hagree, s', heq⟩

/-- On the ring of endpoints that weigh nothing, every call goes to a random one. -/
theorem select_ring_weightless (hopen : m.closed = false) (hfilled : m.alive.Filled)
    (hne : m.alive.endpoints ≠ []) (hweightless : AliveSet.Weightless m.alive.endpoints)
    (hdegrade : m.config.degradeToUnhealthy = true) {draw : Nat}
    (he : m.roster.active[draw % m.roster.active.length]? = some e) (code : UInt32) (now : Nat) :
    (m.select (some (.ring code)) draw now).1 = .ok (e.key, true) := by
  have hring : (m.alive.select (some (.ring code)) draw).1 = .error (.empty Ring.name) :=
    hfilled.select_ring hne hweightless code
  have hpick : m.pick (some (.ring code)) draw now = (none, m) := by
    rw [pick]
    dsimp only
    rw [hring]
    rfl
  rw [select_eq hopen, hpick]
  dsimp only
  rw [degrade, hdegrade, he]
  rfl

/-- Two endpoints that weigh nothing. -/
def weightless : Roster :=
  ⟨[{ host := "a", port := 1, weight := 0, weightType := .static },
    { host := "b", port := 1, weight := 0, weightType := .static }], []⟩

/-- Two managers were loaded from the same list, and one hash leads them to two endpoints. -/
theorem not_routing_of_perm : ¬∀ (config : ManagerConfig) (r r' : Roster) (m m' : Manager),
    Loaded config r m → Loaded config r' m' → r.Perm r' →
    (∀ e ∈ r.active ++ r.inactive, e.Plain) → ∀ (code : UInt32) (draw draw' now now' : Nat),
      (m.select (some (.ring code)) draw now).1 = (m'.select (some (.ring code)) draw' now').1 := by
  intro h
  obtain ⟨m, hm⟩ := exists_loaded { adapter := { object := "echo" } } weightless
  have hplain : ∀ e ∈ weightless.active ++ weightless.inactive, e.Plain := by decide
  have hfresh := hm.fresh
  have hroster : m.roster.active = weightless.active := by
    rw [hfresh.roster]
    exact (mergeSort_pair ..).trans (if_pos (by decide +kernel))
  have halive : m.alive.endpoints = weightless.active.reverse := by
    rw [hfresh.endpoints_alive, hroster]
    exact (mergeSort_pair ..).trans (if_neg (by decide +kernel))
  have hpick : ∀ draw e, weightless.active[draw % 2]? = some e →
      (m.select (some (.ring 5)) draw 0).1 = .ok (e.key, true) := by
    intro draw e he
    refine select_ring_weightless hfresh.closed hfresh.filled ?_ ?_ ?_ ?_ 5 0
    · rw [halive]
      decide
    · rw [halive]
      exact ⟨by decide, by decide +kernel⟩
    · rw [hfresh.config]
    · rw [hroster]
      exact he
  have hsame := h _ _ _ m m hm hm ⟨.refl _, .refl _⟩ hplain 5 0 1 0 0
  rw [hpick 0 _ rfl, hpick 1 _ rfl] at hsame
  exact absurd (Except.ok.inj hsame) (by decide)

end Manager

end TaggedRpc
