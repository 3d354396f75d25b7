import TaggedRpc.Proofs.Client.Events

/-!
# Whose callback a push runs

A servant may be given a callback for the pushes of the endpoints that it calls, and another one
later. But the callbacks that run are those of the endpoints, which servants share. An endpoint gets
its callback from the first servant with one that calls it, and keeps this one until a refresh drops
the endpoint (`Client.owner`).

So every push runs the callback that its endpoint has then, and nothing else runs one
(`Client.Run.delivers`). It is the latest callback of a servant that calls the endpoint if no other
servant with a callback was there before it, and the servant has not got another one since
(`Client.Delivers.own`). If it has, or is not the first one, the push runs another callback
(`Client.not_delivers`).
-/

namespace TaggedRpc.Client

variable {c c' : Client} {h es : List Event} {number servant : Nat} {key callback : String}

/-! ## Histories -/

/-- The callback that a servant has been given last. -/
def latest (servant : Nat) : List Event → Option String
  | [] => none
  | .subscribed s callback :: h => if s = servant then some callback else latest servant h
  | _ :: h => latest servant h

/-- The callback of an endpoint. If the endpoint has none, a call gives it that of the servant. A
    refresh without the endpoint takes it away. -/
def owner (number : Nat) (key : String) : List Event → Option String
  | [] => none
  | .dispatched s n k :: h =>
    if n = number ∧ k = key then (owner number key h).or (latest s h) else owner number key h
  | .listed n keys :: h => if n = number ∧ key ∉ keys then none else owner number key h
  | _ :: h => owner number key h

/-- The callbacks that have run, each with what it has got. -/
def heard : List Event → List (String × Bytes)
  | [] => []
  | .pushed n k payload :: h => heard h ++ ((owner n k h).map (·, payload)).toList
  | _ :: h => heard h

/-- No refresh drops an endpoint. -/
def Spares (number : Nat) (key : String) (es : List Event) : Prop :=
  ∀ keys, .listed number keys ∈ es → key ∈ keys

theorem spares_cons {e : Event} : Spares number key (e :: es) ↔
    (∀ keys, e = .listed number keys → key ∈ keys) ∧ Spares number key es := by
  constructor
  · intro hspares
    exact ⟨fun keys he => hspares keys (he ▸ List.mem_cons_self), fun keys hmem =>
      hspares keys (List.mem_cons_of_mem _ hmem)⟩
  · rintro ⟨he, hspares⟩ keys hmem
    exact (List.mem_cons.1 hmem).elim (fun heq => he keys heq.symm) (hspares keys)

/-- A servant keeps its callback until it gets another one. -/
theorem latest_append (hes : ∀ callback, .subscribed servant callback ∉ es) (h : List Event) :
    latest servant (es ++ h) = latest servant h := by
  induction es with
  | nil => rfl
  | cons e es ih =>
    have htail := ih fun callback hmem => hes callback (List.mem_cons_of_mem _ hmem)
    cases e with
    | subscribed s callback =>
      have hs : s ≠ servant := by
        rintro rfl
        exact hes callback List.mem_cons_self
      exact (if_neg hs).trans htail
    | _ => exact htail

/-- An endpoint keeps its callback until a refresh drops it. -/
theorem owner_append (hspares : Spares number key es)
    (howner : owner number key h = some callback) :
    owner number key (es ++ h) = some callback := by
  induction es with
  | nil => exact howner
  | cons e es ih =>
    obtain ⟨he, hes⟩ := spares_cons.1 hspares
    have htail := ih hes
    cases e with
    | dispatched s n k =>
      rw [List.cons_append, owner, htail]
      exact ite_self _
    | listed n keys =>
      rw [List.cons_append, owner, if_neg, htail]
      rintro ⟨rfl, hkey⟩
      exact hkey (he keys rfl)
    | _ => exact htail

theorem owner_dispatched : owner number key (.dispatched servant number key :: h) =
    (owner number key h).or (latest servant h) :=
  if_pos ⟨rfl, rfl⟩

/-- An endpoint has the callback that the first servant with one had when it called the endpoint. -/
theorem owner_eq_some_iff : owner number key h = some callback ↔
    ∃ servant later earlier, h = later ++ .dispatched servant number key :: earlier ∧
      Spares number key later ∧ owner number key earlier = none ∧
      latest servant earlier = some callback := by
  constructor
  · intro howner
    induction h with
    | nil => cases howner
    | cons e h ih =>
      -- The callback was there before, unless the event has brought it.
      have hbefore (hstay : owner number key h = some callback)
          (he : ∀ keys, e = .listed number keys → key ∈ keys) :
          ∃ servant later earlier, e :: h = later ++ .dispatched servant number key :: earlier ∧
            Spares number key later ∧ owner number key earlier = none ∧
            latest servant earlier = some callback := by
        obtain ⟨servant, later, earlier, rfl, hspares, hnone, hlatest⟩ := ih hstay
        exact ⟨servant, e :: later, earlier, rfl, spares_cons.2 ⟨he, hspares⟩, hnone, hlatest⟩
      cases e with
      | dispatched s n k =>
        by_cases hthis : n = number ∧ k = key
        · obtain ⟨rfl, rfl⟩ := hthis
          rw [owner_dispatched] at howner
          cases hearlier : owner n k h with
          | none =>
            rw [hearlier, Option.none_or] at howner
            exact ⟨s, [], h, rfl, fun _ => nofun, hearlier, howner⟩
          | some callback' =>
            rw [hearlier, Option.some_or] at howner
            exact hbefore (hearlier.trans howner) fun _ => nofun
        · rw [owner, if_neg hthis] at howner
          exact hbefore howner fun _ => nofun
      | listed n keys =>
        rw [owner] at howner
        split at howner
        · cases howner
        · next hstays =>
          refine hbefore howner fun keys' heq => ?_
          cases heq
          exact by_contra fun hkey => hstays ⟨rfl, hkey⟩
      | _ => exact hbefore howner fun _ => nofun
  · rintro ⟨servant, later, earlier, rfl, hspares, hnone, hlatest⟩
    refine owner_append hspares ?_
    rw [owner_dispatched, hnone, hlatest]
    rfl

/-- Whatever happens, what has been heard has been heard. -/
theorem heard_append (es h : List Event) : heard h <+: heard (es ++ h) := by
  induction es with
  | nil => exact List.prefix_rfl
  | cons e es ih =>
    cases e with
    | pushed n k payload => exact ih.trans (List.prefix_append ..)
    | _ => exact ih

theorem owner_pushed (n : Nat) (k : String) (h : List Event) (payloads : List Bytes) :
    owner n k (payloads.map (.pushed number key) ++ h) = owner n k h := by
  induction payloads with
  | nil => rfl
  | cons payload payloads ih => exact ih

/-- Pushes of an endpoint, newest first, run the callback that the endpoint has. -/
theorem heard_pushed (h : List Event) (payloads : List Bytes) :
    heard (payloads.map (.pushed number key) ++ h) =
      heard h ++ payloads.reverse.filterMap fun payload =>
        (owner number key h).map (·, payload) := by
  induction payloads with
  | nil => exact (List.append_nil _).symm
  | cons payload payloads ih =>
    rw [List.map_cons, List.cons_append, heard, ih, owner_pushed, List.reverse_cons,
      List.filterMap_append, ← List.append_assoc]
    cases owner number key h <;> rfl

/-! ## Clients -/

/-- The callback of a servant. -/
def callback? (c : Client) (servant : Nat) : Option String :=
  c.servants[servant]?.bind Servant.pushCallback

/-- The callback of an endpoint. -/
def pushTo (c : Client) (number : Nat) (key : String) : Option String :=
  c.managers[number]?.bind (·.pushTo key)

theorem Beside.callback? (hbeside : c.Beside c') (servant : Nat) :
    c'.callback? servant = c.callback? servant := by
  have hservant := congrArg (fun servants => servants[servant]?.bind Prod.snd) hbeside.servants
  rw [List.getElem?_map, List.getElem?_map, Option.bind_map, Option.bind_map] at hservant
  exact hservant

theorem Beside.pushTo (hbeside : c.Beside c') (number : Nat) (key : String) :
    c'.pushTo number key = c.pushTo number key :=
  rel_bind (fun _ _ hmanager => hmanager.pushTo key) (hbeside.managers number)

/-- One manager changes. -/
theorem pushTo_set {m m' : Manager} (hm : c.managers[number]? = some m)
    (hmanagers : c'.managers = c.managers.set number m') (n : Nat) (key : String) :
    c'.pushTo n key = if number = n then m'.pushTo key else c.pushTo n key := by
  rw [pushTo, hmanagers]
  by_cases hn : number = n
  · subst hn
    rw [List.getElem?_set_self (List.getElem?_eq_some_iff.1 hm).1, if_pos rfl]
    rfl
  · rw [List.getElem?_set_ne hn, if_neg hn, pushTo]

theorem pushTo_of_getElem? {m : Manager} (hm : c.managers[number]? = some m) (key : String) :
    c.pushTo number key = m.pushTo key := by
  rw [pushTo, hm]
  rfl

/-- What the history tells is how things are. -/
structure Tells (h : List Event) (c : Client) : Prop where
  callbacks (servant : Nat) : c.callback? servant = latest servant h
  owners (number : Nat) (key : String) : c.pushTo number key = owner number key h
  pushes : c.pushes = heard h

theorem Tells.new (config : Config) (sources : Sources) : Tells [] { config, sources } where
  callbacks _ := rfl
  owners _ _ := rfl
  pushes := rfl

theorem Tells.quiet (htells : Tells h c) (hquiet : c.Quiet c') : Tells h c' where
  callbacks servant := (hquiet.callback? servant).trans (htells.callbacks servant)
  owners number key := (hquiet.pushTo number key).trans (htells.owners number key)
  pushes := hquiet.pushes.trans htells.pushes

/-! ### Refreshes -/

theorem activeKeys_set {m m' : Manager} (hm : c.managers[number]? = some m)
    (hmanagers : c'.managers = c.managers.set number m') :
    c'.activeKeys number = m'.roster.active.map Endpoint.key := by
  rw [activeKeys, hmanagers, List.getElem?_set_self (List.getElem?_eq_some_iff.1 hm).1]
  rfl

theorem listedBy_of_eq {r : Except RpcError Bool × Client} (hr : r.1 = .ok true) :
    listedBy number r = [.listed number (r.2.activeKeys number)] := by
  obtain ⟨answer, c⟩ := r
  cases hr
  rfl

theorem listedBy_of_ne {r : Except RpcError Bool × Client} (hr : r.1 ≠ .ok true) :
    listedBy number r = [] := by
  obtain ⟨_ | _ | _, c⟩ := r
  · rfl
  · rfl
  · exact absurd rfl hr

/-- A refresh that changes a manager takes the callbacks of the endpoints that it does not list. -/
theorem Tells.listed (htells : Tells h c) {m m' : Manager} (hm : c.managers[number]? = some m)
    (hservants : c'.servants = c.servants) (hpushes : c'.pushes = c.pushes)
    (hmanagers : c'.managers = c.managers.set number m')
    (hpush : ∀ key, m'.pushTo key =
      if Manager.isActiveKey m'.roster key = true then m.pushTo key else none) :
    Tells (.listed number (c'.activeKeys number) :: h) c' := by
  constructor
  case callbacks =>
    intro servant
    rw [callback?, hservants]
    exact htells.callbacks servant
  case owners =>
    intro n key
    have howner : owner n key (.listed number (c'.activeKeys number) :: h) =
        if number = n ∧ key ∉ c'.activeKeys number then none else owner n key h := rfl
    -- An endpoint that stays active keeps its adapter, and with it the callback.
    rw [pushTo_set hm hmanagers, howner, activeKeys_set hm hmanagers, ← htells.owners]
    by_cases hn : number = n
    · subst hn
      rw [if_pos rfl, hpush, pushTo_of_getElem? hm]
      by_cases hactive : Manager.isActiveKey m'.roster key = true
      · have hmem : key ∈ m'.roster.active.map Endpoint.key :=
          List.mem_map.2 (Manager.isActiveKey_iff.1 hactive)
        rw [if_pos hactive, if_neg fun hdropped => hdropped.2 hmem]
      · have hnot : key ∉ m'.roster.active.map Endpoint.key := fun hmem =>
          hactive (Manager.isActiveKey_iff.2 (List.mem_map.1 hmem))
        rw [if_neg hactive, if_pos ⟨rfl, hnot⟩]
    · rw [if_neg hn, if_neg fun hdropped => hn hdropped.1]
  case pushes => exact hpushes.trans htells.pushes

theorem Tells.refresh (htells : Tells h c) (number : Nat) :
    Tells (listedBy number (refresh number c) ++ h) (refresh number c).2 := by
  cases hm : c.managers[number]? with
  | none =>
    rw [refresh_of_none hm]
    exact htells.quiet ⟨.of_eq rfl rfl rfl rfl rfl, rfl⟩
  | some m =>
    rw [refresh_of_getElem? hm]
    by_cases hchanged : (m.refresh c.sources c.draws c.clock).1 = .ok true
    · rw [listedBy_of_eq hchanged]
      exact htells.listed hm rfl rfl rfl (Manager.pushTo_refresh hchanged)
    · rw [listedBy_of_ne hchanged]
      have hsame : m.Beside (m.refresh c.sources c.draws c.clock).2.2 := by
        rw [Manager.refresh_of_ne hchanged]
        exact .refl m
      exact htells.quiet ⟨⟨rfl, rfl, rfl, rel_set Manager.Beside.refl hm hsame, rfl⟩, rfl⟩

/-! ### Calls -/

/-- What a selection brings about. -/
theorem Tells.dispatched (htells : Tells h c) {s : Servant} {m m' : Manager} {t : Target}
    (hs : c.servants[servant]? = some s) (hm : c.managers[t.manager]? = some m)
    (hservants : c'.servants = c.servants) (hpushes : c'.pushes = c.pushes)
    (hmanagers : c'.managers = c.managers.set t.manager m')
    (hpush : ∀ key, m'.pushTo key =
      if key = t.key then (m.pushTo key).or s.pushCallback else m.pushTo key) :
    Tells (.dispatched servant t.manager t.key :: h) c' := by
  constructor
  case callbacks =>
    intro servant
    rw [callback?, hservants]
    exact htells.callbacks servant
  case owners =>
    intro n key
    have howner : owner n key (.dispatched servant t.manager t.key :: h) =
        if t.manager = n ∧ t.key = key then (owner n key h).or (latest servant h)
        else owner n key h := rfl
    have hlatest : s.pushCallback = latest servant h := by
      rw [← htells.callbacks, callback?, hs]
      rfl
    rw [pushTo_set hm hmanagers, howner, ← htells.owners, ← hlatest]
    by_cases hn : t.manager = n
    · subst hn
      rw [if_pos rfl, hpush, pushTo_of_getElem? hm]
      by_cases hkey : t.key = key
      · rw [if_pos hkey.symm, if_pos ⟨rfl, hkey⟩]
      · rw [if_neg fun heq => hkey heq.symm, if_neg fun hthis => hkey hthis.2]
    · rw [if_neg hn, if_neg fun hthis => hn hthis.1]
  case pushes => exact hpushes.trans htells.pushes

theorem Tells.select (htells : Tells h c) (servant : Nat) (hash : Option HashKey) :
    Tells (dispatchedBy servant (select servant hash c).1 ++ h) (select servant hash c).2 := by
  rcases select_cases servant hash c with ⟨e, herror, hquiet⟩ |
    ⟨s, m, key, degraded, a, hs, hm, ha, heq⟩
  · rw [herror]
    exact htells.quiet hquiet
  · rw [heq]
    obtain ⟨-, hkey⟩ := Manager.mem_of_adapter? ha
    refine htells.dispatched hs hm rfl rfl rfl fun k => ?_
    have hbefore := (m.beside_select hash c.draws c.clock).pushTo k
    show (subscribeTo _ key s).pushTo k = if k = a.key then _ else _
    rw [hkey, subscribeTo, Manager.pushTo_onAdapter? ha hkey]
    split
    · next hk =>
      rw [← hbefore, hk, Manager.pushTo, ha]
      rfl
    · exact hbefore

/-! ### Reads -/

theorem Tells.read (htells : Tells h c) (t : Target) (chunk : Bytes) :
    Tells (pushedBy t chunk c ++ h) (readOnce t chunk c).2 := by
  have hhears := hears_readOnce t chunk c
  rw [pushedBy]
  cases ha : c.adapterOf? t with
  | none =>
    rw [ha] at hhears
    exact htells.quiet ⟨hhears.toBeside, hhears.pushes.trans (List.append_nil _)⟩
  | some a =>
    rw [ha] at hhears
    dsimp only
    -- The payload that was read last is the newest event.
    rw [← List.map_reverse]
    constructor
    case callbacks =>
      intro servant
      rw [hhears.callback?, htells.callbacks, latest_append]
      simp
    case owners =>
      intro n k
      rw [hhears.pushTo, htells.owners, owner_pushed]
    case pushes =>
      have howner : a.pushTo = owner t.manager t.key h := by
        rw [← htells.owners, pushTo, ← Option.bind_some (f := Adapter.pushTo) (a := a), ← ha]
        exact Option.bind_assoc ..
      rw [hhears.pushes, htells.pushes, heard_pushed, List.reverse_reverse, ← howner]
      rfl

/-! ### Lives -/

theorem Tells.subscribe (htells : Tells h c) {servant : Nat}
    (hservant : servant < c.servants.length) (callback : String) :
    Tells (.subscribed servant callback :: h) (setPushCallback servant callback c).2 where
  callbacks s := by
    have hlatest : latest s (.subscribed servant callback :: h) =
        if servant = s then some callback else latest s h := rfl
    rw [hlatest, ← htells.callbacks, callback?, callback?]
    show (c.servants.modify servant _)[s]?.bind _ = _
    rw [List.getElem?_modify]
    by_cases hs : servant = s
    · subst hs
      rw [List.getElem?_eq_getElem hservant, if_pos rfl]
      simp
    · simp [hs]
  owners := htells.owners
  pushes := htells.pushes

theorem Tells.step (htells : Tells h c) (hstep : Step c es c') : Tells (es ++ h) c' := by
  cases hstep with
  | quiet hquiet => exact htells.quiet hquiet
  | refresh number => exact htells.refresh number
  | select servant hash => exact htells.select servant hash
  | read t chunk => exact htells.read t chunk
  | subscribe servant callback hservant => exact htells.subscribe hservant callback

/-- Something without a callback is added at the end. -/
theorem bind_getElem?_concat {α : Type} {f : α → Option String} {a : α} (ha : f a = none)
    (as : List α) (n : Nat) : (as ++ [a])[n]?.bind f = as[n]?.bind f := by
  rcases Nat.lt_trichotomy n as.length with hn | rfl | hn
  · rw [List.getElem?_append_left hn]
  · rw [List.getElem?_concat_length, List.getElem?_eq_none (Nat.le_refl _)]
    exact ha
  · have hlength : (as ++ [a]).length ≤ n := by rwa [List.length_append]
    rw [List.getElem?_eq_none hlength, List.getElem?_eq_none (Nat.le_of_lt hn)]

theorem Tells.manager (htells : Tells h c) (text : String) (set : Option String) :
    Tells h (manager text set c).2 := by
  rcases manager_cases text set c with ⟨e, -, hquiet⟩ |
    ⟨ref, -, ⟨number, -, heq⟩ | ⟨m, sources, -, hload, heq⟩⟩
  · exact htells.quiet hquiet
  · rw [heq]
    exact htells
  · rw [heq]
    refine ⟨htells.callbacks, fun n key => ?_, htells.pushes⟩
    have hnone := bind_getElem?_concat (f := (Manager.pushTo · key))
      (Manager.pushTo_of_load hload key) c.managers n
    exact hnone.trans (htells.owners n key)

theorem Tells.ask (htells : Tells h c) (text : String) (set : Option String) :
    Tells (askedBy text set (proxyIn text set c).1 ++ h) (proxyIn text set c).2 := by
  have hmanager := htells.manager text set
  rcases proxyIn_cases text set c with ⟨e, -, herror, heq⟩ | ⟨number, servant, -, -, hnone, heq⟩
  · rw [herror, heq]
    exact hmanager
  · rw [heq]
    refine ⟨fun s => ?_, hmanager.owners, hmanager.pushes⟩
    exact (bind_getElem?_concat hnone _ s).trans (hmanager.callbacks s)

/-- Whatever has happened to a client, its history tells who heard of which pushes. -/
theorem Run.tells {config : Config} {sources : Sources} (hrun : Run config sources h c) :
    Tells h c := by
  induction hrun with
  | new => exact .new config sources
  | step _ hstep ih => exact ih.step hstep
  | ask text set _ ih => exact ih.ask text set

/-! ## Who hears of pushes -/

/-- A servant with a callback has called an endpoint, and no refresh has dropped the endpoint
    since. -/
def Reached (servant number : Nat) (key : String) (h : List Event) : Prop :=
  ∃ since before, h = since ++ .dispatched servant number key :: before ∧ Spares number key since ∧
    latest servant before ≠ none

/-- A call of a servant gives an endpoint the callback that it has. -/
structure First (servant number : Nat) (key callback : String) (since before : List Event) :
    Prop where
  spares : Spares number key since
  /-- The endpoint had none. -/
  nobody : owner number key before = none
  callback : latest servant before = some callback

/-- Which callbacks pushes run. -/
structure Delivers (h : List Event) (c : Client) : Prop where
  /-- Each push runs the callback that its endpoint has then. Nothing else runs one. -/
  pushes : c.pushes = heard h
  /-- After a servant with a callback has called an endpoint, each push of the endpoint runs a
      callback: the one that the first such servant had when it called. -/
  first : ∀ later number key payload earlier servant,
    h = later ++ .pushed number key payload :: earlier → Reached servant number key earlier →
    ∃ servant callback since before, earlier = since ++ .dispatched servant number key :: before ∧
      First servant number key callback since before ∧
      heard earlier ++ [(callback, payload)] <+: c.pushes
  /-- It is the latest callback of this servant, if it has not got another one since. -/
  own : ∀ later number key payload earlier servant callback since before,
    h = later ++ .pushed number key payload :: earlier →
    earlier = since ++ .dispatched servant number key :: before →
    First servant number key callback since before →
    (∀ callback, .subscribed servant callback ∉ since) →
    latest servant earlier = some callback ∧ heard earlier ++ [(callback, payload)] <+: c.pushes

theorem Reached.exists_owner (hreached : Reached servant number key h) :
    ∃ callback, owner number key h = some callback := by
  obtain ⟨since, before, rfl, hspares, hlatest⟩ := hreached
  obtain ⟨callback, hcallback⟩ := Option.ne_none_iff_exists'.1 hlatest
  -- The endpoint may have got the callback of another servant before.
  cases howner : owner number key before with
  | some other =>
    refine ⟨other, owner_append hspares ?_⟩
    rw [owner_dispatched, howner, Option.some_or]
  | none =>
    refine ⟨callback, owner_append hspares ?_⟩
    rw [owner_dispatched, howner, hcallback, Option.none_or]

theorem heard_of_owner (howner : owner number key h = some callback) (later : List Event)
    (payload : Bytes) :
    heard h ++ [(callback, payload)] <+: heard (later ++ .pushed number key payload :: h) := by
  have hheard : heard (.pushed number key payload :: h) = heard h ++ [(callback, payload)] := by
    rw [heard, howner]
    rfl
  rw [← hheard]
  exact heard_append later _

/-- Whatever calls are made by whatever servants, and whatever is pushed in between, each push runs
    the callback of the first servant with one that has called the endpoint. -/
theorem Run.delivers {config : Config} {sources : Sources} (hrun : Run config sources h c) :
    Delivers h c := by
  have hpushes := hrun.tells.pushes
  constructor
  case pushes => exact hpushes
  case first =>
    rintro later number key payload earlier servant rfl hreached
    obtain ⟨callback, howner⟩ := hreached.exists_owner
    obtain ⟨first, since, before, hsplit, hspares, hnobody, hcallback⟩ := owner_eq_some_iff.1 howner
    refine ⟨first, callback, since, before, hsplit, ⟨hspares, hnobody, hcallback⟩, ?_⟩
    rw [hpushes]
    exact heard_of_owner howner later payload
  case own =>
    rintro later number key payload earlier servant callback since before rfl hsplit hfirst hsince
    have howner : owner number key earlier = some callback :=
      owner_eq_some_iff.2
        ⟨servant, since, before, hsplit, hfirst.spares, hfirst.nobody, hfirst.callback⟩
    refine ⟨?_, hpushes ▸ heard_of_owner howner later payload⟩
    rw [hsplit, latest_append hsince]
    exact hfirst.callback

/-- A push of one byte. -/
def news : Response where
  version := Packet.version
  packetType := Packet.normal
  requestId := 0
  messageType := 0
  ret := 0
  buffer := [1]
  status := .empty
  description := ""
  context := .empty

/-- The endpoint of the only manager. -/
def target : Target where
  manager := 0
  endpoint := { host := "a", port := 1 }
  degraded := false

/-- A call of a servant is sent to the endpoint. -/
def sendTo (servant : Nat) : StateM Client Unit := do
  let _ ← select servant none
  let _ ← send { dial := fun _ _ => .ok () } target default

theorem Run.sendTo {config : Config} {sources : Sources} (hrun : Run config sources h c)
    (servant : Nat) : Run config sources (dispatchedBy servant (select servant none c).1 ++ h)
      (sendTo servant c).2 :=
  (hrun.step (.select c servant none)).step (.quiet (quiet_send _))

/-- Two servants of one object. -/
def couple : Client :=
  (proxyIn "echo@tcp -h a -p 1" none (proxyIn "echo@tcp -h a -p 1" none
    { config := {}, sources := {} }).2).2

/-- A servant with a callback calls the endpoint. Then the other servant does, which has another
    callback. Then the first one gets a third callback, and the endpoint pushes something. -/
def crossed : Client := Id.run do
  let c := (setPushCallback 0 "first" couple).2
  let c := (sendTo 0 c).2
  let c := (setPushCallback 1 "second" c).2
  let c := (sendTo 1 c).2
  let c := (setPushCallback 0 "third" c).2
  (readOnce target news.pack c).2

/-- What has happened before the push. -/
def crossing : List Event :=
  [.subscribed 0 "third", .dispatched 1 0 "a:1", .subscribed 1 "second", .dispatched 0 0 "a:1",
    .subscribed 0 "first", .asked "echo@tcp -h a -p 1" none 1, .asked "echo@tcp -h a -p 1" none 0]

theorem run_crossed : Run {} {} (.pushed 0 "a:1" [1] :: crossing) crossed := by
  have hcouple : Run {} {} _ couple :=
    (Run.new.ask "echo@tcp -h a -p 1" none).ask "echo@tcp -h a -p 1" none
  have hfirst := (hcouple.step (.subscribe 0 "first" (by decide +kernel))).sendTo 0
  have hsecond := (hfirst.step (.subscribe 1 "second" (by decide +kernel))).sendTo 1
  have hcrossed := (hsecond.step (.subscribe 0 "third" (by decide +kernel))).step
    (.read _ target news.pack)
  refine Eq.mp (congrArg (Run {} {} · crossed) ?_) hcrossed
  decide +kernel

theorem reached_crossing : Reached 1 0 "a:1" crossing :=
  ⟨[.subscribed 0 "third"], _, rfl, by simp [Spares], nofun⟩

/-- The push runs the callback that the first servant had when it called. -/
theorem Run.delivers_crossed : Run {} {} (.pushed 0 "a:1" [1] :: crossing) crossed ∧
    Reached 1 0 "a:1" crossing ∧ latest 1 crossing = some "second" ∧
    latest 0 crossing = some "third" ∧ crossed.pushes = [("first", [1])] ∧
    Delivers (.pushed 0 "a:1" [1] :: crossing) crossed :=
  ⟨run_crossed, reached_crossing, rfl, rfl, by decide +kernel, run_crossed.delivers⟩

/-- A servant that has a callback when it calls an endpoint may not hear of the pushes of the
    endpoint. -/
theorem not_delivers : ¬∀ (config : Config) (sources : Sources) (h : List Event) (c : Client),
    Run config sources h c → ∀ later number key payload earlier servant callback,
      h = later ++ .pushed number key payload :: earlier → Reached servant number key earlier →
      latest servant earlier = some callback → (callback, payload) ∈ c.pushes := by
  intro hdelivers
  have hheard := hdelivers {} {} _ crossed run_crossed [] 0 "a:1" [1] crossing 1 "second" rfl
    reached_crossing rfl
  exact absurd hheard (by decide +kernel)

end TaggedRpc.Client
