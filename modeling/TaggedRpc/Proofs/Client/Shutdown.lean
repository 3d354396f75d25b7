import TaggedRpc.Proofs.Client.Aside

/-!
# Shutting a client down among those who ask for servants

Tasks ask a client for servants, each step by step. An *asker* sees whether the client is shut down,
and then waits for the table of managers. While it *holds* the table nobody else does: it looks its
key up, and if there is no manager, makes one (which may take long, as a directory is asked) and
puts it there. Then it makes its servant.

One task shuts the client down. It marks the client, waits for the table as the others do, empties
it, and closes what it has found there, one manager after another.

Every one of these steps can fall between any others (`Shutdown.Step`), and so can calls and time
(`Client.Aside`).

When the shutdown is done, every manager is closed but those that have come into the table after it
was emptied. Those are managers of askers that have found the client open before it was marked, and
were still waiting for the table when the shutdown had it. If there is none of these
(`Shutdown.Scene.InTime`), all managers are closed, and all calls through all servants fail
(`Shutdown.Run.covered`). Otherwise a servant can be left with which one can go on calling
(`Shutdown.not_covered`).

When nothing comes in between, the steps of an asker add up to `Client.proxyIn`, and those of the
shutdown to `Client.shutdown` (`Shutdown.run_proxyIn`, `Shutdown.run_shutdown`).
-/

namespace TaggedRpc

theorem FilterChain.run_empty {σ : Type} (last : Call σ) : FilterChain.run {} last = last := rfl

namespace Client

/-! ## Calls on a closed manager -/

/-- The manager of a servant is closed. -/
def IsShut (c : Client) (number : Nat) : Prop :=
  ∃ s m, c.servants[number]? = some s ∧ c.managers[s.manager]? = some m ∧ m.closed = true

/-- Calls of a servant fail: with no filters as soon as they are admitted, and behind filters when
    they are dispatched. -/
structure Refuses (c : Client) (number : Nat) : Prop where
  dispatch (out : Outside) (v : Invocation) (timeout : Duration) :
    (dispatch out number v timeout c).1.1 = .error .shutdown
  dispatchCallback (out : Outside) (offer : Int32) (label : String) (v : Invocation)
    (timeout : Duration) : offer ∈ c.offered →
    (dispatchCallback out number offer label v timeout c).1.1 = .error .shutdown
  invoke (out : Outside) (func : String) (buffer : Bytes) (o : CallOptions) :
    (acquire number c).1 = .ok () → (invoke out {} number func buffer o c).1 = .error .shutdown
  invokeOneway (out : Outside) (func : String) (buffer : Bytes) (o : CallOptions) :
    (acquire number c).1 = .ok () →
      (invokeOneway out {} number func buffer o c).1 = .error .shutdown
  invokeAsync (out : Outside) (func : String) (buffer : Bytes) (o : CallOptions) (label : String) :
    (acquire number c).1 = .ok () →
      (invokeAsync out {} number func buffer o label c).1 = .error .shutdown

variable {c c' : Client} {number : Nat}

theorem IsShut.aside (h : c.IsShut number) (haside : c.Aside c') : c'.IsShut number := by
  obtain ⟨s, m, hs, hm, hclosed⟩ := h
  have hservants : (c'.servants.map Servant.manager)[number]? = some s.manager := by
    rw [haside.servants, List.getElem?_map, hs]
    rfl
  rw [List.getElem?_map, Option.map_eq_some_iff] at hservants
  obtain ⟨s', hs', hmanager⟩ := hservants
  have hrel := haside.managers s.manager
  rw [hm] at hrel
  cases hm' : c'.managers[s.manager]? with
  | none =>
    rw [hm'] at hrel
    exact nomatch hrel
  | some m' =>
    rw [hm'] at hrel
    cases hrel with
    | some hclosed' => exact ⟨s', m', hs', hmanager ▸ hm', hclosed' hclosed⟩

namespace IsShut

variable (h : c.IsShut number) (out : Outside) (v : Invocation) (timeout : Duration)

include h

/-- No endpoint is selected for a call. -/
theorem select (hash : Option HashKey) : (Client.select number hash c).1 = .error .shutdown := by
  obtain ⟨s, m, hs, hm, hclosed⟩ := h
  rw [Client.select, bind_apply, bind_apply, draw_apply, get_apply]
  dsimp only
  rw [hs]
  dsimp only
  rw [bind_apply, onManager_of_getElem? (c := { c with draws := c.draws + 1 }) hm, Manager.select,
    if_pos hclosed]
  rfl

theorem dispatch : (Client.dispatch out number v timeout c).1.1 = .error .shutdown := by
  rw [Client.dispatch]
  dsimp only
  rw [bind_apply, h.select]
  rfl

theorem dispatchCallback (offer : Int32) (label : String) (hoffer : offer ∈ c.offered) :
    (Client.dispatchCallback out number offer label v timeout c).1.1 = .error .shutdown := by
  have hoffered : ({ c with offered := c.offered.filter (· != offer) } : Client).IsShut number :=
    h.aside (.of_eq rfl rfl rfl rfl)
  rw [Client.dispatchCallback, bind_apply, get_apply]
  dsimp only
  rw [if_neg (not_not_intro hoffer), bind_apply, modify_apply]
  dsimp only
  rw [bind_apply, hoffered.select]
  rfl

section Admitted

variable (func : String) (buffer : Bytes) (o : CallOptions)
  (hadmitted : (acquire number c).1 = .ok ())

/-- The client when an invocation is there. -/
theorem start (packetType : Int8) :
    (start number func buffer packetType o timeout (acquire number c).2).2.IsShut number :=
  (h.aside (keeps_acquire c)).aside (keeps_start _)

include hadmitted

theorem invoke : (Client.invoke out {} number func buffer o c).1 = .error .shutdown := by
  rw [Client.invoke, bind_apply]
  generalize (timeoutOf number o Servant.timeout c).1 = timeout
  show ((acquire number >>= _) c).1 = _
  rw [bind_apply, hadmitted]
  dsimp only
  rw [bind_apply, bind_apply, bind_apply, FilterChain.run_empty, (h.start ..).dispatch]
  rfl

theorem invokeOneway :
    (Client.invokeOneway out {} number func buffer o c).1 = .error .shutdown := by
  rw [Client.invokeOneway, bind_apply]
  generalize (timeoutOf number o Servant.timeout c).1 = timeout
  show ((acquire number >>= _) c).1 = _
  rw [bind_apply, hadmitted]
  dsimp only
  rw [bind_apply, bind_apply, bind_apply, FilterChain.run_empty, (h.start ..).dispatch]
  rfl

theorem invokeAsync (label : String) :
    (Client.invokeAsync out {} number func buffer o label c).1 = .error .shutdown := by
  rw [Client.invokeAsync, bind_apply]
  generalize (timeoutOf number o Servant.asyncTimeout c).1 = timeout
  show ((acquire number >>= _) c).1 = _
  rw [bind_apply, hadmitted]
  dsimp only
  rw [bind_apply]
  have hstart := h.start timeout func buffer o Packet.normal
  generalize Client.start number func buffer Packet.normal o timeout (acquire number c).2 = started
    at hstart ⊢
  obtain ⟨v, c₁⟩ := started
  dsimp only
  generalize ({ v with request := { v.request with
    messageType := v.request.messageType ||| Packet.asyncFlag } } : Invocation) = v
  have hoffered : ({ c₁ with offered := v.id :: c₁.offered } : Client).IsShut number :=
    hstart.aside (.of_eq rfl rfl rfl rfl)
  have hcall := hoffered.dispatchCallback out v timeout v.id label (.head _)
  rw [bind_apply, modify_apply, bind_apply, FilterChain.run_empty]
  dsimp only
  generalize Client.dispatchCallback out number v.id label v timeout _ = called at hcall ⊢
  obtain ⟨⟨verdict, v'⟩, c₂⟩ := called
  cases hcall
  rw [bind_apply, get_apply]
  dsimp only
  split <;> rfl

end Admitted

end IsShut

theorem IsShut.refuses (h : c.IsShut number) : c.Refuses number where
  dispatch := h.dispatch
  dispatchCallback out offer label v timeout := h.dispatchCallback out v timeout offer label
  invoke := h.invoke
  invokeOneway := h.invokeOneway
  invokeAsync out func buffer o label hadmitted := h.invokeAsync out func buffer o hadmitted label

/-- The servant that is made for a manager. -/
def servant (c : Client) (number : Nat) : Servant where
  name := (c.managers[number]?.map Manager.object).getD ""
  manager := number
  timeout := .ofMillis c.config.requestTimeout.toNat
  asyncTimeout := .ofMillis c.config.asyncInvokeTimeout.toNat
  inFlight := { limit := c.config.objectQueueMax.toNat }

end Client

namespace Shutdown

open Relation (ReflTransGen)

/-! ## Askers -/

/-- How far an asker has come. -/
inductive Stage where
  | begun
  /-- The client was open, and the table is awaited. -/
  | waiting (ref : Reference)
  /-- The table is held. -/
  | holding (ref : Reference)
  /-- The table is held, and there is no manager in it. -/
  | loading (ref : Reference)
  /-- The table is held, and the manager is there. -/
  | loaded (m : Manager)
  /-- The number of the manager is known. -/
  | found (number : Nat)
  | returned (r : Except RpcError Nat)

namespace Stage

/-- Whether an asker has found the client open, and waits for the table. -/
def isWaiting : Stage → Bool
  | waiting _ => true
  | _ => false

/-- Whether an asker holds the table. -/
def holds : Stage → Bool
  | holding _ | loading _ | loaded _ => true
  | _ => false

/-- Whether an asker has its answer. -/
def isOver : Stage → Bool
  | returned _ => true
  | _ => false

end Stage

/-- A task that asks for a servant for a reference in a set. -/
structure Asker where
  text : String
  set : Option String
  stage : Stage := .begun

namespace Asker

/-- The set; never the empty text. -/
def set? (q : Asker) : Option String := q.set.filter (· ≠ "")

/-- What its manager is known by. -/
def key (q : Asker) : String := Client.tableKey q.text q.set?

/-- The manager that an asker makes, with what is left of the sources. -/
def load (q : Asker) (ref : Reference) (c : Client) : Except RpcError Manager × Sources :=
  Manager.load ref q.set? (c.managerConfig ref.name) c.sources c.draws c.clock

/-- A step of an asker that does not wait. -/
inductive Step (q : Asker) : Client → Stage → Client → Stage → Prop
  | refuse {c : Client} : c.closed = true → Step q c .begun c (.returned (.error .shutdown))
  | reject {c : Client} {e : Endpoint.ParseError} : c.closed = false →
      Reference.parse q.text = .error e → Step q c .begun c (.returned (.error (.ofParse e)))
  | pass {c : Client} {ref : Reference} : c.closed = false → Reference.parse q.text = .ok ref →
      Step q c .begun c (.waiting ref)
  | find {c : Client} {ref : Reference} {number : Nat} : c.table.lookup q.key = some number →
      Step q c (.holding ref) c (.found number)
  | miss {c : Client} {ref : Reference} : c.table.lookup q.key = none →
      Step q c (.holding ref) c (.loading ref)
  | load {c : Client} {ref : Reference} {m : Manager} {sources : Sources} :
      q.load ref c = (.ok m, sources) →
      Step q c (.loading ref) { c with draws := c.draws + 1, sources } (.loaded m)
  | fail {c : Client} {ref : Reference} {e : RpcError} {sources : Sources} :
      q.load ref c = (.error e, sources) →
      Step q c (.loading ref) { c with draws := c.draws + 1, sources } (.returned (.error e))
  | insert {m : Manager} (c : Client) :
      Step q c (.loaded m)
        { c with managers := c.managers ++ [m], table := c.table ++ [(q.key, c.managers.length)] }
        (.found c.managers.length)
  | serve {number : Nat} (c : Client) :
      Step q c (.found number) { c with servants := c.servants ++ [c.servant number] }
        (.returned (.ok c.servants.length))

end Asker

/-! ## Scenes -/

/-- How far the shutdown has come. -/
inductive Closer where
  | begun
  /-- The client is marked, and the table is awaited. -/
  | marked
  /-- The table is held. -/
  | holding
  /-- The managers with these numbers are to be closed. -/
  | closing (numbers : List Nat)
  | done

/-- The managers that are still to be closed. -/
def Closer.left : Closer → List Nat
  | closing numbers => numbers
  | _ => []

/-- Whether the table has been emptied. -/
def Closer.isDrained : Closer → Bool
  | closing _ | done => true
  | _ => false

/-- A client with its askers, those that have returned as well, and with its shutdown. -/
structure Scene where
  client : Client
  askers : List Asker := []
  closer : Closer := .begun

/-- A step of an asker, of the shutdown, or of something else. -/
inductive Step : Scene → Scene → Prop
  /-- An asker comes. -/
  | ask {s : Scene} (text : String) (set : Option String) :
      Step s { s with askers := { text, set } :: s.askers }
  | go {c c' : Client} {q : Asker} {x : Stage} {closer : Closer} (before after : List Asker) :
      q.Step c q.stage c' x →
      Step ⟨c, before ++ q :: after, closer⟩ ⟨c', before ++ { q with stage := x } :: after, closer⟩
  /-- Nobody holds the table. -/
  | lock {c : Client} {q : Asker} {ref : Reference} {closer : Closer} (before after : List Asker) :
      q.stage = .waiting ref → (∀ x ∈ before ++ after, x.stage.holds = false) →
      closer ≠ .holding →
      Step ⟨c, before ++ q :: after, closer⟩
        ⟨c, before ++ { q with stage := .holding ref } :: after, closer⟩
  /-- A caller goes away while it awaits the table or the directory. -/
  | leave {c : Client} {q : Asker} {ref : Reference} {closer : Closer}
      (before after : List Asker) : q.stage = .waiting ref ∨ q.stage = .loading ref →
      Step ⟨c, before ++ q :: after, closer⟩ ⟨c, before ++ after, closer⟩
  | mark {c : Client} {askers : List Asker} : c.closed = false →
      Step ⟨c, askers, .begun⟩ ⟨{ c with closed := true }, askers, .marked⟩
  /-- The client has been shut down before. -/
  | skip {c : Client} {askers : List Asker} : c.closed = true →
      Step ⟨c, askers, .begun⟩ ⟨c, askers, .done⟩
  /-- Nobody holds the table. -/
  | hold {c : Client} {askers : List Asker} : (∀ x ∈ askers, x.stage.holds = false) →
      Step ⟨c, askers, .marked⟩ ⟨c, askers, .holding⟩
  /-- The managers come in any order. -/
  | drain {c : Client} {askers : List Asker} {numbers : List Nat} :
      numbers.Perm (c.table.map (·.2)) →
      Step ⟨c, askers, .holding⟩ ⟨{ c with table := [] }, askers, .closing numbers⟩
  | close {c : Client} {askers : List Asker} {number : Nat} {numbers : List Nat} (grace : Nat) :
      Step ⟨c, askers, .closing (number :: numbers)⟩
        ⟨{ c with managers := c.managers.modify number (·.close grace c.clock) }, askers,
          .closing numbers⟩
  | finish {c : Client} {askers : List Asker} : Step ⟨c, askers, .closing []⟩ ⟨c, askers, .done⟩
  | aside {c c' : Client} {askers : List Asker} {closer : Closer} : c.Aside c' →
      Step ⟨c, askers, closer⟩ ⟨c', askers, closer⟩

/-- A run through scenes of a kind. -/
def Run (P : Scene → Prop) : Scene → Scene → Prop :=
  ReflTransGen fun s s' => Step s s' ∧ P s'

/-! ## Operations on their own -/

section Alone

variable {P : Scene → Prop} {c : Client} {askers : List Asker} {closer : Closer}

/-- A call, or some time, comes in between. -/
theorem Step.of_keeps {α : Type} {x : StateM Client α} (hx : Client.Keeps x) :
    Step ⟨c, askers, closer⟩ ⟨(x c).2, askers, closer⟩ :=
  .aside (hx c)

/-- Where an asker is when it knows its manager, or knows that there is none. -/
def Stage.ofManager : Except RpcError Nat → Stage
  | .ok number => found number
  | .error e => returned (.error e)

variable (before after : List Asker) {q : Asker}

/-- When nothing comes in between, an asker finds its manager as `Client.manager` does. -/
theorem run_manager (hP : ∀ s, P s) (hbegun : q.stage = .begun)
    (hfree : ∀ x ∈ before ++ after, x.stage.holds = false) (hcloser : closer ≠ .holding) :
    Run P ⟨c, before ++ q :: after, closer⟩
      ⟨(Client.manager q.text q.set c).2,
        before ++ { q with stage := .ofManager (Client.manager q.text q.set c).1 } :: after,
        closer⟩ := by
  obtain ⟨text, set, stage⟩ := q
  cases hbegun
  rw [Client.manager, Client.bind_apply, Client.get_apply]
  dsimp only
  cases hclosed : c.closed with
  | true => exact .single ⟨.go (q := ⟨text, set, .begun⟩) before after (.refuse hclosed), hP _⟩
  | false =>
    rw [if_neg Bool.false_ne_true]
    cases hparse : Reference.parse text with
    | error e =>
      exact .single ⟨.go (q := ⟨text, set, .begun⟩) before after (.reject hclosed hparse), hP _⟩
    | ok ref =>
      have waiting : Run P ⟨c, before ++ ⟨text, set, .begun⟩ :: after, closer⟩ _ :=
        .single ⟨.go (q := ⟨text, set, .begun⟩) before after (.pass hclosed hparse), hP _⟩
      have holding := waiting.tail ⟨.lock before after rfl hfree hcloser, hP _⟩
      dsimp only
      cases hlookup : c.table.lookup (Client.tableKey text (set.filter (· ≠ ""))) with
      | some number => exact holding.tail ⟨.go before after (.find hlookup), hP _⟩
      | none =>
        have loading := holding.tail ⟨.go before after (.miss hlookup), hP _⟩
        dsimp only
        rw [Client.bind_apply, Client.draw_apply]
        dsimp only
        let asker : Asker := ⟨text, set, .loading ref⟩
        cases hload : asker.load ref c with
        | mk loaded sources =>
          rw [show Manager.load ref (set.filter (· ≠ "")) (c.managerConfig ref.name) c.sources
            c.draws c.clock = (loaded, sources) from hload]
          cases loaded with
          | error e => exact loading.tail ⟨.go (q := asker) before after (.fail hload), hP _⟩
          | ok m =>
            have loaded := loading.tail ⟨.go (q := asker) before after (.load hload), hP _⟩
            exact loaded.tail ⟨.go before after (.insert _), hP _⟩

/-- When nothing comes in between, the steps of an asker add up to `Client.proxyIn`. -/
theorem run_proxyIn (hP : ∀ s, P s) (hbegun : q.stage = .begun)
    (hfree : ∀ x ∈ before ++ after, x.stage.holds = false) (hcloser : closer ≠ .holding) :
    Run P ⟨c, before ++ q :: after, closer⟩
      ⟨(Client.proxyIn q.text q.set c).2,
        before ++ { q with stage := .returned (Client.proxyIn q.text q.set c).1 } :: after,
        closer⟩ := by
  have asked := run_manager before after (c := c) hP hbegun hfree hcloser
  rw [Client.proxyIn, Client.bind_apply]
  generalize Client.manager q.text q.set c = answer at asked ⊢
  obtain ⟨answer, c'⟩ := answer
  cases answer with
  | error e => exact asked
  | ok number => exact asked.tail ⟨.go before after (.serve c'), hP _⟩

/-- The managers with some numbers are closed. -/
def closeAll (grace now : Nat) (managers : List Manager) (numbers : List Nat) : List Manager :=
  numbers.foldl (fun managers number => managers.modify number (·.close grace now)) managers

theorem run_close (hP : ∀ s, P s) (numbers : List Nat) (grace : Nat) :
    Run P ⟨c, askers, .closing numbers⟩
      ⟨{ c with managers := closeAll grace c.clock c.managers numbers }, askers, .done⟩ := by
  induction numbers generalizing c with
  | nil => exact .single ⟨.finish, hP _⟩
  | cons number numbers ih => exact .head ⟨.close grace, hP _⟩ ih

theorem forIn_close (numbers : List Nat) (grace now : Nat) :
    (forIn numbers PUnit.unit fun number _ => do
      Client.modifyManager number (·.close grace now)
      pure (ForInStep.yield PUnit.unit) : StateM Client PUnit) c =
    ((), { c with managers := closeAll grace now c.managers numbers }) := by
  induction numbers generalizing c with
  | nil => rfl
  | cons number numbers ih =>
    rw [List.forIn_cons]
    exact ih

/-- When nothing comes in between, the steps of the shutdown, and the time that goes by, add up to
    `Client.shutdown`. -/
theorem run_shutdown (hP : ∀ s, P s) (hfree : ∀ x ∈ askers, x.stage.holds = false)
    (out : Outside) (grace : Duration) :
    Run P ⟨c, askers, .begun⟩ ⟨(Client.shutdown out grace c).2, askers, .done⟩ := by
  rw [Client.shutdown, Client.bind_apply, Client.get_apply]
  dsimp only
  cases hclosed : c.closed with
  | true => exact .single ⟨.skip hclosed, hP _⟩
  | false =>
    have marked : Run P ⟨c, askers, .begun⟩ _ := .single ⟨.mark hclosed, hP _⟩
    have holding := marked.tail ⟨.hold hfree, hP _⟩
    have closing := holding.tail ⟨.drain (.refl _), hP _⟩
    have done := closing.trans (run_close hP _ grace.millis)
    rw [Bool.not_false, if_pos rfl, Client.bind_apply, forIn_close]
    exact done.tail ⟨.of_keeps Client.keeps_settleAll, hP _⟩

end Alone

/-! ## What every step keeps -/

/-- The manager or servant that an asker has the number of is there. -/
def Stage.Known (c : Client) : Stage → Prop
  | found number => number < c.managers.length
  | returned (.ok number) => number < c.servants.length
  | _ => True

/-- All numbers are those of managers and servants. -/
structure Numbered (c : Client) (askers : List Asker) : Prop where
  table : ∀ number ∈ c.table.map (·.2), number < c.managers.length
  servants : ∀ number ∈ c.servants.map Servant.manager, number < c.managers.length
  askers : ∀ q ∈ askers, q.stage.Known c

/-- A manager that is open is in the table, or is still to be closed. -/
def Tabled (c : Client) (left : List Nat) : Prop :=
  ∀ number m, c.managers[number]? = some m → m.closed = false →
    number ∈ c.table.map (·.2) ∨ number ∈ left

/-- What is kept, whatever comes in between. -/
structure Kept (c : Client) (askers : List Asker) (closer : Closer) : Prop where
  isOpen : closer = .begun → c.closed = false
  isClosed : closer ≠ .begun → c.closed = true
  /-- The table is held by one task at most. -/
  alone : closer = .holding → ∀ q ∈ askers, q.stage.holds = false
  numbered : Numbered c askers
  tabled : Tabled c closer.left

/-- Once the table has been emptied, nothing comes into it. -/
def Calm (c : Client) (askers : List Asker) (closer : Closer) : Prop :=
  closer.isDrained = true →
    c.table = [] ∧ ∀ q ∈ askers, q.stage.isWaiting = false ∧ q.stage.holds = false

variable {c c' : Client} {q : Asker} {x x' : Stage} {askers askers' rest : List Asker}
  {left : List Nat} {closer : Closer}

theorem Stage.Known.mono (h : x.Known c) (hmanagers : c.managers.length ≤ c'.managers.length)
    (hservants : c.servants.length ≤ c'.servants.length) : x.Known c' := by
  match x with
  | found number => exact Nat.lt_of_lt_of_le h hmanagers
  | returned (.ok number) => exact Nat.lt_of_lt_of_le h hservants
  | returned (.error _) | begun | waiting _ | holding _ | loading _ | loaded _ => trivial

theorem Numbered.mono (h : Numbered c askers) (htable : c'.table = c.table)
    (hservants : c'.servants.map Servant.manager = c.servants.map Servant.manager)
    (hmanagers : c.managers.length ≤ c'.managers.length) : Numbered c' askers where
  table number hnumber := Nat.lt_of_lt_of_le (h.table number (htable ▸ hnumber)) hmanagers
  servants number hnumber :=
    Nat.lt_of_lt_of_le (h.servants number (hservants ▸ hnumber)) hmanagers
  askers q hq := by
    refine (h.askers q hq).mono hmanagers (Nat.le_of_eq ?_)
    rw [← List.length_map Servant.manager, ← hservants, List.length_map]

theorem Numbered.perm (h : Numbered c askers) (hperm : askers.Perm askers') :
    Numbered c askers' :=
  { h with askers := fun q hq => h.askers q (hperm.mem_iff.2 hq) }

namespace Asker.Step

theorem closed (h : q.Step c x c' x') : c'.closed = c.closed := by
  cases h <;> rfl

theorem holds (h : q.Step c x c' x') (hx : x.holds = false) : x'.holds = false := by
  cases h <;> first | rfl | exact nomatch hx

/-- An asker that has not begun before the client was marked makes no manager. -/
theorem calm (h : q.Step c x c' x') (hclosed : c.closed = true) (hwaiting : x.isWaiting = false)
    (hholds : x.holds = false) :
    c'.table = c.table ∧ x'.isWaiting = false ∧ x'.holds = false := by
  cases h with
  | pass hopen => exact nomatch hopen.symm.trans hclosed
  | refuse | reject | serve => exact ⟨rfl, rfl, rfl⟩
  | find | miss | load | fail | insert => exact nomatch hholds

theorem tabled (h : q.Step c x c' x') (ht : Tabled c left) : Tabled c' left := by
  cases h with
  | insert =>
    intro number m hm hopen
    dsimp only at hm ⊢
    rw [List.map_append, List.mem_append]
    rcases Nat.lt_or_ge number c.managers.length with hlt | hge
    · rw [List.getElem?_append_left hlt] at hm
      exact (ht number m hm hopen).imp_left .inl
    · -- It is the manager that has just come into the table.
      have hlast : number = c.managers.length := by
        have := (List.getElem?_eq_some_iff.1 hm).1
        rw [List.length_append, List.length_singleton] at this
        exact Nat.le_antisymm (Nat.lt_succ_iff.1 this) hge
      exact .inl (.inr (List.mem_singleton.2 hlast))
  | _ => exact ht

theorem numbered (h : q.Step c x c' x') (hn : Numbered c rest) (hx : x.Known c) :
    Numbered c' rest ∧ x'.Known c' := by
  cases h with
  | refuse | reject | pass | miss => exact ⟨hn, trivial⟩
  | find hlookup =>
    -- What is looked up is in the table.
    obtain ⟨before, after, htable, -⟩ := List.lookup_eq_some_iff.1 hlookup
    refine ⟨hn, hn.table _ (List.mem_map.2 ⟨(q.key, _), ?_, rfl⟩)⟩
    rw [htable]
    exact List.mem_append_cons_self
  | load | fail => exact ⟨hn.mono rfl rfl (Nat.le_refl _), trivial⟩
  | @insert m c =>
    have hlt : c.managers.length < (c.managers ++ [m]).length := by
      rw [List.length_append]
      exact Nat.lt_succ_self _
    have hmade : Numbered { c with managers := c.managers ++ [m] } rest :=
      hn.mono rfl rfl (Nat.le_of_lt hlt)
    refine ⟨{ hmade with table := ?_ }, hlt⟩
    rw [List.map_append]
    exact List.forall_mem_append.2 ⟨hmade.table, List.forall_mem_singleton.2 hlt⟩
  | @serve number c =>
    have hlt : c.servants.length < (c.servants ++ [c.servant number]).length := by
      rw [List.length_append]
      exact Nat.lt_succ_self _
    refine ⟨⟨hn.table, ?_, fun p hp => ?_⟩, hlt⟩
    · rw [List.map_append]
      exact List.forall_mem_append.2 ⟨hn.servants, List.forall_mem_singleton.2 hx⟩
    · exact (hn.askers p hp).mono (Nat.le_refl _) (Nat.le_of_lt hlt)

end Asker.Step

theorem Tabled.aside (h : Tabled c left) (haside : c.Aside c') : Tabled c' left := by
  intro number m' hm' hopen
  have hrel := haside.managers number
  rw [hm'] at hrel
  rw [haside.table]
  cases hm : c.managers[number]? with
  | none =>
    rw [hm] at hrel
    exact nomatch hrel
  | some m =>
    rw [hm] at hrel
    cases hrel with
    | some hclosed =>
      refine h number m hm (eq_false_of_ne_true fun hm => ?_)
      exact nomatch hopen.symm.trans (hclosed hm)

/-- One of the managers that are left is closed. -/
theorem Tabled.close {number : Nat} (h : Tabled c (number :: left)) (grace : Nat) :
    Tabled { c with managers := c.managers.modify number (·.close grace c.clock) } left := by
  intro n m hm hopen
  rw [List.getElem?_modify, Option.map_eq_map, Option.map_eq_some_iff] at hm
  obtain ⟨m, hm, rfl⟩ := hm
  split at hopen
  · -- That one is closed now.
    exact nomatch hopen
  · next hne =>
    refine (h n m hm hopen).imp_right fun hleft => ?_
    exact (List.mem_cons.1 hleft).resolve_left (Ne.symm hne)

namespace Kept

theorem perm (h : Kept c askers closer) (hperm : askers.Perm askers') :
    Kept c askers' closer where
  isOpen := h.isOpen
  isClosed := h.isClosed
  alone hcloser q hq := h.alone hcloser q (hperm.mem_iff.2 hq)
  numbered := h.numbered.perm hperm
  tabled := h.tabled

theorem cons (h : Kept c askers closer) (hholds : q.stage.holds = true → closer ≠ .holding)
    (hknown : q.stage.Known c) : Kept c (q :: askers) closer where
  isOpen := h.isOpen
  isClosed := h.isClosed
  alone hcloser := List.forall_mem_cons.2
    ⟨eq_false_of_ne_true fun hq => hholds hq hcloser, h.alone hcloser⟩
  numbered := { h.numbered with askers := List.forall_mem_cons.2 ⟨hknown, h.numbered.askers⟩ }
  tabled := h.tabled

theorem tail (h : Kept c (q :: rest) closer) : Kept c rest closer where
  isOpen := h.isOpen
  isClosed := h.isClosed
  alone hcloser := (List.forall_mem_cons.1 (h.alone hcloser)).2
  numbered := { h.numbered with askers := (List.forall_mem_cons.1 h.numbered.askers).2 }
  tabled := h.tabled

theorem go (h : Kept c (q :: rest) closer) (hgo : q.Step c q.stage c' x) :
    Kept c' ({ q with stage := x } :: rest) closer := by
  obtain ⟨hknown, -⟩ := List.forall_mem_cons.1 h.numbered.askers
  obtain ⟨hnumbered, hx⟩ := hgo.numbered h.tail.numbered hknown
  have hrest : Kept c' rest closer :=
    { isOpen := fun hcloser => hgo.closed.trans (h.isOpen hcloser)
      isClosed := fun hcloser => hgo.closed.trans (h.isClosed hcloser)
      alone := h.tail.alone
      numbered := hnumbered
      tabled := hgo.tabled h.tabled }
  refine hrest.cons (fun hholds hcloser => ?_) hx
  have hq := (List.forall_mem_cons.1 (h.alone hcloser)).1
  exact nomatch hholds.symm.trans (hgo.holds hq)

theorem aside (h : Kept c askers closer) (haside : c.Aside c') : Kept c' askers closer where
  isOpen hcloser := haside.closed.trans (h.isOpen hcloser)
  isClosed hcloser := haside.closed.trans (h.isClosed hcloser)
  alone := h.alone
  numbered := h.numbered.mono haside.table haside.servants
    (Nat.le_of_eq haside.length_managers.symm)
  tabled := h.tabled.aside haside

end Kept

variable {s s' : Scene}

theorem Kept.step (h : Kept s.client s.askers s.closer) (hstep : Step s s') :
    Kept s'.client s'.askers s'.closer := by
  cases hstep with
  | ask text set => exact h.cons nofun trivial
  | go before after hgo =>
    exact ((h.perm List.perm_middle).go hgo).perm List.perm_middle.symm
  | @lock c q ref closer before after hwaiting hfree hcloser =>
    exact ((h.perm List.perm_middle).tail.cons (q := { q with stage := .holding ref })
      (fun _ => hcloser) trivial).perm List.perm_middle.symm
  | leave before after => exact (h.perm List.perm_middle).tail
  | @mark c askers hopen =>
    exact { isOpen := nofun, isClosed := fun _ => rfl, alone := nofun, tabled := h.tabled
            numbered := h.numbered.mono rfl rfl (Nat.le_refl _) }
  | skip hclosed => exact nomatch (h.isOpen rfl).symm.trans hclosed
  | hold hfree =>
    exact { h with isOpen := nofun, isClosed := fun _ => h.isClosed nofun, alone := fun _ => hfree }
  | drain hperm =>
    refine ⟨nofun, fun _ => h.isClosed nofun, nofun, ?_, fun number m hm hopen => ?_⟩
    · exact { h.numbered with table := fun _ hnumber => absurd hnumber List.not_mem_nil }
    · -- What was in the table is to be closed.
      exact .inr (hperm.mem_iff.2 ((h.tabled number m hm hopen).resolve_right List.not_mem_nil))
  | close grace =>
    refine ⟨nofun, fun _ => h.isClosed nofun, nofun, ?_, h.tabled.close grace⟩
    exact h.numbered.mono rfl rfl (Nat.le_of_eq (List.length_modify ..).symm)
  | finish =>
    exact { h with isOpen := nofun, isClosed := fun _ => h.isClosed nofun, alone := nofun }
  | aside haside => exact h.aside haside

/-! ## Runs -/

/-- When the shutdown has the table, nobody else waits for it. -/
def Scene.InTime (s : Scene) : Prop :=
  s.closer = .holding → ∀ q ∈ s.askers, q.stage.isWaiting = false

variable {P : Scene → Prop} {config : Config} {sources : Sources}

theorem Calm.step (hc : Calm s.client s.askers s.closer)
    (hk : Kept s.client s.askers s.closer) (htime : s.InTime) (hstep : Step s s') :
    Calm s'.client s'.askers s'.closer := by
  intro hdrained
  cases hstep with
  | ask text set =>
    obtain ⟨htable, haskers⟩ := hc hdrained
    exact ⟨htable, List.forall_mem_cons.2 ⟨⟨rfl, rfl⟩, haskers⟩⟩
  | @go c c' q x closer before after hgo =>
    obtain ⟨htable, haskers⟩ := hc hdrained
    -- The client is marked, so nobody begins to wait for the table.
    have hclosed : c.closed = true := hk.isClosed (by rintro rfl; exact nomatch hdrained)
    obtain ⟨hbefore, hafter⟩ := List.forall_mem_append.1 haskers
    obtain ⟨hq, hafter⟩ := List.forall_mem_cons.1 hafter
    obtain ⟨hsame, hx⟩ := hgo.calm hclosed hq.1 hq.2
    exact ⟨hsame.trans htable, List.forall_mem_append.2
      ⟨hbefore, List.forall_mem_cons.2 ⟨hx, hafter⟩⟩⟩
  | lock before after hwaiting =>
    have hq := ((hc hdrained).2 _ List.mem_append_cons_self).1
    rw [hwaiting] at hq
    exact nomatch hq
  | leave before after =>
    obtain ⟨htable, haskers⟩ := hc hdrained
    exact ⟨htable, fun q hq => haskers q (List.mem_append.2
      ((List.mem_append.1 hq).imp_right (List.mem_cons_of_mem _)))⟩
  | mark | hold => exact nomatch hdrained
  | skip hclosed => exact nomatch (hk.isOpen rfl).symm.trans hclosed
  | drain => exact ⟨rfl, fun q hq => ⟨htime rfl q hq, hk.alone rfl q hq⟩⟩
  | close | finish => exact hc rfl
  | aside haside =>
    obtain ⟨htable, haskers⟩ := hc hdrained
    exact ⟨haside.table.trans htable, haskers⟩

theorem Kept.new : Kept { config, sources } [] .begun where
  isOpen _ := rfl
  isClosed h := absurd rfl h
  alone := nofun
  numbered := ⟨List.forall_mem_nil _, List.forall_mem_nil _, List.forall_mem_nil _⟩
  tabled _ _ h := nomatch h

theorem Run.kept (hrun : Run P ⟨{ config, sources }, [], .begun⟩ s) :
    Kept s.client s.askers s.closer := by
  induction hrun with
  | refl => exact .new
  | tail _ hstep ih => exact ih.step hstep.1

theorem Run.calm_inTime (hP : ∀ x, P x → x.InTime)
    (hrun : Run P ⟨{ config, sources }, [], .begun⟩ s) :
    Calm s.client s.askers s.closer ∧ s.InTime := by
  induction hrun with
  | refl => exact ⟨nofun, nofun⟩
  | tail hrun hstep ih => exact ⟨ih.1.step (Run.kept hrun) ih.2 hstep.1, hP _ hstep.2⟩

/-- What has become of the managers and the servants when the shutdown is done. -/
structure Covered (P : Scene → Prop) (s : Scene) : Prop where
  /-- All managers are closed but those that have come into the table after it was emptied. -/
  early : ∀ number m, s.client.managers[number]? = some m →
    number ∉ s.client.table.map (·.2) → m.closed = true
  /-- Calls of servants of the others fail, now and later. -/
  refuses : ∀ number servant, s.client.servants[number]? = some servant →
    servant.manager ∉ s.client.table.map (·.2) → ∀ c, s.client.Aside c → c.Refuses number
  /-- If everybody was in time, all managers that have ever been made are closed. -/
  closed : (∀ x, P x → x.InTime) → ∀ m ∈ s.client.managers, m.closed = true
  /-- Then calls of all servants fail. -/
  refused : (∀ x, P x → x.InTime) → ∀ q ∈ s.askers, ∀ number,
    q.stage = .returned (.ok number) → ∀ c, s.client.Aside c → c.Refuses number

theorem Kept.closed (h : Kept c askers .done) {number : Nat} {m : Manager}
    (hm : c.managers[number]? = some m) (hnumber : number ∉ c.table.map (·.2)) :
    m.closed = true :=
  eq_true_of_ne_false fun hopen => (h.tabled number m hm hopen).elim hnumber List.not_mem_nil

theorem Kept.isShut (h : Kept c askers .done) {number : Nat} {servant : Servant}
    (hservant : c.servants[number]? = some servant)
    (hmanager : servant.manager ∉ c.table.map (·.2)) : c.IsShut number := by
  have hlt : servant.manager < c.managers.length :=
    h.numbered.servants _ (List.mem_map.2 ⟨servant, List.mem_of_getElem? hservant, rfl⟩)
  have hm := List.getElem?_eq_getElem hlt
  exact ⟨servant, _, hservant, hm, h.closed hm hmanager⟩

/-- A shutdown closes all managers, and every call fails afterwards, as long as nobody waits for
    the table when it is emptied. -/
theorem Run.covered (hrun : Run P ⟨{ config, sources }, [], .begun⟩ s) (hdone : s.closer = .done) :
    Covered P s := by
  obtain ⟨c, askers, closer⟩ := s
  cases hdone
  have hk : Kept c askers .done := hrun.kept
  have hempty (hP : ∀ x, P x → x.InTime) (number : Nat) : number ∉ c.table.map (·.2) := by
    rw [((hrun.calm_inTime hP).1 rfl).1]
    exact List.not_mem_nil
  refine ⟨fun _ _ => hk.closed, ?_, fun hP m hm => ?_, fun hP q hq number hstage c' haside => ?_⟩
  · exact fun _ _ hservant hmanager _ haside =>
      ((hk.isShut hservant hmanager).aside haside).refuses
  · obtain ⟨number, hnumber⟩ := List.getElem?_of_mem hm
    exact hk.closed hnumber (hempty hP number)
  · have hknown := hk.numbered.askers q hq
    rw [hstage] at hknown
    exact ((hk.isShut (List.getElem?_eq_getElem hknown) (hempty hP _)).aside haside).refuses

/-- A reference with its endpoint. -/
def text : String := "echo@tcp -h a -p 1"

/-- The reference that it is. -/
def ref : Reference := ⟨"echo", some [{ host := "a", port := 1 }]⟩

theorem parse_text : Reference.parse text = .ok ref := by decide +kernel

/-- An asker that has come as far as a stage. -/
def asker (x : Stage) : Asker := ⟨text, none, x⟩

/-- A client that nobody has asked yet. -/
def fresh : Client := { config := {}, sources := {} }

/-- The manager that an asker makes. -/
def made : Manager :=
  ((Manager.empty ref none (fresh.managerConfig ref.name) 0 0).apply
    ⟨[{ host := "a", port := 1 }], []⟩ 0 0).2

/-- The client when the manager is in the table, and when the servant is there. -/
def tabled (closed : Bool) : Client :=
  { fresh with closed, draws := 1, managers := [made], table := [((asker .begun).key, 0)] }

def served (closed : Bool) : Client :=
  { tabled closed with servants := [(tabled closed).servant 0] }

/-- A step of the asker, when it is the only one. -/
theorem step_go {x x' : Stage} (h : (asker x).Step c x c' x') :
    Step ⟨c, [asker x], closer⟩ ⟨c', [asker x'], closer⟩ :=
  .go (q := asker x) [] [] h

theorem run_waiting (hP : ∀ x, P ⟨fresh, [asker x], .begun⟩) :
    Run P ⟨fresh, [], .begun⟩ ⟨fresh, [asker (.waiting ref)], .begun⟩ := by
  have begun : Run P ⟨fresh, [], .begun⟩ _ := .single ⟨.ask text none, hP .begun⟩
  exact begun.tail ⟨step_go (.pass rfl parse_text), hP _⟩

/-- The asker gets the table, finds no manager there, and makes one. -/
theorem run_served (closed : Bool) (hP : ∀ c x, P ⟨c, [asker x], closer⟩)
    (hcloser : closer ≠ .holding) :
    Run P ⟨{ fresh with closed }, [asker (.waiting ref)], closer⟩
      ⟨served closed, [asker (.returned (.ok 0))], closer⟩ := by
  have holding : Run P ⟨{ fresh with closed }, [asker (.waiting ref)], closer⟩ _ :=
    .single ⟨.lock (q := asker (.waiting ref)) [] [] rfl (List.forall_mem_nil _) hcloser,
      hP _ (.holding ref)⟩
  have loading := holding.tail ⟨step_go (.miss rfl), hP _ _⟩
  have loaded := loading.tail ⟨step_go (.load rfl), hP _ _⟩
  have found := loaded.tail ⟨step_go (.insert _), hP _ _⟩
  exact found.tail ⟨step_go (.serve _), hP _ _⟩

/-- A servant is asked for, and then the client is shut down. -/
theorem covered_served : ∃ s, Covered Scene.InTime s ∧
    (∃ q ∈ s.askers, q.stage = .returned (.ok 0)) ∧
    s.client.managers.map Manager.closed = [true] := by
  have waiting := run_waiting (P := Scene.InTime) fun _ => nofun
  have served := waiting.trans (run_served false (fun _ _ => nofun) nofun)
  have marked := served.tail ⟨.mark rfl, nofun⟩
  have holding := marked.tail
    ⟨.hold (List.forall_mem_singleton.2 rfl), fun _ => List.forall_mem_singleton.2 rfl⟩
  have closing := holding.tail ⟨.drain (.refl _), nofun⟩
  have closed := closing.tail ⟨.close 10, nofun⟩
  have done := closed.tail ⟨.finish, nofun⟩
  exact ⟨_, Run.covered done rfl, ⟨_, .head _, rfl⟩, rfl⟩

/-- Everything can be dialled. -/
def reachable : Outside where
  dial := Dialer.withoutTls fun _ _ => .ok ()

/-- An asker can be late: it has found the client open, and gets the table when it has been emptied.
    Its manager is left open, and its servant goes on calling. -/
theorem not_covered :
    (¬ ∀ s, Run (fun _ => True) ⟨fresh, [], .begun⟩ s → s.closer = .done →
      (∀ q ∈ s.askers, q.stage.isOver = true) → ∀ m ∈ s.client.managers, m.closed = true) ∧
    ¬ ∀ s, Run (fun _ => True) ⟨fresh, [], .begun⟩ s → s.closer = .done →
      (∀ q ∈ s.askers, q.stage.isOver = true) → ∀ q ∈ s.askers, ∀ number,
        q.stage = .returned (.ok number) → s.client.Refuses number := by
  have waiting := run_waiting (P := fun _ => True) fun _ => trivial
  have marked := waiting.tail ⟨.mark rfl, trivial⟩
  have holding := marked.tail ⟨.hold (List.forall_mem_singleton.2 rfl), trivial⟩
  have closing := holding.tail ⟨.drain (.refl _), trivial⟩
  have done := closing.tail ⟨.finish, trivial⟩
  have returned := done.trans (run_served true (fun _ _ => trivial) nofun)
  have hover : ∀ q ∈ [asker (.returned (.ok 0))], q.stage.isOver = true :=
    List.forall_mem_singleton.2 rfl
  refine ⟨fun hclosed => ?_, fun hrefuses => ?_⟩
  · exact absurd (hclosed _ returned rfl hover made (.head _)) (by decide +kernel)
  · have hrefused := (hrefuses _ returned rfl hover _ (.head _) 0 rfl).invokeOneway reachable "f"
      [] {} (by decide +kernel)
    have hsent : (Client.invokeOneway reachable {} 0 "f" [] {} (served true)).1 = .ok () := by
      decide +kernel
    exact nomatch hsent.symm.trans hrefused

end Shutdown

end TaggedRpc
