import TaggedRpc.Proofs.Calls.Settlement

/-!
# Handing over to a fresh connection

A directive swaps a fresh connection in, and the old one drains: it *polls* the count of the calls
on it until there are none, or until its time is up; then it is closed, and its socket is dropped.
Callers come, send step by step (`Sending.Step`), and end; every one of these steps can fall between
those of a drain (`Handover.Step`). No dial fails, and the adapter is open.

A call is *over* when its count has been given back: it has been answered, its time is up, or its
caller has gone away.

The count of a connection does not know the callers that have chosen it and have no ticket yet.
Whenever a drain that has done with polling finds nobody like that, and no call under way
(`Handover.Scene.InTime`), no send fails but for a full queue, and nobody waits for an answer from a
connection that is closed (`Handover.Run.handed`). Otherwise a send can fail because its connection
has been closed under it, or can put its request into a queue that nobody empties any more
(`Handover.not_handed`).
-/

namespace TaggedRpc

/-! ## What happens elsewhere -/

/-- A connection is neither closed nor counted on, and no frame comes to its queue. -/
structure Connection.Aside (c c' : Connection) : Prop where
  closed : c'.closed = c.closed
  calls : c'.calls = c.calls
  waiting : ∀ frame ∈ c'.outbound.waiting, frame ∈ c.outbound.waiting

theorem Connection.Aside.refl (c : Connection) : c.Aside c := ⟨rfl, rfl, fun _ h => h⟩

namespace Adapter

/-- What happens apart from callers and drains: sockets come and go, frames are written, and the
    table of slots and the outcomes of an endpoint change. -/
structure Aside (a a' : Adapter) : Prop where
  closed : a'.closed = a.closed
  current : a'.current = a.current
  connection : ∀ m, Option.Rel Connection.Aside (a.connection? m) (a'.connection? m)

variable {a a' : Adapter} {c c' : Connection} {number m : Nat} {f : Connection → Connection}

theorem Aside.callsOn (h : a.Aside a') (m : Nat) : a'.callsOn m = a.callsOn m := by
  have hm := h.connection m
  rw [Adapter.callsOn, Adapter.callsOn]
  generalize a.connection? m = old, a'.connection? m = new at hm ⊢
  cases hm with
  | none => rfl
  | some hc => exact hc.calls

theorem Aside.isSome_connection? (h : a.Aside a') (m : Nat) :
    (a'.connection? m).isSome = (a.connection? m).isSome := by
  have hm := h.connection m
  generalize a.connection? m = old, a'.connection? m = new at hm ⊢
  cases hm <;> rfl

theorem Aside.exists_connection? (h : a.Aside a') (hc : a'.connection? m = some c') :
    ∃ c, a.connection? m = some c ∧ c.Aside c' := by
  have hm := h.connection m
  rw [hc] at hm
  cases hold : a.connection? m with
  | none =>
    rw [hold] at hm
    exact nomatch hm
  | some c =>
    rw [hold] at hm
    cases hm with
    | some haside => exact ⟨c, rfl, haside⟩

theorem Aside.modifyConnection (a : Adapter) (number : Nat) (hf : ∀ c : Connection, c.Aside (f c)) :
    a.Aside (a.modifyConnection number f) where
  closed := closed_modifyConnection
  current := current_modifyConnection
  connection m := by
    by_cases hm : m = number
    · rw [hm, connection?_modifyConnection_self]
      cases a.connection? number with
      | none => exact .none
      | some c => exact .some (hf c)
    · rw [connection?_modifyConnection_of_ne hm]
      cases a.connection? m with
      | none => exact .none
      | some c => exact .some (.refl c)

/-- A connection that has been changed. -/
theorem eq_of_connection?_modifyConnection
    (h : (a.modifyConnection number f).connection? m = some c') :
    ∃ c, a.connection? m = some c ∧ c' = if m = number then f c else c := by
  by_cases hm : m = number
  · rw [hm, connection?_modifyConnection_self, Option.map_eq_some_iff] at h
    obtain ⟨c, hc, rfl⟩ := h
    exact ⟨c, hm ▸ hc, (if_pos hm).symm⟩
  · rw [connection?_modifyConnection_of_ne hm] at h
    exact ⟨c', h, (if_neg hm).symm⟩

/-- The connections after a swap are those before, and a fresh one. -/
theorem connection?_swap (a : Adapter) (now m : Nat) : (a.swap now).connection? m =
    if m = a.current + 1 then some (.new a.endpoint a.config.transport now)
    else a.connection? m := by
  rw [connection?_eq_getElem?, connection?_eq_getElem?, swap, current, List.getElem?_append]
  have hlength : (a.past ++ [a.connection]).length = a.past.length + 1 := List.length_append
  rcases Nat.lt_trichotomy m (a.past.length + 1) with h | rfl | h
  · rw [if_pos (hlength ▸ h), if_neg (Nat.ne_of_lt h)]
  · rw [if_neg (hlength ▸ Nat.lt_irrefl _), if_pos rfl, hlength, Nat.sub_self,
      List.getElem?_cons_zero]
  · rw [if_neg (hlength ▸ Nat.lt_asymm h), if_neg (Nat.ne_of_gt h), hlength,
      List.getElem?_eq_none (Nat.sub_pos_of_lt h),
      List.getElem?_eq_none (hlength ▸ Nat.le_of_lt h)]

theorem current_swap (a : Adapter) (now : Nat) : (a.swap now).current = a.current + 1 :=
  List.length_append

end Adapter

namespace Sending

variable {r : Request} {a a' : Adapter} {s s' : Sending} {m : Nat}

/-- A caller closes no connection, and the only frame that it puts into a queue is its request. -/
theorem Step.exists_connection? (hstep : Step r (a, s) (a', s')) {c' : Connection}
    (hc : a'.connection? m = some c') :
    ∃ c, a.connection? m = some c ∧ c'.closed = c.closed ∧
      ∀ frame ∈ c'.outbound.waiting,
        frame ∈ c.outbound.waiting ∨ s' = queued m ∧ frame = r.pack := by
  cases hstep with
  | publish | issue | giveUp =>
    obtain ⟨c, hold, rfl⟩ := Adapter.eq_of_connection?_modifyConnection hc
    exact ⟨c, hold, by split <;> rfl, fun frame h => .inl (by split at h <;> exact h)⟩
  | @enqueue _ number d d' hd henqueue =>
    obtain ⟨c, hold, rfl⟩ := Adapter.eq_of_connection?_modifyConnection hc
    refine ⟨c, hold, ?_⟩
    split
    · next hm =>
      subst hm
      cases hold.symm.trans hd
      rw [Connection.enqueue] at henqueue
      split at henqueue
      · -- There was room, and the request is the last in the queue now.
        next outbound houtbound =>
        rw [Outbound.enqueue?] at houtbound
        split at houtbound
        · cases houtbound
          cases henqueue
          refine ⟨rfl, fun frame h => ?_⟩
          simp only [Outbound.waiting, ← List.append_assoc, List.mem_append (t := [_]),
            List.mem_singleton] at h
          exact h.imp_right fun h => ⟨rfl, h⟩
        · cases houtbound
      · cases henqueue
    · exact ⟨rfl, fun frame h => .inl h⟩
  | _ => exact ⟨c', hc, rfl, fun frame h => .inl h⟩

/-- A dial fails. -/
inductive Misses (a : Adapter) : Sending → Sending → Prop
  | intro {number : Nat} {c : Connection} (e : RpcError) : a.connection? number = some c →
      c.closed = false → Misses a (dialling number) (failing e)

/-- The failure that a caller has met. -/
def error? : Sending → Option RpcError
  | refused e | failing e | failed e => some e
  | _ => none

theorem error?_of_result? {e : RpcError} (h : s.result? = some (.error e)) :
    s.error? = some e := by
  cases s <;> cases h <;> rfl

/-- A caller that has not returned has queued nothing. -/
theorem queued?_of_result? (h : s.result? = none) : s.queued? = none := by
  cases s <;> first | rfl | exact nomatch h

/-- A caller on an open adapter, whose connection is open, fails only if it finds no room. -/
theorem Step.error? (hstep : Step r (a, s) (a', s')) (hopen : a.closed = false)
    (hroute : ∀ number c, s.route? = some number → a.connection? number = some c →
      s.ticket? = none → c.closed = false)
    (hmiss : ¬ Misses a s s') {e : RpcError} (he : s'.error? = some e) :
    s.error? = some e ∨ ∃ address, e = .queueFull address := by
  cases hstep with
  | refuse hclosed => exact nomatch hclosed.symm.trans hopen
  | shut hc hclosed => exact nomatch hclosed.symm.trans (hroute _ _ rfl hc rfl)
  | reach hc =>
    rw [hroute _ _ rfl hc rfl] at he
    exact nomatch he
  | miss hc => exact absurd (.intro _ hc (hroute _ _ rfl hc rfl)) hmiss
  | giveUp => exact .inr ⟨_, (Option.some.inj he).symm⟩
  | fail => exact .inl he
  | _ => exact nomatch he

end Sending

namespace Handover

open Relation (ReflTransGen)

/-! ## Scenes -/

/-- A call whose request is sent on the adapter. -/
structure Caller where
  request : Request
  sending : Sending := .begun
  /-- The connection on which its count was given back, when it is over. -/
  gaveBack : Option Nat := none

/-- Whether a caller has a ticket on a connection, and is not over. -/
def Caller.countsOn (c : Caller) (number : Nat) : Bool :=
  decide (c.sending.ticket? = some number) && c.gaveBack.isNone

/-- How far a drain has come. -/
inductive Drain.Stage where
  | polling
  /-- There were no calls, or the time is up. -/
  | done
  /-- The connection is closed, and its socket is not dropped yet. -/
  | closed
  deriving DecidableEq

/-- A drain of the connection with a number. -/
structure Drain where
  number : Nat
  stage : Drain.Stage := .polling

/-- An adapter with its callers, those that are over as well, and with its drains. -/
structure Scene where
  adapter : Adapter
  callers : List Caller := []
  drains : List Drain := []

/-- A step of a caller, of a drain, or of something elsewhere. No dial fails. -/
inductive Step : Scene → Scene → Prop
  | start {s : Scene} {r : Request} : r.isOneway = false →
      Step s { s with callers := { request := r } :: s.callers }
  | send {a a' : Adapter} {c : Caller} {x : Sending} {drains : List Drain}
      (before after : List Caller) :
      Sending.Step c.request (a, c.sending) (a', x) → ¬ Sending.Misses a c.sending x →
      Step ⟨a, before ++ c :: after, drains⟩
        ⟨a', before ++ { c with sending := x } :: after, drains⟩
  /-- A count is given back, on some connection. -/
  | settle {a : Adapter} {c : Caller} {number : Nat} {drains : List Drain}
      (before after : List Caller) (m : Nat) : c.sending = .queued number → c.gaveBack = none →
      Step ⟨a, before ++ c :: after, drains⟩
        ⟨a.modifyConnection m Connection.finishCall,
          before ++ { c with gaveBack := some m } :: after, drains⟩
  /-- A caller goes away while it sends. -/
  | leave {a : Adapter} {c : Caller} {drains : List Drain} (before after : List Caller) :
      c.sending.result? = none →
      Step ⟨a, before ++ c :: after, drains⟩
        ⟨c.sending.ticket?.elim a fun number => a.modifyConnection number Connection.finishCall,
          before ++ after, drains⟩
  /-- A directive has come. -/
  | swap {s : Scene} (now : Nat) : s.adapter.closed = false →
      Step s { s with adapter := s.adapter.swap now
                      drains := { number := s.adapter.current } :: s.drains }
  | poll {a : Adapter} {callers : List Caller} {d : Drain} (before after : List Drain) :
      d.stage = .polling → a.callsOn d.number = 0 →
      Step ⟨a, callers, before ++ d :: after⟩
        ⟨a, callers, before ++ { d with stage := .done } :: after⟩
  /-- The time of a drain is up. -/
  | expire {a : Adapter} {callers : List Caller} {d : Drain} (before after : List Drain) :
      d.stage = .polling →
      Step ⟨a, callers, before ++ d :: after⟩
        ⟨a, callers, before ++ { d with stage := .done } :: after⟩
  | shut {a : Adapter} {callers : List Caller} {d : Drain} (before after : List Drain) :
      d.stage = .done →
      Step ⟨a, callers, before ++ d :: after⟩
        ⟨a.modifyConnection d.number Connection.refuse, callers,
          before ++ { d with stage := .closed } :: after⟩
  | drop {a : Adapter} {callers : List Caller} {d : Drain} (before after : List Drain) :
      d.stage = .closed →
      Step ⟨a, callers, before ++ d :: after⟩
        ⟨a.modifyConnection d.number Connection.disconnect, callers, before ++ after⟩
  | aside {s : Scene} {a : Adapter} : s.adapter.Aside a → Step s { s with adapter := a }

/-- A run through scenes of a kind. -/
def Run (P : Scene → Prop) : Scene → Scene → Prop :=
  ReflTransGen fun s s' => Step s s' ∧ P s'

/-! ## Operations on their own -/

section Alone

variable {P : Scene → Prop} {a : Adapter} {callers : List Caller} {d : Drain}

theorem aside_disconnect (c : Connection) : c.Aside c.disconnect := ⟨rfl, rfl, fun _ h => h⟩

/-- When nothing comes in between, the end of a drain shuts its connection down. -/
theorem run_shutdown (before after : List Drain) (hP : ∀ s, P s) (hstage : d.stage = .polling) :
    Run P ⟨a, callers, before ++ d :: after⟩
      ⟨a.modifyConnection d.number Connection.shutdown, callers, before ++ after⟩ := by
  have done : Run P ⟨a, callers, before ++ d :: after⟩ _ := .single ⟨.expire _ _ hstage, hP _⟩
  have closed := done.tail ⟨.shut _ _ rfl, hP _⟩
  have dropped := closed.tail ⟨.drop _ _ rfl, hP _⟩
  rwa [Adapter.modifyConnection_modifyConnection] at dropped

/-- When nothing comes in between, a directive and its drain add up to
    `Adapter.replaceConnection`. -/
theorem exists_run_replaceConnection (hP : ∀ s, P s) {s : Scene}
    (hopen : s.adapter.closed = false) (now : Nat) :
    ∃ drains, Run P s ⟨s.adapter.replaceConnection now, s.callers, drains⟩ := by
  obtain ⟨a, callers, drains⟩ := s
  let deadline := now + a.config.reconnectGrace
  have swapped : Run P ⟨a, callers, drains⟩ _ := .single ⟨.swap now hopen, hP _⟩
  have drained := swapped.tail ⟨.aside (.modifyConnection _ a.current
    (f := ({ · with deadline := some deadline })) fun c => ⟨rfl, rfl, fun _ h => h⟩), hP _⟩
  rw [Adapter.replaceConnection, if_neg (ne_true_of_eq_false hopen), Connection.drain,
    Connection.poll]
  have hmodify (f : Connection → Connection) : (a.swap now).modifyConnection a.current f =
      { a with past := a.past ++ [f a.connection]
               connection := .new a.endpoint a.config.transport now } := by
    have hne : a.current ≠ (a.swap now).current := by
      rw [a.current_swap]
      exact Nat.ne_of_lt (Nat.lt_succ_self _)
    rw [Adapter.modifyConnection, if_neg hne, Adapter.swap, Adapter.current]
    simp [List.modify_eq_take_cons_drop]
  dsimp only
  split
  · -- The first look at the count ends the drain.
    have hshut := drained.trans (run_shutdown [] _ hP rfl)
    rw [Adapter.modifyConnection_modifyConnection, hmodify] at hshut
    exact ⟨_, hshut⟩
  · rw [hmodify] at drained
    exact ⟨_, drained⟩

end Alone

/-! ## What every step keeps -/

/-- What is kept, whatever comes in between. -/
structure Kept (a : Adapter) (callers : List Caller) (drains : List Drain) : Prop where
  isOpen : a.closed = false
  route : ∀ c ∈ callers, ∀ number, c.sending.route? = some number →
    (a.connection? number).isSome
  queued : ∀ c ∈ callers, c.gaveBack.isSome → c.sending.queued?.isSome
  drains : ∀ d ∈ drains, d.number < a.current
  closed : ∀ m c, a.connection? m = some c → c.closed = true → m < a.current
  frames : ∀ m c, a.connection? m = some c → ∀ frame ∈ c.outbound.waiting,
    ∃ d ∈ callers, d.sending = .queued m ∧ d.request.pack = frame

/-- What is kept as long as every drain is in time. -/
structure Orderly (a : Adapter) (callers : List Caller) : Prop where
  calls : ∀ m, a.callsOn m = callers.countP (·.countsOn m)
  closed : ∀ m c, a.connection? m = some c → c.closed = true →
    ∀ d ∈ callers, d.sending.route? = some m → d.gaveBack = some m
  failed : ∀ c ∈ callers, ∀ e, c.sending.error? = some e → ∃ address, e = .queueFull address

variable {a a' : Adapter} {c : Caller} {x : Sending} {callers callers' rest : List Caller}
  {drains drains' : List Drain} {number : Nat}

namespace Kept

theorem perm (hk : Kept a callers drains) (h : callers.Perm callers') :
    Kept a callers' drains where
  isOpen := hk.isOpen
  route c hc := hk.route c (h.mem_iff.2 hc)
  queued c hc := hk.queued c (h.mem_iff.2 hc)
  drains := hk.drains
  closed := hk.closed
  frames m c hc frame hframe :=
    (hk.frames m c hc frame hframe).imp fun _ hd => ⟨h.mem_iff.1 hd.1, hd.2⟩

theorem of_drains (hk : Kept a callers drains) (h : ∀ d ∈ drains', d.number < a.current) :
    Kept a callers drains' :=
  { hk with drains := h }

/-- A caller that still takes steps is not over. -/
theorem gaveBack_eq_none (hk : Kept a (c :: rest) drains) (h : c.sending.queued? = none) :
    c.gaveBack = none := by
  refine Option.not_isSome_iff_eq_none.1 fun hsome => ?_
  have hqueued := hk.queued c (.head _) hsome
  rw [h] at hqueued
  exact nomatch hqueued

/-- What waits in a queue belongs to another caller. -/
theorem frames_rest (hk : Kept a (c :: rest) drains) (h : c.sending.queued? = none) {m : Nat}
    {d : Connection} (hd : a.connection? m = some d) (frame : Bytes)
    (hframe : frame ∈ d.outbound.waiting) :
    ∃ e ∈ rest, e.sending = .queued m ∧ e.request.pack = frame := by
  obtain ⟨e, he, hqueued, hpack⟩ := hk.frames m d hd frame hframe
  rcases List.mem_cons.1 he with rfl | he
  · rw [hqueued] at h
    exact nomatch h
  · exact ⟨e, he, hqueued, hpack⟩

theorem aside (hk : Kept a callers drains) (h : a.Aside a') : Kept a' callers drains where
  isOpen := h.closed.trans hk.isOpen
  route c hc number hnumber := by
    rw [h.isSome_connection?]
    exact hk.route c hc number hnumber
  queued := hk.queued
  drains := h.current ▸ hk.drains
  closed m c' hc' hclosed := by
    obtain ⟨c, hc, haside⟩ := h.exists_connection? hc'
    rw [h.current]
    exact hk.closed m c hc (haside.closed ▸ hclosed)
  frames m c' hc' frame hframe := by
    obtain ⟨c, hc, haside⟩ := h.exists_connection? hc'
    exact hk.frames m c hc frame (haside.waiting frame hframe)

/-- A connection changes. It is closed only if it drains. -/
theorem modify (hk : Kept a callers drains) {f : Connection → Connection}
    (hclosed : ∀ c, (f c).closed = true → c.closed = true ∨ number < a.current)
    (hwaiting : ∀ c, (f c).outbound = c.outbound) :
    Kept (a.modifyConnection number f) callers drains where
  isOpen := Adapter.closed_modifyConnection.trans hk.isOpen
  route c hc m hm := by
    rw [Adapter.isSome_connection?_modifyConnection]
    exact hk.route c hc m hm
  queued := hk.queued
  drains := Adapter.current_modifyConnection.symm ▸ hk.drains
  closed m c' hc' hc'closed := by
    obtain ⟨c, hc, rfl⟩ := Adapter.eq_of_connection?_modifyConnection hc'
    rw [Adapter.current_modifyConnection]
    split at hc'closed
    · next hm => exact (hclosed c hc'closed).elim (hk.closed m c hc) fun h => hm ▸ h
    · exact hk.closed m c hc hc'closed
  frames m c' hc' frame hframe := by
    obtain ⟨c, hc, rfl⟩ := Adapter.eq_of_connection?_modifyConnection hc'
    refine hk.frames m c hc frame ?_
    split at hframe
    · rwa [hwaiting] at hframe
    · exact hframe

theorem start (hk : Kept a callers drains) (r : Request) :
    Kept a ({ request := r } :: callers) drains where
  isOpen := hk.isOpen
  route := List.forall_mem_cons.2 ⟨nofun, hk.route⟩
  queued := List.forall_mem_cons.2 ⟨nofun, hk.queued⟩
  drains := hk.drains
  closed := hk.closed
  frames m c hc frame hframe :=
    (hk.frames m c hc frame hframe).imp fun _ hd => ⟨.tail _ hd.1, hd.2⟩

theorem send (hk : Kept a (c :: rest) drains)
    (hstep : Sending.Step c.request (a, c.sending) (a', x)) :
    Kept a' ({ c with sending := x } :: rest) drains where
  isOpen := hstep.closed_current.1.trans hk.isOpen
  route := by
    refine List.forall_mem_cons.2 ⟨fun number hnumber => ?_, fun d hd number hnumber => ?_⟩
    · rw [hstep.isSome_connection?]
      obtain hold | rfl := hstep.route? hnumber
      · exact hk.route c (.head _) number hold
      · rw [a.connection?_current]
        rfl
    · rw [hstep.isSome_connection?]
      exact hk.route d (.tail _ hd) number hnumber
  queued := by
    refine List.forall_mem_cons.2 ⟨fun h => ?_, fun d hd => hk.queued d (.tail _ hd)⟩
    rw [hk.gaveBack_eq_none hstep.queued?] at h
    exact nomatch h
  drains := hstep.closed_current.2 ▸ hk.drains
  closed m d' hd' hclosed := by
    obtain ⟨d, hd, heq, -⟩ := hstep.exists_connection? hd'
    rw [hstep.closed_current.2]
    exact hk.closed m d hd (heq ▸ hclosed)
  frames m d' hd' frame hframe := by
    obtain ⟨d, hd, -, hwaiting⟩ := hstep.exists_connection? hd'
    rcases hwaiting frame hframe with hold | ⟨hqueued, rfl⟩
    · -- This caller has queued nothing before.
      exact (hk.frames_rest hstep.queued? hd frame hold).imp fun _ he => ⟨.tail _ he.1, he.2⟩
    · exact ⟨_, .head _, hqueued, rfl⟩

theorem settle (hk : Kept a (c :: rest) drains) (hqueued : c.sending = .queued number) (m : Nat) :
    Kept (a.modifyConnection m Connection.finishCall) ({ c with gaveBack := some m } :: rest)
      drains := by
  refine modify (f := Connection.finishCall) ?_ (fun _ h => .inl h) fun _ => rfl
  refine ⟨hk.isOpen, List.forall_mem_cons.2 (List.forall_mem_cons.1 hk.route), ?_, hk.drains,
    hk.closed, fun n d hd frame hframe => ?_⟩
  · refine List.forall_mem_cons.2 ⟨fun _ => ?_, fun d hd => hk.queued d (.tail _ hd)⟩
    show c.sending.queued?.isSome
    rw [hqueued]
    rfl
  · obtain ⟨e, he, hboth⟩ := hk.frames n d hd frame hframe
    rcases List.mem_cons.1 he with rfl | he
    · exact ⟨_, .head _, hboth⟩
    · exact ⟨e, .tail _ he, hboth⟩

theorem leave (hk : Kept a (c :: rest) drains) (hresult : c.sending.result? = none) :
    Kept (c.sending.ticket?.elim a fun number => a.modifyConnection number Connection.finishCall)
      rest drains := by
  have hqueued := Sending.queued?_of_result? hresult
  have hrest : Kept a rest drains :=
    ⟨hk.isOpen, (List.forall_mem_cons.1 hk.route).2, (List.forall_mem_cons.1 hk.queued).2,
      hk.drains, hk.closed, fun _ _ hd => hk.frames_rest hqueued hd⟩
  cases c.sending.ticket? with
  | none => exact hrest
  | some number => exact hrest.modify (fun _ h => .inl h) fun _ => rfl

theorem swap (hk : Kept a callers drains) (now : Nat) :
    Kept (a.swap now) callers ({ number := a.current } :: drains) where
  isOpen := hk.isOpen
  route c hc number hnumber :=
    (a.apart_swap hk.isOpen now).connection number (hk.route c hc number hnumber)
  queued := hk.queued
  drains := by
    rw [a.current_swap]
    exact List.forall_mem_cons.2
      ⟨Nat.lt_succ_self _, fun d hd => Nat.lt_succ_of_lt (hk.drains d hd)⟩
  closed m c hc hclosed := by
    rw [a.connection?_swap] at hc
    rw [a.current_swap]
    split at hc
    · cases hc
      exact nomatch hclosed
    · exact Nat.lt_succ_of_lt (hk.closed m c hc hclosed)
  frames m c hc frame hframe := by
    rw [a.connection?_swap] at hc
    split at hc
    · cases hc
      exact nomatch hframe
    · exact hk.frames m c hc frame hframe

end Kept

namespace Orderly

theorem perm (ho : Orderly a callers) (h : callers.Perm callers') : Orderly a callers' where
  calls m := (ho.calls m).trans (h.countP_eq _)
  closed m c hc hclosed d hd := ho.closed m c hc hclosed d (h.mem_iff.2 hd)
  failed c hc := ho.failed c (h.mem_iff.2 hc)

theorem aside (ho : Orderly a callers) (h : a.Aside a') : Orderly a' callers where
  calls m := (h.callsOn m).trans (ho.calls m)
  closed m c' hc' hclosed := by
    obtain ⟨c, hc, haside⟩ := h.exists_connection? hc'
    exact ho.closed m c hc (haside.closed ▸ hclosed)
  failed := ho.failed

theorem start (ho : Orderly a callers) (r : Request) :
    Orderly a ({ request := r } :: callers) where
  calls m := by
    rw [List.countP_cons_of_neg (by simp [Caller.countsOn, Sending.ticket?])]
    exact ho.calls m
  closed m c hc hclosed := List.forall_mem_cons.2 ⟨nofun, ho.closed m c hc hclosed⟩
  failed := List.forall_mem_cons.2 ⟨nofun, ho.failed⟩

/-- The counts, when one of the callers is set apart. -/
theorem callsOn_cons (ho : Orderly a (c :: rest)) (h : c.gaveBack = none) (m : Nat) :
    a.callsOn m = rest.countP (·.countsOn m) + if c.sending.ticket? = some m then 1 else 0 := by
  rw [ho.calls, List.countP_cons, Caller.countsOn, h]
  simp

theorem send (ho : Orderly a (c :: rest)) (hk : Kept a (c :: rest) drains)
    (hstep : Sending.Step c.request (a, c.sending) (a', x))
    (hmiss : ¬ Sending.Misses a c.sending x) : Orderly a' ({ c with sending := x } :: rest) where
  calls m := by
    have hnone := hk.gaveBack_eq_none hstep.queued?
    rw [hstep.callsOn (hk.route c (.head _)) (ho.callsOn_cons hnone), List.countP_cons,
      Caller.countsOn, hnone]
    simp
  closed m d' hd' hclosed := by
    obtain ⟨d, hd, heq, -⟩ := hstep.exists_connection? hd'
    rw [heq] at hclosed
    refine List.forall_mem_cons.2
      ⟨fun hroute => ?_, fun e he => ho.closed m d hd hclosed e (.tail _ he)⟩
    obtain hold | rfl := hstep.route? hroute
    · exact ho.closed m d hd hclosed c (.head _) hold
    · -- Only connections that drain are closed, and the current one does not.
      exact absurd (hk.closed _ d hd hclosed) (Nat.lt_irrefl _)
  failed := by
    refine List.forall_mem_cons.2 ⟨fun e he => ?_, fun d hd => ho.failed d (.tail _ hd)⟩
    refine (hstep.error? hk.isOpen (fun number d hroute hd _ => ?_) hmiss he).elim
      (ho.failed c (.head _) e) id
    refine eq_false_of_ne_true fun hclosed => ?_
    -- Then the caller would be over.
    have hsome := ho.closed number d hd hclosed c (.head _) hroute
    rw [hk.gaveBack_eq_none hstep.queued?] at hsome
    exact nomatch hsome

theorem settle (ho : Orderly a (c :: rest)) (hqueued : c.sending = .queued number)
    (hnone : c.gaveBack = none) :
    Orderly (a.modifyConnection number Connection.finishCall)
      ({ c with gaveBack := some number } :: rest) where
  calls m := by
    have hcalls := ho.callsOn_cons hnone
    simp only [hqueued, Sending.ticket?, Option.some.injEq] at hcalls
    rw [Adapter.callsOn_giveBack (f := Connection.finishCall) (fun _ => rfl) hcalls,
      List.countP_cons_of_neg (by simp [Caller.countsOn])]
  closed m d' hd' hclosed := by
    obtain ⟨d, hd, rfl⟩ := Adapter.eq_of_connection?_modifyConnection hd'
    have hold : d.closed = true := by split at hclosed <;> exact hclosed
    refine List.forall_mem_cons.2
      ⟨fun hroute => ?_, fun e he => ho.closed m d hd hold e (.tail _ he)⟩
    rw [hqueued] at hroute
    exact hroute
  failed := List.forall_mem_cons.2
    ⟨ho.failed c (.head _), fun d hd => ho.failed d (.tail _ hd)⟩

theorem leave (ho : Orderly a (c :: rest)) (hk : Kept a (c :: rest) drains)
    (hresult : c.sending.result? = none) :
    Orderly (c.sending.ticket?.elim a fun number => a.modifyConnection number Connection.finishCall)
      rest := by
  have hqueued := Sending.queued?_of_result? hresult
  have hcalls := ho.callsOn_cons (hk.gaveBack_eq_none hqueued)
  have hrest : ∀ m c, a.connection? m = some c → c.closed = true → ∀ d ∈ rest,
      d.sending.route? = some m → d.gaveBack = some m :=
    fun m d hd hclosed e he => ho.closed m d hd hclosed e (.tail _ he)
  cases hticket : c.sending.ticket? with
  | none =>
    simp only [hticket, reduceCtorEq, if_false, Nat.add_zero] at hcalls
    exact ⟨hcalls, hrest, fun d hd => ho.failed d (.tail _ hd)⟩
  | some number =>
    simp only [hticket, Option.some.injEq] at hcalls
    refine ⟨Adapter.callsOn_giveBack (fun _ => rfl) hcalls, fun m d' hd' hclosed => ?_,
      fun d hd => ho.failed d (.tail _ hd)⟩
    obtain ⟨d, hd, rfl⟩ := Adapter.eq_of_connection?_modifyConnection hd'
    exact hrest m d hd (by split at hclosed <;> exact hclosed)

theorem swap (ho : Orderly a callers) (hopen : a.closed = false) (now : Nat) :
    Orderly (a.swap now) callers where
  calls m := ((a.apart_swap hopen now).calls m).trans (ho.calls m)
  closed m c hc hclosed := by
    rw [a.connection?_swap] at hc
    split at hc
    · cases hc
      exact nomatch hclosed
    · exact ho.closed m c hc hclosed
  failed := ho.failed

/-- A connection is closed on which there is no call, and which nobody is about to count on. -/
theorem shut (ho : Orderly a callers)
    (hown : ∀ c ∈ callers, ∀ m, c.gaveBack = some m → c.sending = .queued m)
    (hcalls : a.callsOn number = 0)
    (hticket : ∀ c ∈ callers, c.sending.route? = some number → c.sending.ticket? = some number) :
    Orderly (a.modifyConnection number Connection.refuse) callers where
  calls m :=
    (Adapter.callsOn_modifyConnection_of_calls (fun _ _ => by rfl) m).trans (ho.calls m)
  closed m d' hd' hclosed e he hroute := by
    obtain ⟨d, hd, rfl⟩ := Adapter.eq_of_connection?_modifyConnection hd'
    split at hclosed
    · -- Whoever has chosen the connection has a ticket there, and counts no more.
      next hm =>
      subst hm
      have hcount := List.countP_eq_zero.1 ((ho.calls m).symm.trans hcalls) e he
      rw [Caller.countsOn, hticket e he hroute, decide_eq_true rfl, Bool.true_and,
        Option.isNone_iff_eq_none] at hcount
      obtain ⟨n, hn⟩ := Option.ne_none_iff_exists'.1 hcount
      rw [hown e he n hn] at hroute
      exact hn.trans hroute
    · exact ho.closed m d hd hclosed e he hroute
  failed := ho.failed

end Orderly

/-! ## Runs -/

/-- A drain that is done with polling finds no call under way, and nobody who has chosen its
    connection and has no ticket. Every count is given back where it was taken. -/
structure Scene.InTime (s : Scene) : Prop where
  drained : ∀ d ∈ s.drains, d.stage = .done → s.adapter.callsOn d.number = 0 ∧
    ∀ c ∈ s.callers, c.sending.route? = some d.number → c.sending.ticket? = some d.number
  own : ∀ c ∈ s.callers, ∀ number, c.gaveBack = some number → c.sending = .queued number

/-- No call is over before its request has been written. -/
def Scene.Written (s : Scene) : Prop :=
  ∀ c ∈ s.callers, ∀ number, c.gaveBack = some number →
    ∀ connection, s.adapter.connection? number = some connection →
      c.request.pack ∉ connection.outbound.waiting

variable {P : Scene → Prop} {s s' : Scene} {endpoint : Endpoint} {config : AdapterConfig}
  {now : Nat}

theorem Kept.step (hk : Kept s.adapter s.callers s.drains) (hstep : Step s s') :
    Kept s'.adapter s'.callers s'.drains := by
  cases hstep with
  | start => exact hk.start _
  | send _ _ hsend => exact ((hk.perm List.perm_middle).send hsend).perm List.perm_middle.symm
  | settle _ _ m hqueued =>
    exact ((hk.perm List.perm_middle).settle hqueued m).perm List.perm_middle.symm
  | leave _ _ hresult => exact (hk.perm List.perm_middle).leave hresult
  | swap now => exact hk.swap now
  | @poll a callers d before after | @expire a callers d before after =>
    have hdrains := List.forall_mem_append.1 hk.drains
    exact hk.of_drains (List.forall_mem_append.2
      ⟨hdrains.1, List.forall_mem_cons.2 (List.forall_mem_cons.1 hdrains.2)⟩)
  | @shut a callers d before after =>
    have hdrains := List.forall_mem_append.1 hk.drains
    have hnumber := List.forall_mem_cons.1 hdrains.2
    have hclosed : Kept a callers (before ++ { d with stage := .closed } :: after) :=
      hk.of_drains (List.forall_mem_append.2 ⟨hdrains.1, List.forall_mem_cons.2 hnumber⟩)
    exact hclosed.modify (fun _ _ => .inr hnumber.1) fun _ => rfl
  | @drop a callers d before after =>
    have hdrains := List.forall_mem_append.1 hk.drains
    have hdropped : Kept a callers (before ++ after) :=
      hk.of_drains (List.forall_mem_append.2 ⟨hdrains.1, (List.forall_mem_cons.1 hdrains.2).2⟩)
    exact hdropped.aside (.modifyConnection _ _ aside_disconnect)
  | aside h => exact hk.aside h

theorem Orderly.step (ho : Orderly s.adapter s.callers) (hk : Kept s.adapter s.callers s.drains)
    (htime : s.InTime) (htime' : s'.InTime) (hstep : Step s s') :
    Orderly s'.adapter s'.callers := by
  cases hstep with
  | start => exact ho.start _
  | send _ _ hsend hmiss =>
    exact ((ho.perm List.perm_middle).send (hk.perm List.perm_middle) hsend hmiss).perm
      List.perm_middle.symm
  | settle before after m hqueued hnone =>
    -- The count is given back where it was taken.
    have hm := htime'.own _ (List.mem_append_right _ (.head _)) m rfl
    cases hqueued.symm.trans hm
    exact ((ho.perm List.perm_middle).settle hqueued hnone).perm List.perm_middle.symm
  | leave _ _ hresult =>
    exact (ho.perm List.perm_middle).leave (hk.perm List.perm_middle) hresult
  | swap now hopen => exact ho.swap hopen now
  | poll | expire => exact ho
  | shut _ _ hstage =>
    obtain ⟨hcalls, hticket⟩ := htime.drained _ (List.mem_append_right _ (.head _)) hstage
    exact ho.shut htime.own hcalls hticket
  | drop => exact ho.aside (.modifyConnection _ _ aside_disconnect)
  | aside h => exact ho.aside h

/-- A connection that has not dialled is open, and nothing waits for it. -/
theorem connection?_new {m : Nat} {c : Connection}
    (h : (Adapter.new endpoint config now).connection? m = some c) :
    c.closed = false ∧ c.outbound.waiting = [] := by
  rw [Adapter.connection?_eq_getElem?] at h
  cases List.mem_singleton.1 (List.mem_of_getElem? h)
  exact ⟨rfl, rfl⟩

theorem Kept.new : Kept (.new endpoint config now) [] [] where
  isOpen := rfl
  route _ h := absurd h List.not_mem_nil
  queued _ h := absurd h List.not_mem_nil
  drains _ h := absurd h List.not_mem_nil
  closed _ _ hc hclosed := nomatch (connection?_new hc).1.symm.trans hclosed
  frames _ _ hc _ hframe := absurd ((connection?_new hc).2 ▸ hframe) List.not_mem_nil

theorem Orderly.new : Orderly (.new endpoint config now) [] where
  calls := Adapter.callsOn_new endpoint config now
  closed _ _ hc hclosed := nomatch (connection?_new hc).1.symm.trans hclosed
  failed _ h := absurd h List.not_mem_nil

theorem Run.kept (hrun : Run P ⟨.new endpoint config now, [], []⟩ s) :
    Kept s.adapter s.callers s.drains := by
  induction hrun with
  | refl => exact .new
  | tail _ hstep ih => exact ih.step hstep.1

theorem Run.orderly_inTime (hP : ∀ x, P x → x.InTime)
    (hrun : Run P ⟨.new endpoint config now, [], []⟩ s) :
    Orderly s.adapter s.callers ∧ s.InTime := by
  induction hrun with
  | refl =>
    exact ⟨.new, fun _ h => absurd h List.not_mem_nil, fun _ h => absurd h List.not_mem_nil⟩
  | tail hrun hstep ih =>
    have htime := hP _ hstep.2
    exact ⟨ih.1.step (Run.kept hrun) ih.2 htime hstep.1, htime⟩

/-- What callers find at one moment of a run. -/
structure Handed (P : Scene → Prop) (s : Scene) : Prop where
  /-- Only connections that have been replaced are closed. -/
  replaced : ∀ m c, s.adapter.connection? m = some c → c.closed = true → m < s.adapter.current
  /-- If every drain is in time, no send fails because of its connection. -/
  sent : (∀ x, P x → x.InTime) → ∀ c ∈ s.callers, ∀ text,
    c.sending.result? ≠ some (.error (.connection text))
  /-- Then every call that has chosen a connection which is closed now is over. -/
  ended : (∀ x, P x → x.InTime) → ∀ m c, s.adapter.connection? m = some c → c.closed = true →
    ∀ d ∈ s.callers, d.sending.route? = some m → d.gaveBack = some m
  /-- So what has not been written there are requests of calls that are over. -/
  waiting : (∀ x, P x → x.InTime) → ∀ m c, s.adapter.connection? m = some c → c.closed = true →
    ∀ frame ∈ c.outbound.waiting, ∃ d ∈ s.callers, d.request.pack = frame ∧ d.gaveBack = some m
  /-- If moreover no call is over before its request has been written, everything is written. -/
  written : (∀ x, P x → x.InTime ∧ x.Written) → ∀ m c, s.adapter.connection? m = some c →
    c.closed = true → c.outbound.waiting = []

/-- What waits on a closed connection is there for nobody. -/
theorem Orderly.waiting (ho : Orderly a callers) (hk : Kept a callers drains) {m : Nat}
    {c : Connection} (hc : a.connection? m = some c) (hclosed : c.closed = true) (frame : Bytes)
    (hframe : frame ∈ c.outbound.waiting) :
    ∃ d ∈ callers, d.request.pack = frame ∧ d.gaveBack = some m := by
  obtain ⟨d, hd, hqueued, hpack⟩ := hk.frames m c hc frame hframe
  exact ⟨d, hd, hpack, ho.closed m c hc hclosed d hd (by rw [hqueued]; rfl)⟩

theorem Run.written (hP : ∀ x, P x → x.Written)
    (hrun : Run P ⟨.new endpoint config now, [], []⟩ s) : s.Written := by
  cases hrun with
  | refl => exact fun _ h => absurd h List.not_mem_nil
  | tail _ hstep => exact hP _ hstep.2

/-- A directive fails no call, as long as nobody comes between the end of the polling and the
    closing of a connection. -/
theorem Run.handed (hrun : Run P ⟨.new endpoint config now, [], []⟩ s) : Handed P s where
  replaced := hrun.kept.closed
  sent hP c hc text htext := by
    obtain ⟨address, haddress⟩ := (hrun.orderly_inTime hP).1.failed c hc _
      (Sending.error?_of_result? htext)
    exact nomatch haddress
  ended hP := (hrun.orderly_inTime hP).1.closed
  waiting hP _ _ hc hclosed := (hrun.orderly_inTime hP).1.waiting hrun.kept hc hclosed
  written hP m c hc hclosed := by
    refine List.eq_nil_iff_forall_not_mem.2 fun frame hframe => ?_
    obtain ⟨d, hd, rfl, hover⟩ := (hrun.orderly_inTime fun x hx => (hP x hx).1).1.waiting
      hrun.kept hc hclosed frame hframe
    exact hrun.written (fun x hx => (hP x hx).2) d hd m hover c hc hframe

/-- A call to be answered. -/
def request : Request := { (default : Request) with requestId := 7 }

/-- An adapter that has not dialled yet. -/
def fresh : Adapter := .new default { object := "" } 0

/-- The adapter when a call has been counted, and when its connection has a live socket. -/
def counted : Adapter := { fresh with health := fresh.health.onSend }

variable {ds : List Drain}

/-- A step of the call, when it is the only one. -/
theorem step_send {x x' : Sending} (hstep : Sending.Step request (a, x) (a', x'))
    (hmiss : ¬ Sending.Misses a x x') :
    Step ⟨a, [{ request, sending := x }], ds⟩ ⟨a', [{ request, sending := x' }], ds⟩ :=
  .send (c := { request, sending := x }) [] [] hstep hmiss

theorem run_routed (hP : ∀ a x, P ⟨a, [{ request, sending := x }], []⟩) :
    Run P ⟨fresh, [], []⟩ ⟨counted, [{ request, sending := .routed 0 }], []⟩ := by
  have begun : Run P ⟨fresh, [], []⟩ ⟨fresh, [{ request }], []⟩ := .single ⟨.start rfl, hP _ _⟩
  have entered := begun.tail ⟨step_send (.enter rfl) nofun, hP _ _⟩
  have counted := entered.tail ⟨step_send (.count _) nofun, hP _ _⟩
  exact counted.tail ⟨step_send (.route _) nofun, hP _ _⟩

/-- The adapter when the socket is there. -/
def connected : Adapter := counted.modifyConnection 0 (·.publish 0)

theorem run_connected (hP : ∀ a x, P ⟨a, [{ request, sending := x }], []⟩) :
    Run P ⟨fresh, [], []⟩ ⟨connected, [{ request, sending := .connected 0 }], []⟩ := by
  have checked := (run_routed hP).tail ⟨step_send (.check rfl rfl) nofun, hP _ _⟩
  have dialling := checked.tail ⟨step_send (.dial rfl rfl) nofun, hP _ _⟩
  have dialled := dialling.tail ⟨step_send (.reach (d := fun _ _ => .ok ()) rfl rfl) nofun, hP _ _⟩
  exact dialled.tail ⟨step_send (.publish _ _ 0) nofun, hP _ _⟩

/-- A scene in which the call is not over, and no drain is done with polling. -/
theorem inTime_written_of_polling {x : Sending} (h : ∀ d ∈ ds, d.stage = .polling) :
    Scene.InTime ⟨a, [{ request, sending := x }], ds⟩ ∧
      Scene.Written ⟨a, [{ request, sending := x }], ds⟩ := by
  refine ⟨⟨fun d hd hdone => ?_, ?_⟩, ?_⟩
  · exact nomatch (h d hd).symm.trans hdone
  · exact List.forall_mem_singleton.2 nofun
  · exact List.forall_mem_singleton.2 nofun

/-- A scene in which the call is over, and its request has been written. -/
theorem inTime_written_of_over (hds : ∀ d ∈ ds, d.number = 0) (hcalls : a.callsOn 0 = 0)
    (hwaiting : ∀ c, a.connection? 0 = some c → c.outbound.waiting = []) :
    Scene.InTime ⟨a, [{ request, sending := .queued 0, gaveBack := some 0 }], ds⟩ ∧
      Scene.Written ⟨a, [{ request, sending := .queued 0, gaveBack := some 0 }], ds⟩ := by
  refine ⟨⟨fun d hd _ => ?_, ?_⟩, ?_⟩
  · rw [hds d hd]
    exact ⟨hcalls, List.forall_mem_singleton.2 fun _ => rfl⟩
  · refine List.forall_mem_singleton.2 ?_
    rintro _ ⟨⟩
    rfl
  · refine List.forall_mem_singleton.2 ?_
    rintro _ ⟨⟩ c hc
    rw [hwaiting c hc]
    exact List.not_mem_nil

/-- Everything on a connection is written. -/
def flush (c : Connection) : Connection :=
  { c with outbound := { c.outbound with hand := none, parked := none, queue := [] } }

/-- A call is queued, a directive comes, and then the answer. The old connection is closed with
    nothing in its queue. -/
theorem handed_answered : ∃ s, Handed (fun x => x.InTime ∧ x.Written) s ∧ s.adapter.current = 1 ∧
    (∃ c ∈ s.callers, c.sending = .queued 0 ∧ c.gaveBack = some 0) ∧
    ∃ c, s.adapter.connection? 0 = some c ∧ c.closed = true ∧ c.outbound.waiting = [] := by
  have connected := run_connected (P := fun x => x.InTime ∧ x.Written) fun _ _ =>
    inTime_written_of_polling fun _ h => absurd h List.not_mem_nil
  have enqueuing := connected.tail ⟨step_send (.issue _ 0) nofun,
    inTime_written_of_polling fun _ h => absurd h List.not_mem_nil⟩
  have queued := enqueuing.tail ⟨step_send (.enqueue rfl rfl) nofun,
    inTime_written_of_polling fun _ h => absurd h List.not_mem_nil⟩
  have swapped := queued.tail ⟨.swap 0 rfl,
    inTime_written_of_polling (List.forall_mem_singleton.2 rfl)⟩
  have written := swapped.tail ⟨.aside (.modifyConnection _ 0 (f := flush)
    fun c => ⟨rfl, rfl, fun _ h => absurd h List.not_mem_nil⟩),
    inTime_written_of_polling (List.forall_mem_singleton.2 rfl)⟩
  have answered := written.tail ⟨.settle [] [] 0 rfl rfl,
    inTime_written_of_over (List.forall_mem_singleton.2 rfl) rfl (by rintro _ ⟨⟩; rfl)⟩
  have done := answered.tail ⟨.poll [] [] rfl rfl,
    inTime_written_of_over (List.forall_mem_singleton.2 rfl) rfl (by rintro _ ⟨⟩; rfl)⟩
  have closed := done.tail ⟨.shut [] [] rfl,
    inTime_written_of_over (List.forall_mem_singleton.2 rfl) rfl (by rintro _ ⟨⟩; rfl)⟩
  have dropped := closed.tail ⟨.drop [] [] rfl,
    inTime_written_of_over (fun _ h => absurd h List.not_mem_nil) rfl (by rintro _ ⟨⟩; rfl)⟩
  exact ⟨_, Run.handed dropped, rfl, ⟨_, .head _, rfl, rfl⟩, _, rfl, rfl, rfl⟩

/-- A directive can fail a call: its connection is closed between the moment when the call chooses
    it and the moment when it is counted there. The send fails, or the request is never written. -/
theorem not_handed :
    (¬ ∀ s, Run (fun _ => True) ⟨fresh, [], []⟩ s → ∀ c ∈ s.callers, ∀ text,
      c.sending.result? ≠ some (.error (.connection text))) ∧
    ¬ ∀ s, Run (fun _ => True) ⟨fresh, [], []⟩ s → ∀ m c,
      s.adapter.connection? m = some c → c.closed = true → c.outbound.queue = [] := by
  refine ⟨fun hsent => ?_, fun hqueue => ?_⟩
  · have routed := run_routed (P := fun _ => True) fun _ _ => trivial
    have swapped := routed.tail ⟨.swap 0 rfl, trivial⟩
    have done := swapped.tail ⟨.poll [] [] rfl rfl, trivial⟩
    have closed := done.tail ⟨.shut [] [] rfl, trivial⟩
    have failing := closed.tail ⟨step_send (.shut rfl rfl) nofun, trivial⟩
    have failed := failing.tail ⟨step_send (.fail _ _) nofun, trivial⟩
    exact hsent _ failed _ (.head _) _ rfl
  · have connected := run_connected (P := fun _ => True) fun _ _ => trivial
    have swapped := connected.tail ⟨.swap 0 rfl, trivial⟩
    have done := swapped.tail ⟨.poll [] [] rfl rfl, trivial⟩
    have closed := done.tail ⟨.shut [] [] rfl, trivial⟩
    have dropped := closed.tail ⟨.drop [] [] rfl, trivial⟩
    have enqueuing := dropped.tail ⟨step_send (.issue _ 0) nofun, trivial⟩
    have queued := enqueuing.tail ⟨step_send (.enqueue rfl rfl) nofun, trivial⟩
    exact nomatch hqueue _ queued 0 _ rfl rfl

end Handover

end TaggedRpc
