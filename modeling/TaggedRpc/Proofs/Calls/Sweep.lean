import Mathlib.Data.List.Nodup
import TaggedRpc.Client.Basic
import TaggedRpc.Proofs.Calls.Interleaving

/-!
# Closing an adapter among its calls

Any number of calls, blocking ones and ones for callbacks, share an adapter. Each registers its
slot, sees whether the adapter is open, sends, and waits, and each takes its slot out when it fails,
when its time is up or when its caller goes away.

A *closer* marks the adapter as closed and shuts its connection down, at once or when the connection
has drained. Then it *sweeps*: it lists the ids that are in use, and takes out the slot under each
of them. The table has parts, and is listed one part after another, so a slot that comes late is not
listed, and neither is one that comes to a part which has been listed.

Every one of these steps can fall between any others (`Sweep.Step`). A call that has found the
adapter open has registered its slot before the closer marked the adapter, and so before it lists
the ids: once a closer is *done*, only calls that have not looked yet or are refused have slots, and
they take them out themselves. A call whose slot a closer has taken out returns that the client is
shut down, provided that no other call under way has its id (`Sweep.Run.swept`). Otherwise its timer
can take out the slot of that other call, and it returns that its time is up (`Sweep.not_swept`).

When nothing comes in between, the steps of a closer add up to `Adapter.close`
(`Sweep.exists_run_close`).
-/

namespace TaggedRpc

theorem Pending.eq_empty_of_waiter? {p : Pending} (h : ∀ id, p.waiter? id = none) : p = {} := by
  obtain ⟨slots⟩ := p
  cases slots with
  | nil => rfl
  | cons s slots =>
    have hs := h s.1
    rw [waiter?, List.lookup_cons_self] at hs
    exact absurd hs (Option.some_ne_none _)

theorem Pending.mem_ids_of_waiter? {p : Pending} {id : Int32} (h : (p.waiter? id).isSome) :
    id ∈ p.ids := by
  rw [waiter?, List.lookup_isSome_iff] at h
  obtain ⟨s, hs, heq⟩ := h
  exact List.mem_map.2 ⟨s, hs, (beq_iff_eq.1 heq).symm⟩

theorem Adapter.cancel_eq (a : Adapter) (id : Int32) :
    a.cancel id = (a.pending.waiter? id, { a with pending := a.pending.erase id }) := by
  rw [cancel, Pending.cancel_eq]

namespace Sweep

open Relation (ReflTransGen)

/-! ## Calls -/

/-- How far a call has come. -/
inductive Phase where
  | sending
  /-- Its request is queued, and its timer runs. -/
  | waiting
  /-- The timer was late, and the caller waits for what has come before. -/
  | awaiting
  /-- It is known what has become of it. -/
  | returned (o : Outcome)
  /-- The caller has gone away, or the timer of a callback has found nothing. -/
  | gone

/-- Whether a call is over. -/
def Phase.isOver : Phase → Bool
  | returned _ | gone => true
  | _ => false

/-- Whether the request of a call is queued, and the call has not ended. -/
def Phase.isWaiting : Phase → Bool
  | waiting | awaiting => true
  | _ => false

/-- Who has taken out the slot of a call. -/
inductive Fate where
  | answered (r : Response)
  | timedOut
  /-- The guard of a call that has failed, or whose caller has gone away. -/
  | undone
  /-- A closer. -/
  | swept
  /-- Another call with the same id. -/
  | replaced

/-- What a suspended caller finds in its box. -/
def Fate.box : Fate → Box
  | answered r => .answered r
  | _ => .closed

/-- A call, known by its waiter. -/
structure Call where
  request : Request
  waiter : Waiter
  phase : Phase := .sending
  sending : Sending := .begun
  fate : Option Fate := none
  box : Box := .waiting

namespace Call

/-- The id of its request. -/
def id (c : Call) : Int32 := c.request.requestId

/-- Whether its caller is suspended until the call ends. -/
def isBlocking (c : Call) : Bool := c.waiter.callback?.isNone

/-- Whether it has not found the adapter open. -/
def isEarly (c : Call) : Prop :=
  c.phase = .sending ∧ (c.sending = .begun ∨ ∃ e, c.sending = .refused e)

/-- The call when a slot has been taken out. -/
def mark (w : Option Waiter) (fate : Fate) (c : Call) : Call :=
  if w = some c.waiter then { c with fate := some fate } else c

/-- A step that leaves the slots alone. -/
inductive Step : Adapter → Call → Adapter → Call → Prop
  | send {a a' : Adapter} {c : Call} {x : Sending} : c.phase = .sending →
      Sending.Step c.request (a, c.sending) (a', x) → Step a c a' { c with sending := x }
  | wait {a : Adapter} {c : Call} {number : Nat} : c.phase = .sending →
      c.sending = .queued number → Step a c a { c with phase := .waiting }
  /-- The waiter has been taken out of its slot, and learns of it. -/
  | handOver {a : Adapter} {c : Call} {fate : Fate} : c.isBlocking → c.fate = some fate →
      Step a c a { c with box := fate.box }
  | answer {a : Adapter} {c : Call} {r : Response} : c.phase.isWaiting → c.box = .answered r →
      Step a c a { c with phase := .returned (.ok r) }
  | lose {a : Adapter} {c : Call} : c.phase.isWaiting → c.box = .closed →
      Step a c a { c with phase := .returned (.error .shutdown) }
  | late {a : Adapter} {c : Call} : c.phase = .waiting → a.pending.waiter? c.id = none →
      Step a c a { c with phase := if c.isBlocking then .awaiting else .gone }

/-- A step that takes out the slot under the id of the call. -/
inductive Ends (a : Adapter) (c : Call) : Fate → Call → Prop
  | fail {e : RpcError} : c.phase = .sending → c.sending.result? = some (.error e) →
      Ends a c .undone { c with phase := .returned (.error e) }
  | expire {w : Waiter} (elapsed : Duration) : c.phase = .waiting →
      a.pending.waiter? c.id = some w →
      Ends a c .timedOut { c with phase := .returned (.error (.timeout c.id elapsed)) }
  /-- The caller goes away while it sends. -/
  | withdraw : c.phase = .sending → c.sending.result? = none →
      Ends a c .undone { c with phase := .gone }
  /-- The caller goes away while it waits. -/
  | abandon : c.isBlocking → c.phase.isWaiting → Ends a c .undone { c with phase := .gone }

end Call

/-! ## Closers -/

/-- How far a closer has come. -/
inductive Closer where
  | begun
  /-- The adapter is closed. -/
  | marked
  /-- The connection with a number is to be shut down, perhaps when it has drained. -/
  | holding (number : Nat)
  /-- The connection is closed. -/
  | shut (number : Nat)
  /-- As many parts of the table have been listed, with these ids. -/
  | listing (listed : Nat) (ids : List Int32)
  /-- The slots under these ids are to be taken out. -/
  | sweeping (ids : List Int32)
  | done

namespace Closer

/-- Whether the adapter has been marked. -/
def isMarked : Closer → Bool
  | begun => false
  | _ => true

/-- Whether a closer would still take out a slot that is under an id now. -/
def Covers {parts : Nat} (part : Int32 → Fin parts) (id : Int32) : Closer → Prop
  | listing listed ids => part id < listed → id ∈ ids
  | sweeping ids => id ∈ ids
  | done => False
  | _ => True

/-- A step that leaves the slots alone. -/
inductive Step {parts : Nat} (part : Int32 → Fin parts) :
    Adapter → Closer → Adapter → Closer → Prop
  | mark (a : Adapter) : Step part a begun { a with closed := true } marked
  | hold (a : Adapter) : Step part a marked a (holding a.current)
  | shut (a : Adapter) (number : Nat) :
      Step part a (holding number) (a.modifyConnection number Connection.refuse) (shut number)
  | drop (a : Adapter) (number : Nat) :
      Step part a (shut number) (a.modifyConnection number Connection.disconnect) (listing 0 [])
  | list (a : Adapter) (listed : Nat) (ids : List Int32) : listed < parts →
      Step part a (listing listed ids) a
        (listing (listed + 1) (ids ++ a.pending.ids.filter fun id => (part id : Nat) = listed))
  | sweep (a : Adapter) (ids : List Int32) : Step part a (listing parts ids) a (sweeping ids)
  | finish (a : Adapter) : Step part a (sweeping []) a done

end Closer

/-! ## Scenes -/

/-- An adapter with its calls and its closers. -/
structure Scene where
  adapter : Adapter
  calls : List Call := []
  closers : List Closer := []

namespace Scene

/-- Takes out the slot under an id. -/
def take (s : Scene) (id : Int32) (fate : Fate) : Scene :=
  { s with adapter := (s.adapter.cancel id).2
           calls := s.calls.map (.mark (s.adapter.cancel id).1 fate) }

/-- While the call with a waiter is under way, no other call that is under way has its id. -/
def Alone (s : Scene) (w : Waiter) : Prop :=
  ∀ c ∈ s.calls, c.waiter = w → c.phase.isOver = false →
    ∀ d ∈ s.calls, d.phase.isOver = false → d.id = c.id → d.waiter = w

end Scene

/-- A step of a call, of a closer, or of something else. Calls have different waiters; ids may be
    used again. -/
inductive Step {parts : Nat} (part : Int32 → Fin parts) : Scene → Scene → Prop
  | start {s : Scene} {r : Request} {w : Waiter} : r.isOneway = false →
      (∀ c ∈ s.calls, c.waiter ≠ w) →
      Step part s { s with
        adapter := s.adapter.register r.requestId w
        calls := { request := r, waiter := w } ::
          s.calls.map (.mark (s.adapter.pending.waiter? r.requestId) .replaced) }
  | go {a a' : Adapter} {c c' : Call} {closers : List Closer} (before after : List Call) :
      Call.Step a c a' c' →
      Step part ⟨a, before ++ c :: after, closers⟩ ⟨a', before ++ c' :: after, closers⟩
  | quit {a : Adapter} {c c' : Call} {fate : Fate} {closers : List Closer}
      (before after : List Call) : Call.Ends a c fate c' →
      Step part ⟨a, before ++ c :: after, closers⟩
        (Scene.take ⟨a, before ++ c' :: after, closers⟩ c.id fate)
  | answer {s : Scene} {w : Waiter} {r : Response} (now : Nat) :
      (s.adapter.onResponse r now).1 = .answered w r →
      Step part s (s.take r.requestId (.answered r))
  /-- A closer comes. -/
  | join (s : Scene) : Step part s { s with closers := .begun :: s.closers }
  | close {a a' : Adapter} {calls : List Call} {k k' : Closer} (before after : List Closer) :
      Closer.Step part a k a' k' →
      Step part ⟨a, calls, before ++ k :: after⟩ ⟨a', calls, before ++ k' :: after⟩
  | cancel {a : Adapter} {calls : List Call} {id : Int32} {ids : List Int32}
      (before after : List Closer) :
      Step part ⟨a, calls, before ++ .sweeping (id :: ids) :: after⟩
        (Scene.take ⟨a, calls, before ++ .sweeping ids :: after⟩ id .swept)
  /-- Sockets come and go, frames are written, connections are replaced, and outcomes counted. -/
  | elsewhere {s : Scene} {a : Adapter} : a.pending = s.adapter.pending →
      a.closed = s.adapter.closed → Step part s { s with adapter := a }

/-- A run through scenes of a kind. -/
def Run {parts : Nat} (part : Int32 → Fin parts) (P : Scene → Prop) : Scene → Scene → Prop :=
  ReflTransGen fun s s' => Step part s s' ∧ P s'

/-! ## Closing on its own -/

section Alone

variable {parts : Nat} {part : Int32 → Fin parts} {P : Scene → Prop} (before after : List Closer)

/-- The table is listed one part after another, until every id is listed. -/
theorem exists_run_list (hP : ∀ s, P s) (a : Adapter) (calls : List Call) (listed : Nat)
    (h : listed ≤ parts) :
    ∃ ids, Run part P ⟨a, calls, before ++ .listing 0 [] :: after⟩
        ⟨a, calls, before ++ .listing listed ids :: after⟩ ∧
      ∀ id ∈ a.pending.ids, part id < listed → id ∈ ids := by
  induction listed with
  | zero => exact ⟨[], .refl, fun _ _ hpart => absurd hpart (Nat.not_lt_zero _)⟩
  | succ listed ih =>
    obtain ⟨ids, hrun, hids⟩ := ih (Nat.le_of_succ_le h)
    refine ⟨_, hrun.tail ⟨.close _ _ (.list a listed ids h), hP _⟩, fun id hid hpart => ?_⟩
    rcases Nat.lt_succ_iff_lt_or_eq.1 hpart with hlt | heq
    · exact List.mem_append_left _ (hids id hid hlt)
    · exact List.mem_append_right _ (List.mem_filter.2 ⟨hid, decide_eq_true heq⟩)

/-- Slots are taken out under one id after another. -/
theorem exists_run_cancel (hP : ∀ s, P s) (ids : List Int32) (a : Adapter) (calls : List Call) :
    ∃ calls', Run part P ⟨a, calls, before ++ .sweeping ids :: after⟩
      ⟨{ a with pending := ids.foldl Pending.erase a.pending }, calls',
        before ++ .sweeping [] :: after⟩ := by
  induction ids generalizing a calls with
  | nil => exact ⟨calls, .refl⟩
  | cons id ids ih =>
    have hcancel : Step part ⟨a, calls, before ++ .sweeping (id :: ids) :: after⟩ _ :=
      .cancel before after
    rw [Scene.take, Adapter.cancel_eq] at hcancel
    obtain ⟨calls', hrun⟩ := ih { a with pending := a.pending.erase id }
      (calls.map (.mark (a.pending.waiter? id) .swept))
    exact ⟨calls', .head ⟨hcancel, hP _⟩ hrun⟩

/-- When nothing comes in between, the steps of a closer add up to `Adapter.close`. -/
theorem exists_run_close (hP : ∀ s, P s) (a : Adapter) (calls : List Call) :
    ∃ calls', Run part P ⟨a, calls, before ++ .begun :: after⟩
      ⟨a.close.2, calls', before ++ .done :: after⟩ := by
  have marked : Run part P ⟨a, calls, before ++ .begun :: after⟩ _ :=
    .single ⟨.close _ _ (.mark a), hP _⟩
  have held := marked.tail ⟨.close _ _ (.hold _), hP _⟩
  have shut := held.tail ⟨.close _ _ (.shut _ _), hP _⟩
  have dropped := shut.tail ⟨.close _ _ (.drop _ _), hP _⟩
  rw [Adapter.modifyConnection_modifyConnection, Adapter.modifyConnection_current] at dropped
  obtain ⟨ids, listed, hids⟩ := exists_run_list before after hP _ calls parts (Nat.le_refl _)
  have sweeping := (dropped.trans listed).tail ⟨.close _ _ (.sweep _ ids), hP _⟩
  obtain ⟨calls', swept⟩ := exists_run_cancel before after hP ids _ calls
  have done := (sweeping.trans swept).tail ⟨.close _ _ (.finish _), hP _⟩
  refine ⟨calls', ?_⟩
  have hempty : ids.foldl Pending.erase a.pending = ⟨[]⟩ := by
    refine congrArg Pending.mk ((a.pending.slots_foldl_erase ids).trans
      (List.filter_eq_nil_iff.2 fun s hs => ?_))
    have hid : s.1 ∈ ids := hids s.1 (List.mem_map_of_mem hs) (part s.1).isLt
    simpa using hid
  rw [hempty] at done
  exact done

end Alone

/-! ## Slots -/

namespace Call

variable {a a' : Adapter} {c c' : Call} {fate : Fate} {w : Option Waiter} {x : Sending}

@[simp] theorem id_mark : (c.mark w fate).id = c.id := by
  rw [mark]
  split <;> rfl

@[simp] theorem waiter_mark : (c.mark w fate).waiter = c.waiter := by
  rw [mark]
  split <;> rfl

@[simp] theorem phase_mark : (c.mark w fate).phase = c.phase := by
  rw [mark]
  split <;> rfl

@[simp] theorem sending_mark : (c.mark w fate).sending = c.sending := by
  rw [mark]
  split <;> rfl

@[simp] theorem box_mark : (c.mark w fate).box = c.box := by
  rw [mark]
  split <;> rfl

@[simp] theorem isEarly_mark : (c.mark w fate).isEarly ↔ c.isEarly := by
  simp [isEarly]

theorem fate_mark_of_ne (h : w ≠ some c.waiter) : (c.mark w fate).fate = c.fate := by
  rw [mark, if_neg h]

theorem fate_mark_self : (c.mark (some c.waiter) fate).fate = some fate := by
  rw [mark, if_pos rfl]

/-- A step of a call is seen in the call alone. -/
theorem Step.same (hstep : Step a c a' c') :
    c'.id = c.id ∧ c'.waiter = c.waiter ∧ c'.fate = c.fate ∧ a'.pending = a.pending ∧
      a'.closed = a.closed := by
  cases hstep with
  | send _ hsend => exact ⟨rfl, rfl, rfl, hsend.pending, hsend.closed_current.1⟩
  | _ => exact ⟨rfl, rfl, rfl, rfl, rfl⟩

theorem Ends.same (hends : Ends a c fate c') :
    c'.id = c.id ∧ c'.waiter = c.waiter ∧ c'.fate = c.fate ∧ c'.box = c.box := by
  cases hends <;> exact ⟨rfl, rfl, rfl, rfl⟩

/-- When the adapter is closed, a call that has not found it open never does. -/
theorem Step.isEarly (hstep : Step a c a' c') (hclosed : a.closed = true) (h : c.isEarly) :
    c'.isEarly := by
  obtain ⟨hphase, hsending⟩ := h
  cases hstep with
  | send _ hsend =>
    refine ⟨hphase, ?_⟩
    obtain hbegun | ⟨e, hrefused⟩ := hsending
    · rw [hbegun] at hsend
      cases hsend with
      | refuse => exact .inr ⟨_, rfl⟩
      | enter hopen => exact nomatch hopen.symm.trans hclosed
      | share _ _ hs => rcases hs with hs | hs <;> exact nomatch hs
    · rw [hrefused] at hsend
      cases hsend with
      | share _ _ hs => rcases hs with hs | hs <;> exact nomatch hs
  | wait _ hqueued =>
    obtain hbegun | ⟨e, hrefused⟩ := hsending
    · exact nomatch hbegun.symm.trans hqueued
    · exact nomatch hrefused.symm.trans hqueued
  | handOver => exact ⟨hphase, hsending⟩
  | answer hwaiting | lose hwaiting =>
    rw [hphase] at hwaiting
    exact nomatch hwaiting
  | late hwaiting => exact nomatch hphase.symm.trans hwaiting

/-- What is kept for one call. -/
structure Sound (c : Call) : Prop where
  /-- A call that is over has no slot. -/
  ended : c.phase.isOver = true → c.fate.isSome
  /-- A box holds what the one has for it who has taken out the slot. -/
  box : c.box = .waiting ∨ ∃ fate, c.fate = some fate ∧ c.box = fate.box

theorem Sound.start (r : Request) (w : Waiter) : Sound { request := r, waiter := w } :=
  ⟨nofun, .inl rfl⟩

theorem Sound.isSome_of_box (hs : c.Sound) (h : c.box ≠ .waiting) : c.fate.isSome := by
  obtain hwaiting | ⟨fate, hfate, -⟩ := hs.box
  · exact absurd hwaiting h
  · rw [hfate]
    rfl

theorem Sound.step (hs : c.Sound) (hslot : c.fate = none ↔ a.pending.waiter? c.id = some c.waiter)
    (hstep : Step a c a' c') : c'.Sound := by
  cases hstep with
  | send hphase => exact ⟨fun h => hs.ended h, hs.box⟩
  | wait => exact ⟨nofun, hs.box⟩
  | handOver _ hfate => exact ⟨hs.ended, .inr ⟨_, hfate, rfl⟩⟩
  | answer _ hbox => exact ⟨fun _ => hs.isSome_of_box (by simp [hbox]), hs.box⟩
  | lose _ hbox => exact ⟨fun _ => hs.isSome_of_box (by simp [hbox]), hs.box⟩
  | late _ hnone =>
    refine ⟨fun _ => Option.isSome_iff_ne_none.2 fun hfate => ?_, hs.box⟩
    exact nomatch hnone.symm.trans (hslot.1 hfate)

/-- A slot that is taken out marks its call, if it is still there. -/
theorem Sound.mark (hs : c.Sound) (hslot : w = some c.waiter → c.fate = none) :
    (c.mark w fate).Sound := by
  by_cases hw : w = some c.waiter
  · rw [Call.mark, if_pos hw]
    refine ⟨fun _ => rfl, .inl ?_⟩
    obtain hwaiting | ⟨fate, hfate, -⟩ := hs.box
    · exact hwaiting
    · exact nomatch hfate.symm.trans (hslot hw)
  · rwa [Call.mark, if_neg hw]

end Call

/-- What is kept for the calls on an adapter. -/
structure Sound (a : Adapter) (calls : List Call) : Prop where
  nodup : (calls.map Call.waiter).Nodup
  /-- The slot of a call is there until somebody takes it out. -/
  slot : ∀ c ∈ calls, c.fate = none ↔ a.pending.waiter? c.id = some c.waiter
  owner : ∀ id w, a.pending.waiter? id = some w → ∃ c ∈ calls, c.waiter = w ∧ c.id = id
  call : ∀ c ∈ calls, c.Sound

namespace Sound

variable {a a' : Adapter} {c c' d : Call} {calls calls' rest : List Call} {fate : Fate}
  {id : Int32} {w : Waiter}

theorem new (e : Endpoint) (config : AdapterConfig) (now : Nat) : Sound (.new e config now) [] where
  nodup := List.nodup_nil
  slot _ h := absurd h List.not_mem_nil
  owner _ _ h := nomatch h
  call _ h := absurd h List.not_mem_nil

theorem perm (hs : Sound a calls) (h : calls.Perm calls') : Sound a calls' where
  nodup := (h.map _).nodup_iff.1 hs.nodup
  slot c hc := hs.slot c (h.mem_iff.2 hc)
  owner id w hw := (hs.owner id w hw).imp fun _ hc => ⟨h.mem_iff.1 hc.1, hc.2⟩
  call c hc := hs.call c (h.mem_iff.2 hc)

/-- A waiter belongs to one call. -/
theorem eq_of_waiter (hs : Sound a calls) (hc : c ∈ calls) (hd : d ∈ calls)
    (h : c.waiter = d.waiter) : c = d :=
  List.inj_on_of_nodup_map hs.nodup hc hd h

/-- The waiter of a call can be in its own slot only. -/
theorem id_of_waiter? (hs : Sound a calls) (hc : c ∈ calls)
    (h : a.pending.waiter? id = some c.waiter) : c.id = id := by
  obtain ⟨d, hd, hwaiter, rfl⟩ := hs.owner id _ h
  rw [hs.eq_of_waiter hc hd hwaiter.symm]

theorem fate_of_waiter? (hs : Sound a calls) (hc : c ∈ calls)
    (h : a.pending.waiter? id = some c.waiter) : c.fate = none := by
  rw [hs.slot c hc, hs.id_of_waiter? hc h]
  exact h

theorem of_pending (hs : Sound a calls) (h : a'.pending = a.pending) : Sound a' calls :=
  ⟨hs.nodup, h ▸ hs.slot, h ▸ hs.owner, hs.call⟩

/-- One call changes, and keeps its slot. -/
theorem change (hs : Sound a (c :: rest)) (hid : c'.id = c.id) (hwaiter : c'.waiter = c.waiter)
    (hfate : c'.fate = c.fate) (hsound : c'.Sound) : Sound a (c' :: rest) where
  nodup := by
    rw [List.map_cons, hwaiter]
    exact hs.nodup
  slot := by
    refine List.forall_mem_cons.2 ⟨?_, (List.forall_mem_cons.1 hs.slot).2⟩
    rw [hfate, hid, hwaiter]
    exact hs.slot c (.head _)
  owner id w hw := by
    obtain ⟨d, hd, hboth⟩ := hs.owner id w hw
    rcases List.mem_cons.1 hd with rfl | hd
    · exact ⟨c', .head _, hwaiter.trans hboth.1, hid.trans hboth.2⟩
    · exact ⟨d, .tail _ hd, hboth⟩
  call := List.forall_mem_cons.2 ⟨hsound, (List.forall_mem_cons.1 hs.call).2⟩

/-- The slot under an id is taken out. Calls that are over may be so because of that. -/
theorem take (hs : Sound a calls) (id : Int32) (fate : Fate) :
    Sound (a.cancel id).2 (calls.map (.mark (a.cancel id).1 fate)) := by
  rw [Adapter.cancel_eq]
  refine ⟨?_, List.forall_mem_map.2 fun c hc => ?_, fun other w hw => ?_,
    List.forall_mem_map.2 fun c hc => (hs.call c hc).mark fun h => hs.fate_of_waiter? hc h⟩
  · rw [List.map_map]
    exact (List.map_congr_left fun c _ => Call.waiter_mark).symm ▸ hs.nodup
  · rw [Call.id_mark, Call.waiter_mark]
    by_cases hw : a.pending.waiter? id = some c.waiter
    · rw [hw, Call.fate_mark_self, hs.id_of_waiter? hc hw, Pending.waiter?_erase_self]
      exact ⟨nofun, nofun⟩
    · rw [Call.fate_mark_of_ne hw, hs.slot c hc]
      by_cases hid : c.id = id
      · rw [hid, Pending.waiter?_erase_self]
        exact ⟨fun h => absurd h hw, nofun⟩
      · rw [Pending.waiter?_erase_of_ne hid]
  · by_cases hother : other = id
    · rw [hother, Pending.waiter?_erase_self] at hw
      exact nomatch hw
    · rw [Pending.waiter?_erase_of_ne hother] at hw
      obtain ⟨c, hc, hwaiter, hid⟩ := hs.owner other w hw
      exact ⟨_, List.mem_map_of_mem hc, by rw [Call.waiter_mark, hwaiter],
        by rw [Call.id_mark, hid]⟩

/-- A call takes out the slot under its id, and ends. -/
theorem quit (hs : Sound a (c :: rest)) (hends : Call.Ends a c fate c') :
    Sound (a.cancel c.id).2 ((c' :: rest).map (.mark (a.cancel c.id).1 fate)) := by
  obtain ⟨hid, hwaiter, hfate, hbox⟩ := hends.same
  have htaken := hs.take c.id fate
  rw [List.map_cons] at htaken ⊢
  have hsame : (c'.mark (a.cancel c.id).1 fate).fate = (c.mark (a.cancel c.id).1 fate).fate := by
    rw [Call.mark, Call.mark, hwaiter]
    split
    · rfl
    · exact hfate
  refine htaken.change ?_ ?_ hsame ⟨fun _ => ?_, ?_⟩
  · rw [Call.id_mark, Call.id_mark, hid]
  · rw [Call.waiter_mark, Call.waiter_mark, hwaiter]
  · -- Whoever has taken out the slot, it is gone.
    rw [hsame, Option.isSome_iff_ne_none, Ne, htaken.slot _ (.head _), Call.id_mark,
      Adapter.cancel_eq, Pending.waiter?_erase_self]
    exact nofun
  · rw [hsame, Call.box_mark, hbox]
    have hsound := (htaken.call _ (.head _)).box
    rwa [Call.box_mark] at hsound

theorem start (hs : Sound a calls) (r : Request) (hfresh : ∀ c ∈ calls, c.waiter ≠ w) :
    Sound (a.register r.requestId w) ({ request := r, waiter := w } ::
      calls.map (.mark (a.pending.waiter? r.requestId) .replaced)) where
  nodup := by
    rw [List.map_cons, List.map_map, List.nodup_cons]
    have hmap : calls.map (Call.waiter ∘ Call.mark (a.pending.waiter? r.requestId) .replaced) =
        calls.map Call.waiter := List.map_congr_left fun c _ => Call.waiter_mark
    rw [hmap]
    refine ⟨fun hmem => ?_, hs.nodup⟩
    obtain ⟨c, hc, heq⟩ := List.mem_map.1 hmem
    exact hfresh c hc heq
  slot := by
    refine List.forall_mem_cons.2 ⟨?_, List.forall_mem_map.2 fun c hc => ?_⟩
    · exact ⟨fun _ => Pending.waiter?_register_self, fun _ => rfl⟩
    · rw [Call.id_mark, Call.waiter_mark, Adapter.register]
      by_cases hw : a.pending.waiter? r.requestId = some c.waiter
      · -- The new call has put its waiter into the slot of this one.
        rw [hw, Call.fate_mark_self, hs.id_of_waiter? hc hw, Pending.waiter?_register_self]
        exact ⟨fun h => absurd h (Option.some_ne_none _),
          fun h => absurd (Option.some.inj h).symm (hfresh c hc)⟩
      · rw [Call.fate_mark_of_ne hw, hs.slot c hc]
        by_cases hid : c.id = r.requestId
        · rw [hid, Pending.waiter?_register_self]
          exact ⟨fun h => absurd h hw, fun h => absurd (Option.some.inj h).symm (hfresh c hc)⟩
        · rw [Pending.waiter?_register_of_ne hid]
  owner id v hv := by
    rw [Adapter.register] at hv
    by_cases hid : id = r.requestId
    · rw [hid, Pending.waiter?_register_self] at hv
      exact ⟨_, .head _, Option.some.inj hv, hid.symm⟩
    · rw [Pending.waiter?_register_of_ne hid] at hv
      obtain ⟨c, hc, hwaiter, hid⟩ := hs.owner id v hv
      exact ⟨_, .tail _ (List.mem_map_of_mem hc), by rw [Call.waiter_mark, hwaiter],
        by rw [Call.id_mark, hid]⟩
  call := List.forall_mem_cons.2 ⟨.start r w, List.forall_mem_map.2 fun c hc =>
    (hs.call c hc).mark fun h => hs.fate_of_waiter? hc h⟩

end Sound

/-! ## What a closer has still to take out -/

/-- The slot under an id is that of a call that has not found the adapter open. -/
def Early (a : Adapter) (calls : List Call) (id : Int32) : Prop :=
  ∃ c ∈ calls, a.pending.waiter? id = some c.waiter ∧ c.id = id ∧ c.isEarly

/-- No slot comes that a closer would have to take out. -/
structure Keeps (a : Adapter) (calls : List Call) (a' : Adapter) (calls' : List Call) : Prop where
  closed : a.closed = true → a'.closed = true
  slot : a.closed = true → ∀ id, (a'.pending.waiter? id).isSome → Early a' calls' id ∨
    (a.pending.waiter? id).isSome ∧ (Early a calls id → Early a' calls' id)

section

variable {parts : Nat} {part : Int32 → Fin parts} {a a' : Adapter} {c c' : Call} {fate : Fate}
  {calls calls' before after : List Call} {k k' : Closer} {id : Int32}

theorem Early.of_pending (h : Early a calls id) (hpending : a'.pending = a.pending) :
    Early a' calls id := by
  rw [Early, hpending]
  exact h

namespace Keeps

theorem of_pending (hpending : a'.pending = a.pending)
    (hclosed : a.closed = true → a'.closed = true) : Keeps a calls a' calls :=
  ⟨hclosed, fun _ _ h => .inr ⟨hpending ▸ h, fun hearly => hearly.of_pending hpending⟩⟩

/-- A call that registers has not found the adapter open. -/
theorem start (a : Adapter) (calls : List Call) (r : Request) (w : Waiter) :
    Keeps a calls (a.register r.requestId w) ({ request := r, waiter := w } ::
      calls.map (.mark (a.pending.waiter? r.requestId) .replaced)) := by
  refine ⟨fun h => h, fun _ id h => ?_⟩
  by_cases hid : id = r.requestId
  · subst hid
    exact .inl ⟨_, .head _, Pending.waiter?_register_self, rfl, rfl, .inl rfl⟩
  · have hsame : (a.register r.requestId w).pending.waiter? id = a.pending.waiter? id :=
      Pending.waiter?_register_of_ne hid
    refine .inr ⟨hsame ▸ h, fun ⟨c, hc, hwaiter, hid, hearly⟩ => ?_⟩
    refine ⟨_, .tail _ (List.mem_map_of_mem hc), ?_, by rw [Call.id_mark, hid],
      Call.isEarly_mark.2 hearly⟩
    rw [hsame, hwaiter, Call.waiter_mark]

theorem go (hstep : Call.Step a c a' c') :
    Keeps a (before ++ c :: after) a' (before ++ c' :: after) := by
  obtain ⟨hid, hwaiter, -, hpending, hclosed⟩ := hstep.same
  refine ⟨fun h => hclosed.trans h, fun hopen id h => .inr ⟨hpending ▸ h, ?_⟩⟩
  rintro ⟨d, hd, hslot, hd'⟩
  rw [Early, hpending]
  rcases List.mem_append.1 hd with hd | hd
  · exact ⟨d, List.mem_append_left _ hd, hslot, hd'⟩
  · rcases List.mem_cons.1 hd with rfl | hd
    · exact ⟨c', List.mem_append_right _ (.head _), hwaiter.symm ▸ hslot, hid.trans hd'.1,
        hstep.isEarly hopen hd'.2⟩
    · exact ⟨d, List.mem_append_right _ (.tail _ hd), hslot, hd'⟩

/-- The slot under an id goes, and other calls stay. -/
theorem take (a : Adapter) (id : Int32) (fate : Fate)
    (h : ∀ d ∈ calls, d.id ≠ id → d ∈ calls') :
    Keeps a calls (a.cancel id).2 (calls'.map (.mark (a.cancel id).1 fate)) := by
  rw [Adapter.cancel_eq]
  refine ⟨fun h => h, fun _ other hother => ?_⟩
  by_cases hid : other = id
  · rw [hid, Pending.waiter?_erase_self] at hother
    exact nomatch hother
  · rw [Pending.waiter?_erase_of_ne hid] at hother
    refine .inr ⟨hother, ?_⟩
    rintro ⟨d, hd, hslot, rfl, hearly⟩
    refine ⟨_, List.mem_map_of_mem (h d hd hid), ?_, Call.id_mark, Call.isEarly_mark.2 hearly⟩
    rw [Pending.waiter?_erase_of_ne hid, hslot, Call.waiter_mark]

end Keeps

namespace Closer

/-- When a closer has marked the adapter, it would take out every slot but those of calls that have
    not found the adapter open. -/
def Holds (part : Int32 → Fin parts) (a : Adapter) (calls : List Call) (k : Closer) : Prop :=
  k.isMarked = true → a.closed = true ∧
    ∀ id, (a.pending.waiter? id).isSome → k.Covers part id ∨ Early a calls id

theorem Holds.keep (hk : k.Holds part a calls) (h : Keeps a calls a' calls') :
    k.Holds part a' calls' := fun hmarked => by
  obtain ⟨hclosed, hcovers⟩ := hk hmarked
  refine ⟨h.closed hclosed, fun id hsome => ?_⟩
  obtain hearly | ⟨hold, hearly⟩ := h.slot hclosed id hsome
  · -- The slot is new, and its call will find the adapter closed.
    exact .inr hearly
  · exact (hcovers id hold).imp_right hearly

theorem Step.pending (hstep : Step part a k a' k') : a'.pending = a.pending := by
  cases hstep with
  | shut | drop => exact Adapter.pending_modifyConnection
  | _ => rfl

theorem Step.closed (hstep : Step part a k a' k') (h : a.closed = true) : a'.closed = true := by
  cases hstep with
  | mark => rfl
  | shut | drop => exact Adapter.closed_modifyConnection.trans h
  | _ => exact h

/-- What a closer does itself. -/
theorem Holds.step (hk : k.Holds part a calls) (hstep : Step part a k a' k') :
    k'.Holds part a' calls := by
  cases hstep with
  | mark => exact fun _ => ⟨rfl, fun _ _ => .inl trivial⟩
  | hold => exact fun _ => ⟨(hk rfl).1, fun _ _ => .inl trivial⟩
  | shut =>
    exact fun _ => ⟨Adapter.closed_modifyConnection.trans (hk rfl).1, fun _ _ => .inl trivial⟩
  | drop =>
    exact fun _ => ⟨Adapter.closed_modifyConnection.trans (hk rfl).1,
      fun _ _ => .inl fun h => absurd h (Nat.not_lt_zero _)⟩
  | list listed ids hlisted =>
    refine fun _ => ⟨(hk rfl).1, fun id hsome => ((hk rfl).2 id hsome).imp_left fun hcovers => ?_⟩
    intro hpart
    rcases Nat.lt_succ_iff_lt_or_eq.1 hpart with hlt | heq
    · exact List.mem_append_left _ (hcovers hlt)
    · -- The slot is there now, so its id is listed with its part.
      refine List.mem_append_right _ (List.mem_filter.2 ⟨Pending.mem_ids_of_waiter? hsome, ?_⟩)
      exact decide_eq_true heq
  | sweep ids =>
    exact fun _ => ⟨(hk rfl).1, fun id hsome =>
      ((hk rfl).2 id hsome).imp_left fun hcovers => hcovers (part id).isLt⟩
  | finish =>
    exact fun _ => ⟨(hk rfl).1, fun id hsome =>
      ((hk rfl).2 id hsome).imp_left fun hcovers => absurd hcovers List.not_mem_nil⟩

theorem Holds.cancel {ids : List Int32} (hk : (sweeping (id :: ids)).Holds part a calls) :
    (sweeping ids).Holds part (a.cancel id).2 (calls.map (.mark (a.cancel id).1 .swept)) := by
  have hkept := hk.keep (Keeps.take a id .swept fun _ hd _ => hd)
  refine fun _ => ⟨(hkept rfl).1, fun other hsome => ?_⟩
  refine ((hkept rfl).2 other hsome).imp_left fun hmem => (List.mem_cons.1 hmem).resolve_left ?_
  rintro rfl
  rw [Adapter.cancel_eq, Pending.waiter?_erase_self] at hsome
  exact nomatch hsome

end Closer

end

/-! ## What a swept call returns -/

/-- A call whose request was queued, and whose slot a closer has taken out, returns nothing but
    that the client is shut down, or, unless it is alone, that its time is up. -/
def Call.Told (alone : Waiter → Prop) (c : Call) : Prop :=
  ∀ number o, c.fate = some .swept → c.sending = .queued number → c.phase = .returned o →
    o = .error .shutdown ∨ ¬alone c.waiter ∧ ∃ elapsed, o = .error (.timeout c.id elapsed)

section

variable {a a' : Adapter} {c c' : Call} {fate : Fate} {w : Option Waiter} {alone : Waiter → Prop}

theorem Call.Told.mark (ht : c.Told alone) (hs : c.Sound)
    (hslot : w = some c.waiter → c.fate = none) : (c.mark w fate).Told alone := by
  by_cases hw : w = some c.waiter
  · -- A call that still has its slot has not returned.
    intro number o _ _ hreturned
    rw [Call.phase_mark] at hreturned
    have hsome := hs.ended (by rw [hreturned]; rfl)
    rw [hslot hw] at hsome
    exact nomatch hsome
  · rwa [Call.mark, if_neg hw]

theorem Call.Told.step (ht : c.Told alone) (hs : c.Sound) (hstep : Call.Step a c a' c') :
    c'.Told alone := by
  cases hstep with
  | send hphase => exact fun _ _ _ _ hreturned => nomatch hphase.symm.trans hreturned
  | wait => exact fun _ _ _ _ hreturned => nomatch hreturned
  | handOver => exact ht
  | answer _ hbox =>
    intro number o hswept
    obtain hwaiting | ⟨fate, hfate, hfound⟩ := hs.box
    · exact nomatch hbox.symm.trans hwaiting
    · cases hswept.symm.trans hfate
      exact nomatch hbox.symm.trans hfound
  | lose =>
    rintro number o - - ⟨⟩
    exact .inl rfl
  | late =>
    intro number o _ _ hreturned
    split at hreturned <;> exact nomatch hreturned

/-- The timer of a call takes out the slot of that call, unless another call has its id. -/
theorem Call.Told.quit {s : Scene} (hs : Sweep.Sound s.adapter s.calls)
    (halone : alone c.waiter → s.Alone c.waiter) (hc : c ∈ s.calls)
    (hends : Call.Ends s.adapter c fate c') :
    (c'.mark (s.adapter.cancel c.id).1 fate).Told alone := by
  intro number o hswept hqueued hreturned
  rw [Call.sending_mark] at hqueued
  rw [Call.phase_mark] at hreturned
  cases hends with
  | fail _ hresult =>
    rw [show c.sending = .queued number from hqueued] at hresult
    exact nomatch hresult
  | @expire w elapsed hphase hw =>
    -- The call whose slot it is has not ended, or the slot would be gone.
    obtain ⟨d, hd', rfl, hid⟩ := hs.owner _ _ hw
    have hdover : d.phase.isOver = false := by
      refine eq_false_of_ne_true fun hover => ?_
      have hsome := (hs.call d hd').ended hover
      rw [hs.fate_of_waiter? hd' hw] at hsome
      exact nomatch hsome
    rw [Adapter.cancel_eq, hw] at hswept
    rw [Call.waiter_mark, Call.id_mark]
    refine .inr ⟨fun h => ?_, elapsed, (Phase.returned.inj hreturned).symm⟩
    have hwaiter := halone h c hc rfl (by rw [hphase]; rfl) d hd' hdover hid
    rw [hwaiter, Call.mark, if_pos rfl] at hswept
    exact nomatch hswept
  | withdraw | abandon => exact nomatch hreturned

end

/-! ## Runs -/

variable {parts : Nat} {part : Int32 → Fin parts} {P : Scene → Prop} {s s' : Scene}

/-- What is kept, whatever comes in between. -/
structure Kept (part : Int32 → Fin parts) (s : Scene) : Prop where
  sound : Sound s.adapter s.calls
  closers : ∀ k ∈ s.closers, k.Holds part s.adapter s.calls

theorem mem_quit {before after : List Call} {c c' d : Call} (hd : d ∈ before ++ c :: after)
    (h : d.id ≠ c.id) : d ∈ before ++ c' :: after := by
  rcases List.mem_append.1 hd with hd | hd
  · exact List.mem_append_left _ hd
  · rcases List.mem_cons.1 hd with rfl | hd
    · exact absurd rfl h
    · exact List.mem_append_right _ (.tail _ hd)

theorem Kept.step (hk : Kept part s) (hstep : Step part s s') : Kept part s' := by
  obtain ⟨hs, hclosers⟩ := hk
  cases hstep with
  | start _ hfresh =>
    exact ⟨hs.start _ hfresh, fun k hk => (hclosers k hk).keep (.start _ _ _ _)⟩
  | @go a a' c c' closers before after hgo =>
    obtain ⟨hid, hwaiter, hfate, hpending, -⟩ := hgo.same
    have hcons : Sound a (c :: (before ++ after)) := hs.perm List.perm_middle
    have hsound := (hcons.call c (.head _)).step (hcons.slot c (.head _)) hgo
    exact ⟨((hcons.change hid hwaiter hfate hsound).perm List.perm_middle.symm).of_pending hpending,
      fun k hk => (hclosers k hk).keep (.go hgo)⟩
  | @quit a c c' fate closers before after hends =>
    have hcons : Sound a (c :: (before ++ after)) := hs.perm List.perm_middle
    refine ⟨(hcons.quit hends).perm (List.perm_middle.symm.map _), fun k hk => ?_⟩
    exact (hclosers k hk).keep (.take a c.id fate fun _ hd hid => mem_quit hd hid)
  | answer => exact ⟨hs.take _ _, fun k hk => (hclosers k hk).keep (.take _ _ _ fun _ hd _ => hd)⟩
  | join => exact ⟨hs, List.forall_mem_cons.2 ⟨fun h => absurd h Bool.false_ne_true, hclosers⟩⟩
  | @close a a' calls k k' before after hclose =>
    have hall := List.forall_mem_append.1 hclosers
    have hown := List.forall_mem_cons.1 hall.2
    have hkeeps : Keeps a calls a' calls := .of_pending hclose.pending hclose.closed
    exact ⟨hs.of_pending hclose.pending, List.forall_mem_append.2
      ⟨fun k hk => (hall.1 k hk).keep hkeeps, List.forall_mem_cons.2
        ⟨hown.1.step hclose, fun k hk => (hown.2 k hk).keep hkeeps⟩⟩⟩
  | @cancel a calls id ids before after =>
    have hall := List.forall_mem_append.1 hclosers
    have hown := List.forall_mem_cons.1 hall.2
    have hkeeps := Keeps.take a id .swept fun d (hd : d ∈ calls) _ => hd
    exact ⟨hs.take _ _, List.forall_mem_append.2
      ⟨fun k hk => (hall.1 k hk).keep hkeeps, List.forall_mem_cons.2
        ⟨hown.1.cancel, fun k hk => (hown.2 k hk).keep hkeeps⟩⟩⟩
  | elsewhere hpending hclosed =>
    exact ⟨hs.of_pending hpending, fun k hk =>
      (hclosers k hk).keep (.of_pending hpending fun h => hclosed.trans h)⟩

theorem told_mark {alone : Waiter → Prop} (hs : Sound s.adapter s.calls)
    (ht : ∀ c ∈ s.calls, c.Told alone) (id : Int32) (fate : Fate) :
    ∀ c ∈ s.calls.map (Call.mark (s.adapter.pending.waiter? id) fate), c.Told alone :=
  List.forall_mem_map.2 fun c hc =>
    (ht c hc).mark (hs.call c hc) fun h => hs.fate_of_waiter? hc h

theorem told_step {alone : Waiter → Prop} (hs : Sound s.adapter s.calls)
    (halone : ∀ w, alone w → s.Alone w) (ht : ∀ c ∈ s.calls, c.Told alone)
    (hstep : Step part s s') : ∀ c ∈ s'.calls, c.Told alone := by
  cases hstep with
  | start =>
    refine List.forall_mem_cons.2 ⟨?_, told_mark hs ht _ _⟩
    exact fun _ _ _ _ h => nomatch h
  | @go a a' c c' closers before after hgo =>
    have hall := List.forall_mem_append.1 ht
    have hown := List.forall_mem_cons.1 hall.2
    have hc := hs.call c (List.mem_append_right _ (.head _))
    exact List.forall_mem_append.2 ⟨hall.1, List.forall_mem_cons.2 ⟨hown.1.step hc hgo, hown.2⟩⟩
  | @quit a c c' fate closers before after hends =>
    have hquit := Call.Told.quit hs (halone _) (List.mem_append_right _ (.head _)) hends
    have hmark := told_mark hs ht c.id fate
    rw [Adapter.cancel_eq] at hquit
    rw [Scene.take, Adapter.cancel_eq]
    dsimp only at hmark ⊢
    rw [List.map_append] at hmark ⊢
    have hothers := List.forall_mem_append.1 hmark
    exact List.forall_mem_append.2
      ⟨hothers.1, List.forall_mem_cons.2 ⟨hquit, (List.forall_mem_cons.1 hothers.2).2⟩⟩
  | answer | cancel =>
    rw [Scene.take, Adapter.cancel_eq]
    exact told_mark hs ht _ _
  | _ => exact ht

variable {endpoint : Endpoint} {config : AdapterConfig} {now : Nat}

theorem Run.kept (hrun : Run part P ⟨.new endpoint config now, [], []⟩ s) : Kept part s := by
  induction hrun with
  | refl => exact ⟨.new endpoint config now, fun _ h => absurd h List.not_mem_nil⟩
  | tail _ hstep ih => exact ih.step hstep.1

/-- A run through scenes in which a call is alone does not leave such scenes. -/
theorem Run.alone (hrun : Run part P ⟨.new endpoint config now, [], []⟩ s) {w : Waiter}
    (hP : ∀ x, P x → x.Alone w) : s.Alone w := by
  cases hrun with
  | refl => exact fun _ h => absurd h List.not_mem_nil
  | tail _ hstep => exact hP _ hstep.2

theorem Run.told (hrun : Run part P ⟨.new endpoint config now, [], []⟩ s) :
    ∀ c ∈ s.calls, c.Told fun w => ∀ x, P x → x.Alone w := by
  induction hrun with
  | refl => exact fun _ h => absurd h List.not_mem_nil
  | tail hrun hstep ih =>
    exact told_step (Run.kept hrun).sound (fun _ => Run.alone hrun) ih hstep.1

/-- A blocking call that waits, and whose slot a closer has taken out, can go on to return that the
    client is shut down. -/
theorem exists_steps_lose {a : Adapter} {c : Call} {before after : List Call}
    {closers : List Closer} (hblocking : c.isBlocking = true) (hswept : c.fate = some .swept)
    (hwaiting : c.phase.isWaiting = true) :
    ∃ d, ReflTransGen (Step part) ⟨a, before ++ c :: after, closers⟩
      ⟨a, before ++ d :: after, closers⟩ ∧ d.waiter = c.waiter ∧
        d.phase = .returned (.error .shutdown) := by
  have told : Step part ⟨a, before ++ c :: after, closers⟩
      ⟨a, before ++ { c with box := .closed } :: after, closers⟩ :=
    .go before after (.handOver hblocking hswept)
  exact ⟨_, .tail (.single told) (.go before after (.lose hwaiting rfl)), rfl, rfl⟩

/-- So can one whose request has just been queued. -/
theorem exists_steps_shutdown {c : Call} (hc : c ∈ s.calls) (hblocking : c.isBlocking = true)
    (hswept : c.fate = some .swept) {number : Nat} (hqueued : c.sending = .queued number)
    (hover : c.phase.isOver = false) :
    ∃ s', ReflTransGen (Step part) s s' ∧
      ∃ d ∈ s'.calls, d.waiter = c.waiter ∧ d.phase = .returned (.error .shutdown) := by
  obtain ⟨a, calls, closers⟩ := s
  obtain ⟨before, after, rfl⟩ := List.append_of_mem hc
  cases hphase : c.phase with
  | sending =>
    have waiting : Step part ⟨a, before ++ c :: after, closers⟩
        ⟨a, before ++ { c with phase := .waiting } :: after, closers⟩ :=
      .go before after (.wait hphase hqueued)
    obtain ⟨d, hsteps, hd⟩ := exists_steps_lose (c := { c with phase := .waiting }) hblocking
      hswept rfl
    exact ⟨_, .head waiting hsteps, d, List.mem_append_right _ (.head _), hd⟩
  | waiting | awaiting =>
    obtain ⟨d, hsteps, hd⟩ := exists_steps_lose hblocking hswept (by rw [hphase]; rfl)
    exact ⟨_, hsteps, d, List.mem_append_right _ (.head _), hd⟩
  | returned | gone =>
    rw [hphase] at hover
    exact nomatch hover

/-- What a closer that is done has left. -/
structure Swept (part : Int32 → Fin parts) (P : Scene → Prop) (s : Scene) : Prop where
  /-- The adapter stays closed, and the only slots are those of calls that have found it closed or
      have not looked yet. -/
  early : .done ∈ s.closers → s.adapter.closed = true ∧
    ∀ id w, s.adapter.pending.waiter? id = some w →
      ∃ c ∈ s.calls, c.waiter = w ∧ c.id = id ∧ c.isEarly
  /-- A call that does not send any more has no slot. -/
  left : .done ∈ s.closers → ∀ c ∈ s.calls, c.phase ≠ .sending →
    ∀ id, s.adapter.pending.waiter? id ≠ some c.waiter
  /-- When no call sends any more, there are no slots. -/
  empty : .done ∈ s.closers → (∀ c ∈ s.calls, c.phase ≠ .sending) → s.adapter.pending = {}
  /-- A call that was queued, and whose slot a closer has taken out, returns nothing but that the
      client is shut down, if no other call has its id while both are under way. -/
  told : ∀ c ∈ s.calls, (∀ x, P x → x.Alone c.waiter) → ∀ number o, c.fate = some .swept →
    c.sending = .queued number → c.phase = .returned o → o = .error .shutdown
  /-- If another one has, it can return that its time is up instead. -/
  late : ∀ c ∈ s.calls, ∀ number o, c.fate = some .swept → c.sending = .queued number →
    c.phase = .returned o → o = .error .shutdown ∨ ∃ elapsed, o = .error (.timeout c.id elapsed)
  /-- A blocking call that has not been abandoned gets there. -/
  returns : ∀ c ∈ s.calls, c.isBlocking = true → c.fate = some .swept → ∀ number,
    c.sending = .queued number → c.phase.isOver = false →
    ∃ s', ReflTransGen (Step part) s s' ∧
      ∃ d ∈ s'.calls, d.waiter = c.waiter ∧ d.phase = .returned (.error .shutdown)

/-- A closer that is done has taken out every slot but those of calls that have not found the
    adapter open. -/
theorem Kept.early (hk : Kept part s) (hdone : .done ∈ s.closers) : s.adapter.closed = true ∧
    ∀ id w, s.adapter.pending.waiter? id = some w →
      ∃ c ∈ s.calls, c.waiter = w ∧ c.id = id ∧ c.isEarly := by
  obtain ⟨hclosed, hcovers⟩ := hk.closers .done hdone rfl
  refine ⟨hclosed, fun id w hw => ?_⟩
  obtain ⟨c, hc, hwaiter, hrest⟩ := (hcovers id (by rw [hw]; rfl)).resolve_left not_false
  exact ⟨c, hc, Option.some.inj (hwaiter.symm.trans hw), hrest⟩

/-- Nothing stays pending on an adapter that is closed, whatever comes in between. -/
theorem Run.swept (hrun : Run part P ⟨.new endpoint config now, [], []⟩ s) : Swept part P s where
  early := hrun.kept.early
  left hdone c hc hphase id hslot := by
    obtain ⟨d, hd, hwaiter, -, hearly⟩ := (hrun.kept.early hdone).2 id _ hslot
    rw [hrun.kept.sound.eq_of_waiter hd hc hwaiter] at hearly
    exact hphase hearly.1
  empty hdone hphase := Pending.eq_empty_of_waiter? fun id => by
    refine Option.eq_none_iff_forall_ne_some.2 fun w hw => ?_
    obtain ⟨c, hc, -, -, hearly⟩ := (hrun.kept.early hdone).2 id w hw
    exact hphase c hc hearly.1
  told c hc halone number o hswept hqueued hreturned :=
    (hrun.told c hc number o hswept hqueued hreturned).resolve_right fun h => h.1 halone
  late c hc number o hswept hqueued hreturned :=
    (hrun.told c hc number o hswept hqueued hreturned).imp_right And.right
  returns _ hc hblocking hswept _ := exists_steps_shutdown hc hblocking hswept

/-- A call to be answered, under an id. -/
def request (id : Int32) : Request := { (default : Request) with requestId := id }

/-- An adapter that has not dialled yet. -/
def fresh : Adapter := .new default { object := "" } 0

/-- A table in one part. -/
def whole (_ : Int32) : Fin 1 := 0

/-- When all ids are different, every call is alone. -/
theorem Scene.alone_of_nodup {w : Waiter} (h : (s.calls.map Call.id).Nodup) : s.Alone w :=
  fun _ hc hw _ _ hd _ hid =>
    (congrArg Call.waiter (List.inj_on_of_nodup_map h hd hc hid)).trans hw

/-- The call under the id 7 is queued, and waits. -/
def queued : Adapter := ((fresh.register 7 (.caller 0)).send (fun _ _ => .ok ()) (request 7) 0).2

theorem run_waiting (one : ∀ {a c}, P ⟨a, [c], []⟩) : Run whole P ⟨fresh, [], []⟩
    ⟨queued, [{ request := request 7, waiter := .caller 0, phase := .waiting
                sending := .queued 0 }], []⟩ := by
  have start : Run whole P ⟨fresh, [], []⟩ _ :=
    .single ⟨.start (r := request 7) (w := .caller 0) rfl fun _ h => absurd h List.not_mem_nil, one⟩
  have entered := start.tail ⟨.go [] [] (.send rfl (.enter rfl)), one⟩
  have counted := entered.tail ⟨.go [] [] (.send rfl (.count _)), one⟩
  have routed := counted.tail ⟨.go [] [] (.send rfl (.route _)), one⟩
  have checked := routed.tail ⟨.go [] [] (.send rfl (.check rfl rfl)), one⟩
  have dialling := checked.tail ⟨.go [] [] (.send rfl (.dial rfl rfl)), one⟩
  have dialled := dialling.tail
    ⟨.go [] [] (.send rfl (.reach (d := fun _ _ => .ok ()) rfl rfl)), one⟩
  have connected := dialled.tail ⟨.go [] [] (.send rfl (.publish _ _ 0)), one⟩
  have enqueuing := connected.tail ⟨.go [] [] (.send rfl (.issue _ 0)), one⟩
  have queued := enqueuing.tail ⟨.go [] [] (.send rfl (.enqueue rfl rfl)), one⟩
  exact queued.tail ⟨.go [] [] (.wait rfl rfl), one⟩

/-- A call is queued and waits; the adapter is closed, and a second call comes before the ids are
    listed. The second one is refused, and the first one returns that the client is shut down. -/
theorem swept_waiting : ∃ s, Swept whole (Scene.Alone · (.caller 0)) s ∧ .done ∈ s.closers ∧
    s.adapter.pending = {} ∧ (∀ c ∈ s.calls, c.phase ≠ .sending) ∧
    ∃ c ∈ s.calls, c.waiter = .caller 0 ∧ c.fate = some .swept ∧ c.sending = .queued 0 ∧
      c.phase = .returned (.error .shutdown) := by
  have one {a : Adapter} {c : Call} {ks : List Closer} : Scene.Alone ⟨a, [c], ks⟩ (.caller 0) :=
    Scene.alone_of_nodup (List.nodup_singleton c.id)
  have two : ([8, 7] : List Int32).Nodup := by decide
  have waiting := run_waiting (P := (Scene.Alone · (.caller 0))) one
  have joined := waiting.tail ⟨.join _, one⟩
  have marked := joined.tail ⟨.close [] [] (.mark _), one⟩
  have held := marked.tail ⟨.close [] [] (.hold _), one⟩
  have shut := held.tail ⟨.close [] [] (.shut _ _), one⟩
  have dropped := shut.tail ⟨.close [] [] (.drop _ _), one⟩
  have late := dropped.tail ⟨.start (r := request 8) (w := .callback "8") rfl
    (List.forall_mem_singleton.2 nofun), Scene.alone_of_nodup two⟩
  have listed := late.tail ⟨.close [] [] (.list _ 0 [] Nat.zero_lt_one),
    Scene.alone_of_nodup two⟩
  have sweeping := listed.tail ⟨.close [] [] (.sweep _ _), Scene.alone_of_nodup two⟩
  have refused := sweeping.tail ⟨.go [] _ (.send rfl (.refuse rfl)), Scene.alone_of_nodup two⟩
  have failed := refused.tail ⟨.quit [] _ (.fail rfl rfl), Scene.alone_of_nodup two⟩
  have first := failed.tail ⟨.cancel [] [], Scene.alone_of_nodup two⟩
  have second := first.tail ⟨.cancel [] [], Scene.alone_of_nodup two⟩
  have done := second.tail ⟨.close [] [] (.finish _), Scene.alone_of_nodup two⟩
  have told := done.tail ⟨.go [_] [] (.handOver rfl rfl), Scene.alone_of_nodup two⟩
  have returned := told.tail ⟨.go [_] [] (.lose rfl rfl), Scene.alone_of_nodup two⟩
  refine ⟨_, Run.swept returned, .head _, rfl, ?_, _, .tail _ (.head _), rfl, rfl, rfl, rfl⟩
  exact List.forall_mem_cons.2 ⟨nofun, List.forall_mem_singleton.2 nofun⟩

/-- A call whose slot a closer has taken out can return that its time is up: before it learns of the
    closing, another call comes with its id, and its timer takes out the slot of that call. -/
theorem not_swept : ¬ ∀ s, Run whole (fun _ => True) ⟨fresh, [], []⟩ s → .done ∈ s.closers →
    (∀ c ∈ s.calls, c.phase ≠ .sending) → ∀ c ∈ s.calls, c.isBlocking = true →
      c.fate = some .swept → ∀ number o, c.sending = .queued number → c.phase = .returned o →
        o = .error .shutdown := by
  intro hreturns
  have waiting := run_waiting (P := fun _ => True) trivial
  have joined := waiting.tail ⟨.join _, trivial⟩
  have marked := joined.tail ⟨.close [] [] (.mark _), trivial⟩
  have held := marked.tail ⟨.close [] [] (.hold _), trivial⟩
  have shut := held.tail ⟨.close [] [] (.shut _ _), trivial⟩
  have dropped := shut.tail ⟨.close [] [] (.drop _ _), trivial⟩
  have listed := dropped.tail ⟨.close [] [] (.list _ 0 [] Nat.zero_lt_one), trivial⟩
  have sweeping := listed.tail ⟨.close [] [] (.sweep _ _), trivial⟩
  have swept := sweeping.tail ⟨.cancel [] [], trivial⟩
  have done := swept.tail ⟨.close [] [] (.finish _), trivial⟩
  have again := done.tail ⟨.start (r := request 7) (w := .caller 1) rfl
    (List.forall_mem_singleton.2 nofun), trivial⟩
  have expired := again.tail ⟨.quit [_] [] (.expire ⟨0⟩ rfl rfl), trivial⟩
  have refused := expired.tail ⟨.go [] _ (.send rfl (.refuse rfl)), trivial⟩
  have failed := refused.tail ⟨.quit [] _ (.fail rfl rfl), trivial⟩
  refine absurd (hreturns _ failed (.head _) ?_ _ (.tail _ (.head _)) rfl rfl _ _ rfl rfl) nofun
  exact List.forall_mem_cons.2 ⟨nofun, List.forall_mem_singleton.2 nofun⟩

end Sweep

end TaggedRpc
