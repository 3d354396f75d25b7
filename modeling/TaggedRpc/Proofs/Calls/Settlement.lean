import Mathlib.Data.List.Nodup
import TaggedRpc.Proofs.Calls.Interleaving

/-!
# The counts of calls for callbacks

Every call for a callback that has been answered, or whose time is up, gives one count back, and
none gives back more (`Callbacks.Call.Sound`). The timer gives it back on the connection on which
the request was queued. So does the callback if it finds this connection noted.

The answer can be faster than the note. Then the callback takes the current connection, and that
is another one if a directive has come in between. Whenever this does not happen
(`Callbacks.Scene.InTime`), every count is given back where it was taken, and a connection counts
the calls whose requests it has queued and that are not settled, and the callers that wait for
room in its queue (`Callbacks.Scene.Run.settlement`). Otherwise the connection that is replaced
counts for ever a call that is over (`Callbacks.Scene.not_counted`).
-/

namespace TaggedRpc

/-- A new adapter counts no call. -/
theorem Adapter.callsOn_new (e : Endpoint) (config : AdapterConfig) (now m : Nat) :
    (Adapter.new e config now).callsOn m = 0 := by
  rw [callsOn, connection?_eq_getElem?, new, List.nil_append]
  cases m <;> rfl

/-! ## Callers on a shared adapter -/

namespace Sending

variable {r : Request} {a a' : Adapter} {s s' : Sending}

/-- No step loses a connection. -/
theorem Step.isSome_connection? (hstep : Step r (a, s) (a', s')) (m : Nat) :
    (a'.connection? m).isSome = (a.connection? m).isSome := by
  cases hstep with
  | publish | issue | enqueue | giveUp => exact Adapter.isSome_connection?_modifyConnection m
  | _ => rfl

/-- A caller stays on its connection, or takes the current one. -/
theorem Step.route? (hstep : Step r (a, s) (a', s')) {number : Nat}
    (h : s'.route? = some number) : s.route? = some number ∨ number = a.current := by
  cases hstep with
  | route => exact .inr (Option.some.inj h).symm
  | share _ _ hs => rcases hs with rfl | rfl <;> exact .inl h
  | reach =>
    split at h
    · exact nomatch h
    · exact .inl h
  | _ => first | exact .inl h | exact nomatch h

/-- What a caller does to the counts is to take its ticket, or to give it back. -/
theorem Step.callsOn (hstep : Step r (a, s) (a', s'))
    (hroute : ∀ number, s.route? = some number → (a.connection? number).isSome) {n : Nat → Nat}
    (hcalls : ∀ m, a.callsOn m = n m + if s.ticket? = some m then 1 else 0) (m : Nat) :
    a'.callsOn m = n m + if s'.ticket? = some m then 1 else 0 := by
  cases hstep with
  | share _ _ hs => rcases hs with rfl | rfl <;> exact hcalls m
  | reach => split <;> exact hcalls m
  | publish =>
    rw [Adapter.callsOn_modifyConnection_of_calls fun c _ => by rfl]
    exact hcalls m
  | issue =>
    rw [Adapter.callsOn_startCall (hroute _ rfl), hcalls]
    simp [ticket?]
  | enqueue hc henqueue =>
    rw [Adapter.callsOn_modifyConnection_of_calls fun d hd => ?_]
    · exact hcalls m
    · cases hc.symm.trans hd
      exact Connection.calls_of_enqueue henqueue
  | giveUp =>
    rw [Adapter.callsOn_giveBack (f := Connection.finishCall) (fun _ => rfl) (n := n)]
    · rfl
    · simpa [ticket?] using hcalls
  | _ => exact hcalls m

theorem eq_queued_of_result? {number : Nat} (h : s.result? = some (.ok number)) :
    s = queued number := by
  cases s <;> cases h
  rfl

/-- A caller that has failed has no ticket. -/
theorem ticket?_of_error {e : RpcError} (h : s.result? = some (.error e)) : s.ticket? = none := by
  cases s <;> first | rfl | cases h

end Sending

namespace Callbacks

open Relation (ReflTransGen)

/-! ## One call -/

namespace Call

/-- A call, its timer and its callback give one count back at most. -/
structure Sound (c : Call) : Prop where
  noted : ∀ number, c.noted = some number → c.sending = .queued number
  returned : c.phase ≠ .sending → c.phase ≠ .failed → c.noted.isSome
  failed : c.phase = .failed → c.sending.ticket? = none
  dropped : c.ending = .dropped → c.phase = .failed
  gaveBack : c.gaveBack.length = if c.ending = .settled then 1 else 0
  /-- The timer gives the count back where it was taken. -/
  timedOut : c.phase = .timedOut → ∃ number, c.sending = .queued number ∧
    (c.ending = .settling number ∨ c.ending = .settled ∧ c.gaveBack = [number])

variable {a a' : Adapter} {c d : Call} {c' : Option Call} {other : Int32} {m : Nat}

theorem Sound.gaveBack_eq_nil (hs : c.Sound) (h : c.ending ≠ .settled) : c.gaveBack = [] := by
  have hlength := hs.gaveBack
  rwa [if_neg h, List.length_eq_zero_iff] at hlength

/-- Another call finds its slot as it was. -/
theorem Step.waiter? (hstep : Step a c a' c') (h : other ≠ c.id) :
    a'.pending.waiter? other = a.pending.waiter? other := by
  cases hstep with
  | send _ hs => rw [hs.pending]
  | fail | expire | expireLate =>
    rw [Adapter.cancel, Pending.cancel_eq]
    exact Pending.waiter?_erase_of_ne h
  | give => rw [Adapter.pending_modifyConnection]
  | _ => rfl

theorem Step.id_eq (hstep : Step a c a' (some d)) : d.id = c.id := by
  cases hstep <;> rfl

theorem cancel_fst (a : Adapter) (id : Int32) : (a.cancel id).1 = a.pending.waiter? id := by
  rw [Adapter.cancel, Pending.cancel_eq]

theorem waiter?_cancel_self (a : Adapter) (id : Int32) :
    (a.cancel id).2.pending.waiter? id = none := by
  rw [Adapter.cancel, Pending.cancel_eq]
  exact Pending.waiter?_erase_self

/-- The slot of a call is there until somebody takes it out. -/
theorem Step.slot (hstep : Step a c a' (some d))
    (hslot : (a.pending.waiter? c.id).isSome ↔ c.ending = .waiting) :
    (a'.pending.waiter? c.id).isSome ↔ d.ending = .waiting := by
  cases hstep with
  | send _ hs => rwa [hs.pending]
  | note => exact hslot
  | fail =>
    rw [waiter?_cancel_self, cancel_fst]
    split
    · exact ⟨nofun, nofun⟩
    · next hnone => exact ⟨nofun, fun hwaiting => absurd (hslot.2 hwaiting) hnone⟩
  | expire =>
    rw [waiter?_cancel_self]
    exact ⟨nofun, nofun⟩
  | expireLate _ hnone =>
    rw [cancel_fst] at hnone
    rw [hnone] at hslot
    rwa [waiter?_cancel_self]
  | look hanswered =>
    refine hslot.trans ⟨fun h => (nomatch hanswered.symm.trans h), fun h => ?_⟩
    cases hnoted : c.noted <;> rw [hnoted] at h <;> cases h
  | load hsearching => exact hslot.trans ⟨fun h => (nomatch hsearching.symm.trans h), nofun⟩
  | give hsettling =>
    rw [Adapter.pending_modifyConnection]
    exact hslot.trans ⟨fun h => (nomatch hsettling.symm.trans h), nofun⟩

@[simp] theorem id_answer (c : Call) (other : Int32) : (c.answer other).id = c.id := by
  rw [answer]
  split <;> rfl

@[simp] theorem sending_answer (c : Call) (other : Int32) :
    (c.answer other).sending = c.sending := by
  rw [answer]
  split <;> rfl

@[simp] theorem gaveBack_answer (c : Call) (other : Int32) :
    (c.answer other).gaveBack = c.gaveBack := by
  rw [answer]
  split <;> rfl

theorem Sound.start (r : Request) : Sound { request := r } where
  noted _ h := nomatch h
  returned h := absurd rfl h
  failed h := nomatch h
  dropped h := nomatch h
  gaveBack := rfl
  timedOut h := nomatch h

/-- The answer has taken the slot out. -/
theorem Sound.answered (hs : c.Sound) (hwaiting : c.ending = .waiting) :
    Sound { c with ending := .answered } where
  noted := hs.noted
  returned := hs.returned
  failed := hs.failed
  dropped h := nomatch h
  gaveBack := by rw [hs.gaveBack, hwaiting]; rfl
  timedOut h := by
    obtain ⟨_, -, hsettling | ⟨hsettled, -⟩⟩ := hs.timedOut h
    · exact nomatch hwaiting.symm.trans hsettling
    · exact nomatch hwaiting.symm.trans hsettled

/-- The callback goes on from the answer, and is not settled yet. -/
theorem Sound.move (hs : c.Sound) (hc : c.ending = .answered ∨ c.ending = .searching)
    {ending : Ending} (h : ending ≠ .settled ∧ ending ≠ .dropped) :
    Sound { c with ending } where
  noted := hs.noted
  returned := hs.returned
  failed := hs.failed
  dropped hdropped := absurd hdropped h.2
  gaveBack := by
    rw [hs.gaveBack_eq_nil (by rcases hc with hc | hc <;> simp [hc]), if_neg h.1]
    rfl
  timedOut hphase := by
    obtain ⟨_, -, hsettling | ⟨hsettled, -⟩⟩ := hs.timedOut hphase
    · rcases hc with hc | hc <;> exact nomatch hc.symm.trans hsettling
    · rcases hc with hc | hc <;> exact nomatch hc.symm.trans hsettled

/-- What is kept for a call by its own steps. -/
theorem Sound.step (hs : c.Sound) (hslot : (a.pending.waiter? c.id).isSome ↔ c.ending = .waiting)
    (hstep : Step a c a' (some d)) : d.Sound := by
  cases hstep with
  | send hphase hsend =>
    refine ⟨fun number hnoted => ?_, fun h => absurd hphase h, fun h => ?_, hs.dropped,
      hs.gaveBack, fun h => ?_⟩
    · -- A call that has noted its connection does not send any more.
      have hqueued := hsend.queued?
      rw [hs.noted number hnoted] at hqueued
      exact nomatch hqueued
    · exact nomatch hphase.symm.trans h
    · exact nomatch hphase.symm.trans h
  | note hphase hqueued =>
    refine ⟨?_, fun _ _ => rfl, nofun, fun h => ?_, hs.gaveBack, nofun⟩
    · rintro _ ⟨⟩
      exact hqueued
    · exact nomatch hphase.symm.trans (hs.dropped h)
  | fail hphase hresult =>
    refine ⟨hs.noted, fun _ h => absurd rfl h, fun _ => Sending.ticket?_of_error hresult,
      fun _ => rfl, ?_, nofun⟩
    rw [cancel_fst]
    split
    · next hsome => rw [hs.gaveBack, hslot.1 hsome]; rfl
    · exact hs.gaveBack
  | expire hphase hnoted hsome =>
    rw [cancel_fst] at hsome
    refine ⟨hs.noted, fun _ _ => hnoted ▸ rfl, nofun, nofun, ?_, fun _ => ?_⟩
    · rw [hs.gaveBack, hslot.1 hsome]
      rfl
    · exact ⟨_, hs.noted _ hnoted, .inl rfl⟩
  | expireLate hphase =>
    refine ⟨hs.noted, fun _ _ => ?_, nofun, fun h => ?_, hs.gaveBack, nofun⟩
    · exact hs.returned (by simp [hphase]) (by simp [hphase])
    · exact nomatch hphase.symm.trans (hs.dropped h)
  | look hanswered =>
    refine hs.move (.inl hanswered) ?_
    cases c.noted <;> exact ⟨nofun, nofun⟩
  | load hsearching => exact hs.move (.inr hsearching) ⟨nofun, nofun⟩
  | give hsettling =>
    have hnil := hs.gaveBack_eq_nil (by simp [hsettling])
    refine ⟨hs.noted, hs.returned, hs.failed, nofun, by rw [hnil]; rfl, fun hphase => ?_⟩
    obtain ⟨number, hqueued, hsettling' | ⟨hsettled, -⟩⟩ := hs.timedOut hphase
    · cases hsettling.symm.trans hsettling'
      exact ⟨_, hqueued, .inr ⟨rfl, by rw [hnil]⟩⟩
    · exact nomatch hsettling.symm.trans hsettled

/-- A call gives its count back where its request was queued. -/
structure Own (c : Call) : Prop where
  settling : ∀ number, c.ending = .settling number → c.sending = .queued number
  gaveBack : ∀ number ∈ c.gaveBack, c.sending = .queued number

theorem Own.start (r : Request) : Own { request := r } := ⟨nofun, nofun⟩

theorem Own.answered (ho : c.Own) : Own { c with ending := .answered } := ⟨nofun, ho.gaveBack⟩

/-- A callback that loads the current connection must find the one of its call. -/
theorem Own.step (ho : c.Own) (hs : c.Sound)
    (htime : c.ending = .searching → c.sending = .queued a.current)
    (hstep : Step a c a' (some d)) : d.Own := by
  cases hstep with
  | send _ hsend =>
    have hqueued := hsend.queued?
    refine ⟨fun number h => ?_, fun number h => ?_⟩
    · rw [ho.settling number h] at hqueued
      exact nomatch hqueued
    · rw [ho.gaveBack number h] at hqueued
      exact nomatch hqueued
  | note => exact ⟨ho.settling, ho.gaveBack⟩
  | fail =>
    refine ⟨fun number h => ?_, ho.gaveBack⟩
    split at h
    · exact nomatch h
    · exact ho.settling number h
  | expire _ hnoted =>
    refine ⟨?_, ho.gaveBack⟩
    rintro _ ⟨⟩
    exact hs.noted _ hnoted
  | expireLate => exact ⟨ho.settling, ho.gaveBack⟩
  | look =>
    refine ⟨fun number h => ?_, ho.gaveBack⟩
    cases hnoted : c.noted with
    | none =>
      rw [hnoted] at h
      exact nomatch h
    | some n =>
      rw [hnoted] at h
      cases h
      exact hs.noted _ hnoted
  | load hsearching =>
    refine ⟨?_, ho.gaveBack⟩
    rintro _ ⟨⟩
    exact htime hsearching
  | give hsettling =>
    refine ⟨nofun, fun number h => ?_⟩
    rcases List.mem_cons.1 h with rfl | h
    · exact ho.settling _ hsettling
    · exact ho.gaveBack number h

/-! ## What a call adds to a count -/

/-- Whether a call is counted on a connection. -/
def countsOn (c : Call) (number : Nat) : Bool :=
  c.isUnsettledOn number || c.isEnqueuingOn number

/-- A call that has given nothing back is counted where it has its ticket. -/
theorem countsOn_of_gaveBack_eq_nil (h : c.gaveBack = []) :
    c.countsOn m = decide (c.sending.ticket? = some m) := by
  rw [countsOn, isUnsettledOn, isEnqueuingOn, h]
  cases c.sending <;> simp [Sending.ticket?]

theorem countsOn_of_gaveBack_ne_nil (h : c.gaveBack ≠ []) : c.countsOn m = c.isEnqueuingOn m := by
  rw [countsOn, isUnsettledOn, List.isEmpty_eq_false_iff.2 h, Bool.and_false, Bool.false_or]

/-- A call that is over is counted nowhere. -/
theorem Sound.countsOn_of_over (hs : c.Sound) (hphase : c.phase ≠ .sending)
    (hover : c.ending = .settled ∨ c.ending = .dropped) : c.countsOn m = false := by
  by_cases hfailed : c.phase = .failed
  · have hticket := hs.failed hfailed
    have hne : ∀ s : Sending, s.ticket? ≠ none → c.sending ≠ s :=
      fun s hs' heq => hs' (heq ▸ hticket)
    rw [countsOn, isUnsettledOn, isEnqueuingOn, decide_eq_false (hne (.queued m) nofun),
      decide_eq_false (hne (.enqueuing m) nofun)]
    rfl
  · obtain ⟨number, hnoted⟩ := Option.isSome_iff_exists.1 (hs.returned hphase hfailed)
    have hsettled := hover.resolve_right fun h => hfailed (hs.dropped h)
    have hlength := hs.gaveBack
    rw [if_pos hsettled] at hlength
    rw [countsOn_of_gaveBack_ne_nil (List.ne_nil_of_length_eq_add_one hlength), isEnqueuingOn,
      hs.noted number hnoted]
    simp

/-- What a step of a call does to the counts is to count the call, or not to do so any more. -/
theorem Step.callsOn (hstep : Step a c a' c') (hs : c.Sound) (ho : c.Own)
    (hroute : ∀ number, c.sending.route? = some number → (a.connection? number).isSome)
    {n : Nat → Nat} (hcalls : ∀ m, a.callsOn m = n m + [c].countP (·.countsOn m)) (m : Nat) :
    a'.callsOn m = n m + c'.toList.countP (·.countsOn m) := by
  cases hstep with
  | send _ hsend =>
    have hnil : c.gaveBack = [] := by
      refine List.eq_nil_iff_forall_not_mem.2 fun number hmem => ?_
      have hqueued := hsend.queued?
      rw [ho.gaveBack number hmem] at hqueued
      exact nomatch hqueued
    simp only [List.countP_singleton, countsOn_of_gaveBack_eq_nil hnil, decide_eq_true_eq] at hcalls
    rw [Option.toList_some, List.countP_singleton, countsOn_of_gaveBack_eq_nil (by exact hnil)]
    simpa using hsend.callsOn hroute hcalls m
  | note | look | load => exact hcalls m
  | fail | expire | expireLate =>
    rw [Adapter.cancel]
    exact hcalls m
  | give hsettling =>
    have hqueued := ho.settling _ hsettling
    have hnil := hs.gaveBack_eq_nil (by simp [hsettling])
    simp only [List.countP_singleton, countsOn_of_gaveBack_eq_nil hnil, hqueued, Sending.ticket?,
      decide_eq_true_eq, Option.some.injEq] at hcalls
    rw [Adapter.callsOn_giveBack (f := Connection.finishCall) (fun _ => rfl) hcalls,
      Option.toList_some, List.countP_singleton, countsOn_of_gaveBack_ne_nil (by simp),
      isEnqueuingOn, hqueued]
    simp
  | leave hphase _ hover =>
    rw [hcalls, List.countP_singleton, hs.countsOn_of_over hphase hover]
    rfl

/-- The call finds its connection, and those of the others are still there. -/
theorem Step.isSome_connection? (hstep : Step a c a' c') (h : (a.connection? m).isSome) :
    (a'.connection? m).isSome := by
  cases hstep with
  | send _ hsend => rwa [hsend.isSome_connection?]
  | give => rwa [Adapter.isSome_connection?_modifyConnection]
  | _ => exact h

theorem Step.route (hstep : Step a c a' (some d))
    (hroute : ∀ number, c.sending.route? = some number → (a.connection? number).isSome)
    (number : Nat) (h : d.sending.route? = some number) : (a'.connection? number).isSome := by
  refine hstep.isSome_connection? ?_
  cases hstep with
  | send _ hsend =>
    obtain hold | rfl := hsend.route? h
    · exact hroute number hold
    · rw [a.connection?_current]
      rfl
  | _ => exact hroute number h

end Call

/-! ## All calls -/

/-- What is kept for the calls that are under way on an adapter. -/
structure Sound (a : Adapter) (calls : List Call) : Prop where
  distinct : (calls.map Call.id).Nodup
  slot : ∀ c ∈ calls, (a.pending.waiter? c.id).isSome ↔ c.ending = .waiting
  route : ∀ c ∈ calls, ∀ number, c.sending.route? = some number →
    (a.connection? number).isSome
  call : ∀ c ∈ calls, c.Sound

/-- What is kept as long as every callback finds the connection of its call. -/
structure Accounted (a : Adapter) (calls : List Call) : Prop where
  own : ∀ c ∈ calls, c.Own
  calls : ∀ m, a.callsOn m = calls.countP (·.countsOn m)

variable {a a' : Adapter} {c : Call} {c' : Option Call} {calls calls' rest : List Call}

namespace Sound

theorem nil (a : Adapter) : Sound a [] :=
  ⟨List.nodup_nil, fun _ hc => absurd hc List.not_mem_nil, fun _ hc => absurd hc List.not_mem_nil,
    fun _ hc => absurd hc List.not_mem_nil⟩

theorem perm (hs : Sound a calls) (h : calls.Perm calls') : Sound a calls' :=
  ⟨(h.map _).nodup_iff.1 hs.distinct, fun c hc => hs.slot c (h.mem_iff.2 hc),
    fun c hc => hs.route c (h.mem_iff.2 hc), fun c hc => hs.call c (h.mem_iff.2 hc)⟩

/-- A call takes a step, or goes. -/
theorem go (hs : Sound a (c :: rest)) (hstep : Call.Step a c a' c') :
    Sound a' (c'.toList ++ rest) := by
  have hne : ∀ d ∈ rest, d.id ≠ c.id := fun d hd heq =>
    (List.nodup_cons.1 hs.distinct).1 (heq ▸ List.mem_map_of_mem hd)
  have hslot := List.forall_mem_cons.1 hs.slot
  have hroute := List.forall_mem_cons.1 hs.route
  have hcall := List.forall_mem_cons.1 hs.call
  have hslots : ∀ d ∈ rest, (a'.pending.waiter? d.id).isSome ↔ d.ending = .waiting :=
    fun d hd => by
      rw [hstep.waiter? (hne d hd)]
      exact hslot.2 d hd
  have hroutes : ∀ d ∈ rest, ∀ number, d.sending.route? = some number →
      (a'.connection? number).isSome :=
    fun d hd number h => hstep.isSome_connection? (hroute.2 d hd number h)
  cases c' with
  | none => exact ⟨(List.nodup_cons.1 hs.distinct).2, hslots, hroutes, hcall.2⟩
  | some d =>
    refine ⟨?_, List.forall_mem_cons.2 ⟨?_, hslots⟩,
      List.forall_mem_cons.2 ⟨hstep.route hroute.1, hroutes⟩,
      List.forall_mem_cons.2 ⟨hcall.1.step hslot.1 hstep, hcall.2⟩⟩
    · have hdistinct := hs.distinct
      rw [List.map_cons, ← hstep.id_eq] at hdistinct
      exact hdistinct
    · rw [hstep.id_eq]
      exact hstep.slot hslot.1

/-- Slots and connections are as they were. -/
theorem of_pending (hs : Sound a calls) (hpending : a'.pending = a.pending)
    (hconnection : ∀ m, (a.connection? m).isSome → (a'.connection? m).isSome) : Sound a' calls :=
  ⟨hs.distinct, hpending ▸ hs.slot, fun c hc number h => hconnection _ (hs.route c hc number h),
    hs.call⟩

theorem start (hs : Sound a calls) {r : Request} (hfree : ∀ c ∈ calls, c.id ≠ r.requestId)
    (w : Waiter) : Sound (a.register r.requestId w) ({ request := r } :: calls) where
  distinct := by
    rw [List.map_cons, List.nodup_cons]
    refine ⟨fun hmem => ?_, hs.distinct⟩
    obtain ⟨c, hc, heq⟩ := List.mem_map.1 hmem
    exact hfree c hc heq
  slot := by
    refine List.forall_mem_cons.2 ⟨?_, fun c hc => ?_⟩
    · exact ⟨fun _ => rfl, fun _ => Option.isSome_iff_exists.2 ⟨w, Pending.waiter?_register_self⟩⟩
    · rw [Adapter.register, Pending.waiter?_register_of_ne (hfree c hc)]
      exact hs.slot c hc
  route := List.forall_mem_cons.2 ⟨nofun, hs.route⟩
  call := List.forall_mem_cons.2 ⟨.start r, hs.call⟩

/-- The answer to a call takes its slot out, and leaves the others alone. -/
theorem answer (hs : Sound a calls) {r : Response} {now : Nat} {w : Waiter}
    (h : (a.onResponse r now).1 = .answered w r) :
    Sound (a.onResponse r now).2 (calls.map (·.answer r.requestId)) := by
  obtain ⟨hsome, heq⟩ := Contest.onResponse_of_answered h
  rw [heq]
  refine ⟨?_, List.forall_mem_map.2 fun c hc => ?_, List.forall_mem_map.2 fun c hc => ?_,
    List.forall_mem_map.2 fun c hc => ?_⟩
  · rw [List.map_map]
    exact (List.map_congr_left fun c _ => Call.id_answer c _).symm ▸ hs.distinct
  · rw [Call.id_answer]
    by_cases hid : c.id = r.requestId
    · rw [Call.answer, if_pos hid, hid, Pending.waiter?_erase_self]
      exact ⟨nofun, nofun⟩
    · rw [Call.answer, if_neg hid, Pending.waiter?_erase_of_ne hid]
      exact hs.slot c hc
  · rw [Call.sending_answer]
    exact hs.route c hc
  · rw [Call.answer]
    split
    · next hid => exact (hs.call c hc).answered ((hs.slot c hc).1 (by rw [hid, hsome]; rfl))
    · exact hs.call c hc

end Sound

namespace Accounted

theorem nil (h : ∀ m, a.callsOn m = 0) : Accounted a [] :=
  ⟨fun _ hc => absurd hc List.not_mem_nil, h⟩

theorem perm (hs : Accounted a calls) (h : calls.Perm calls') : Accounted a calls' :=
  ⟨fun c hc => hs.own c (h.mem_iff.2 hc), fun m => (hs.calls m).trans (h.countP_eq _)⟩

/-- The counts are as they were. -/
theorem of_callsOn (hs : Accounted a calls) (h : ∀ m, a'.callsOn m = a.callsOn m) :
    Accounted a' calls :=
  ⟨hs.own, fun m => (h m).trans (hs.calls m)⟩

theorem start (hs : Accounted a calls) (r : Request) (w : Waiter) :
    Accounted (a.register r.requestId w) ({ request := r } :: calls) where
  own := List.forall_mem_cons.2 ⟨.start r, hs.own⟩
  calls m := by
    rw [List.countP_cons_of_neg (by simp [Call.countsOn_of_gaveBack_eq_nil, Sending.ticket?])]
    exact hs.calls m

theorem answer (hs : Accounted a calls) (id : Int32) :
    Accounted a (calls.map (·.answer id)) where
  own := List.forall_mem_map.2 fun c hc => by
    rw [Call.answer]
    split
    · exact (hs.own c hc).answered
    · exact hs.own c hc
  calls m := by
    rw [hs.calls, List.countP_map]
    refine List.countP_congr fun c _ => ?_
    simp [Call.countsOn, Call.isUnsettledOn, Call.isEnqueuingOn]

/-- A call takes a step, or goes. If its callback loads the current connection, this must be the one
    of the call. -/
theorem go (hacc : Accounted a (c :: rest)) (hs : Sound a (c :: rest))
    (htime : c.ending = .searching → c.sending = .queued a.current)
    (hstep : Call.Step a c a' c') : Accounted a' (c'.toList ++ rest) where
  own d hd := by
    rw [List.mem_append, Option.mem_toList] at hd
    rcases hd with rfl | hd
    · exact (hacc.own c (.head _)).step (hs.call c (.head _)) htime hstep
    · exact hacc.own d (.tail _ hd)
  calls m := by
    rw [List.countP_append, Nat.add_comm]
    refine hstep.callsOn (n := fun m => rest.countP (·.countsOn m)) (hs.call c (.head _))
      (hacc.own c (.head _)) (hs.route c (.head _)) (fun m => ?_) m
    rw [hacc.calls, Nat.add_comm, ← List.countP_append, List.singleton_append]

end Accounted

namespace Scene

variable {P : Scene → Prop} {s s' : Scene} {endpoint : Endpoint} {config : AdapterConfig}
  {now : Nat}

/-! ## Runs -/

/-- The connection that a callback will load is the one on which the request of its call was
    queued. -/
def InTime (s : Scene) : Prop :=
  ∀ c ∈ s.calls, c.ending = .searching → c.sending = .queued s.adapter.current

theorem sound_step (hs : Sound s.adapter s.calls) (hstep : Step s s') :
    Sound s'.adapter s'.calls := by
  cases hstep with
  | start _ hfree => exact hs.start hfree _
  | go _ _ hgo =>
    exact ((hs.perm List.perm_middle).go hgo).perm (List.perm_append_comm_assoc ..)
  | answer _ _ harrival => exact hs.answer harrival
  | swap now hopen => exact hs.of_pending rfl (s.adapter.apart_swap hopen now).connection
  | elsewhere h => exact hs.of_pending h.pending h.connection

theorem accounted_step (hacc : Accounted s.adapter s.calls) (hs : Sound s.adapter s.calls)
    (htime : s.InTime) (hstep : Step s s') : Accounted s'.adapter s'.calls := by
  cases hstep with
  | start => exact hacc.start _ _
  | go _ _ hgo =>
    exact ((hacc.perm List.perm_middle).go (hs.perm List.perm_middle)
      (htime _ (List.mem_append_right _ (.head _))) hgo).perm (List.perm_append_comm_assoc ..)
  | answer r now harrival =>
    refine (hacc.answer r.requestId).of_callsOn fun m => ?_
    exact (s.adapter.apart_onResponse r now).calls m
  | swap now hopen => exact hacc.of_callsOn (s.adapter.apart_swap hopen now).calls
  | elsewhere h => exact hacc.of_callsOn h.calls

theorem Run.sound (hrun : Run P ⟨.new endpoint config now, []⟩ s) : Sound s.adapter s.calls := by
  induction hrun with
  | refl => exact .nil _
  | tail _ hstep ih => exact sound_step ih hstep.1

theorem Run.accounted_inTime (hP : ∀ x, P x → x.InTime)
    (hrun : Run P ⟨.new endpoint config now, []⟩ s) :
    Accounted s.adapter s.calls ∧ s.InTime := by
  induction hrun with
  | refl => exact ⟨.nil (Adapter.callsOn_new _ _ _), fun c hc => absurd hc List.not_mem_nil⟩
  | tail hrun hstep ih =>
    exact ⟨accounted_step ih.1 (Run.sound hrun) ih.2 hstep.1, hP _ hstep.2⟩

/-- The counts at one moment of a run. -/
structure Settlement (P : Scene → Prop) (s : Scene) : Prop where
  /-- A callback or a timer gives one count back, and nobody gives back a second one. -/
  once : ∀ c ∈ s.calls, c.gaveBack.length = if c.ending = .settled then 1 else 0
  /-- A timer gives it back on the connection on which the request was queued. -/
  timedOut : ∀ c ∈ s.calls, c.phase = .timedOut → ∃ number, c.sending = .queued number ∧
    (c.ending = .settling number ∨ c.ending = .settled ∧ c.gaveBack = [number])
  /-- So does a callback, if every callback finds the connection of its call. -/
  own : (∀ x, P x → x.InTime) → ∀ c ∈ s.calls, ∀ number ∈ c.gaveBack, c.sending = .queued number
  /-- Then a connection counts the requests that it has queued and that are not settled, and the
      callers that wait for room in its queue. -/
  count : (∀ x, P x → x.InTime) → ∀ m, s.adapter.callsOn m =
    s.calls.countP (·.isUnsettledOn m) + s.calls.countP (·.isEnqueuingOn m)

theorem countP_countsOn (calls : List Call) (m : Nat) : calls.countP (·.countsOn m) =
    calls.countP (·.isUnsettledOn m) + calls.countP (·.isEnqueuingOn m) := by
  induction calls with
  | nil => rfl
  | cons c calls ih =>
    -- No call is both.
    have hc : ¬(c.isUnsettledOn m = true ∧ c.isEnqueuingOn m = true) := by
      simp only [Call.isUnsettledOn, Call.isEnqueuingOn, Bool.and_eq_true, decide_eq_true_eq]
      rintro ⟨⟨hqueued, -⟩, henqueuing⟩
      exact nomatch hqueued.symm.trans henqueuing
    rw [List.countP_cons, List.countP_cons, List.countP_cons, ih, Call.countsOn]
    cases hunsettled : c.isUnsettledOn m <;> cases henqueuing : c.isEnqueuingOn m
    · simp
    · simp
      omega
    · simp
      omega
    · exact absurd ⟨hunsettled, henqueuing⟩ hc

/-- Every call gives one count back, whatever comes in between. -/
theorem Run.settlement (hrun : Run P ⟨.new endpoint config now, []⟩ s) : Settlement P s where
  once c hc := (hrun.sound.call c hc).gaveBack
  timedOut c hc := (hrun.sound.call c hc).timedOut
  own hP c hc := ((hrun.accounted_inTime hP).1.own c hc).gaveBack
  count hP m := ((hrun.accounted_inTime hP).1.calls m).trans (countP_countsOn s.calls m)

/-- A call to be answered. -/
def request : Request := { (default : Request) with requestId := 7 }

/-- An adapter that has not dialled yet. -/
def fresh : Adapter := .new default { object := "" } 0

/-- The adapter when the request of a call has been queued. -/
def sent : Adapter :=
  ((fresh.register 7 (Expected.callback 7)).send (fun _ _ => .ok ()) request 0).2

/-- A call has queued its request, and has not noted the connection yet. -/
theorem run_queued (hP : ∀ s : Scene, (∀ c ∈ s.calls, c.ending = .waiting) → P s) :
    Run P ⟨fresh, []⟩ ⟨sent, [{ request, sending := .queued 0 }]⟩ := by
  have hstart : Run P ⟨fresh, []⟩ ⟨fresh.register 7 (Expected.callback 7), [{ request }]⟩ :=
    .single ⟨.start (r := request) rfl (fun c hc => absurd hc List.not_mem_nil),
      hP _ (List.forall_mem_singleton.2 rfl)⟩
  obtain ⟨s, hresult, hrun⟩ := exists_run_send (P := P) (c := { request })
    (a := fresh.register 7 (Expected.callback 7)) [] []
    (fun _ _ => hP _ (List.forall_mem_singleton.2 rfl)) rfl rfl rfl (fun _ _ => .ok ()) 0
  have hqueued : s = .queued 0 := Sending.eq_queued_of_result? hresult
  exact hstart.trans (hqueued ▸ hrun)

/-- The answer to the call. -/
def answer : Response := { (default : Response) with requestId := 7 }

/-- A call notes its connection, a directive comes, and then the answer. The count is given back on
    the connection that has been replaced. -/
theorem settlement_noted : ∃ s, Settlement InTime s ∧ s.adapter.current = 1 ∧
    s.adapter.callsOn 0 = 0 ∧ ∃ c ∈ s.calls, c.sending = .queued 0 ∧ c.gaveBack = [0] := by
  have queued : Run InTime ⟨fresh, []⟩ ⟨sent, [{ request, sending := .queued 0 }]⟩ :=
    run_queued fun s hs c hc hsearching => nomatch (hs c hc).symm.trans hsearching
  have noted := queued.tail ⟨.go [] [] (.note rfl rfl), List.forall_mem_singleton.2 nofun⟩
  have swapped := noted.tail ⟨.swap 0 rfl, List.forall_mem_singleton.2 nofun⟩
  have answered := swapped.tail ⟨.answer answer 0 rfl, List.forall_mem_singleton.2 nofun⟩
  have settling := answered.tail ⟨.go [] [] (.look rfl), List.forall_mem_singleton.2 nofun⟩
  have settled := settling.tail ⟨.go [] [] (.give rfl), List.forall_mem_singleton.2 nofun⟩
  exact ⟨_, Run.settlement settled, rfl, rfl, _, .head _, rfl, rfl⟩

/-- A call queues its request, a directive comes, and then the answer, before the call has noted its
    connection. The count is given back on the current connection, and the other one keeps it. -/
theorem not_counted : ¬ ∀ s, Run (fun _ => True) ⟨fresh, []⟩ s → ∀ m, s.adapter.callsOn m =
    s.calls.countP (·.isUnsettledOn m) + s.calls.countP (·.isEnqueuingOn m) := by
  intro hcount
  have queued : Run (fun _ => True) ⟨fresh, []⟩ ⟨sent, [{ request, sending := .queued 0 }]⟩ :=
    run_queued fun _ _ => trivial
  have swapped := queued.tail ⟨.swap 0 rfl, trivial⟩
  have answered := swapped.tail ⟨.answer answer 0 rfl, trivial⟩
  have searching := answered.tail ⟨.go [] [] (.look rfl), trivial⟩
  have loaded := searching.tail ⟨.go [] [] (.load rfl), trivial⟩
  have settled := loaded.tail ⟨.go [] [] (.give rfl), trivial⟩
  have noted := settled.tail ⟨.go [] [] (.note rfl rfl), trivial⟩
  have late := noted.tail ⟨.go [] [] (.expireLate rfl rfl), trivial⟩
  have left := late.tail ⟨.go [] [] (.leave nofun nofun (.inl rfl)), trivial⟩
  exact nomatch hcount _ left 0

end Scene

end Callbacks

end TaggedRpc
