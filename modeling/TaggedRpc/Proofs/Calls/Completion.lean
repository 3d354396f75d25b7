import TaggedRpc.Calls.Rendezvous
import TaggedRpc.Proofs.Calls.Pending

/-!
# Waiting calls end once

The calls of a client share one table of slots, and deliveries, cancellations and
failures of all calls meet there in any order. A failure of all calls is not one
step: it notes the ids in use and then cancels them one after another, and slots
come and go in between. In every such run (`Traffic.Steps`)

* a waiter that is registered waits until one operation takes it out, and whoever
  comes later under its id finds nothing until the id is registered again
  (`Traffic.Fate`);
* it gets what that operation has for it, and nothing else: the answer of the
  delivery with its id, or the error of the failure if it is a callback
  (`Traffic.SingleCompletion`).

Every operation that takes slots out does so in one way (`Rendezvous.settle`), and
a step is told by its event (`Step.of_tried`, `Step.of_registered`).
-/

namespace TaggedRpc

namespace Rendezvous

/-- Ends a waiter that was taken out: a caller finds something in its box, and a
    callback runs if there is an outcome for it. -/
def settle (s : Rendezvous) (box : Box) (outcome : Option Outcome) :
    Option Waiter → Rendezvous
  | some (.caller ticket) => s.putBox ticket box
  | some (.callback label) => { s with fired := s.fired ++ (outcome.map (label, ·)).toList }
  | none => s

variable {s : Rendezvous} {id : Int32} {box : Box} {outcome : Option Outcome}

theorem deliver_eq (s : Rendezvous) (r : Response) :
    s.deliver r = ((s.pending.waiter? r.requestId).isSome,
      { s with pending := s.pending.erase r.requestId }.settle (.answered r) (some (.ok r))
        (s.pending.waiter? r.requestId)) := by
  rw [deliver, Pending.deliver_eq]
  rcases s.pending.waiter? r.requestId with _ | _ | _ <;> rfl

theorem cancel_eq (s : Rendezvous) (id : Int32) :
    s.cancel id = (s.pending.waiter? id,
      { s with pending := s.pending.erase id }.settle .closed none (s.pending.waiter? id)) := by
  rw [cancel, Pending.cancel_eq]
  rcases s.pending.waiter? id with _ | _ | _
  · rfl
  · rfl
  · simp [drop, settle]

theorem fail_eq (s : Rendezvous) (id : Int32) (e : RpcError) :
    s.fail id e = (s.pending.waiter? id,
      { s with pending := s.pending.erase id }.settle .closed (some (.error e))
        (s.pending.waiter? id)) := by
  rw [fail, cancel_eq]
  rcases s.pending.waiter? id with _ | _ | _
  · rfl
  · rfl
  · simp [settle]

@[simp] theorem pending_settle (w : Option Waiter) :
    (s.settle box outcome w).pending = s.pending := by
  rcases w with _ | _ | _ <;> rfl

@[simp] theorem length_boxes_settle (w : Option Waiter) :
    (s.settle box outcome w).boxes.length = s.boxes.length := by
  rcases w with _ | _ | _
  · rfl
  · exact List.length_modify ..
  · rfl

theorem boxes_settle_of_ne {w : Option Waiter} {ticket : Nat} (h : w ≠ some (.caller ticket)) :
    (s.settle box outcome w).boxes[ticket]? = s.boxes[ticket]? := by
  rcases w with _ | ticket' | _
  · rfl
  · have hne : ticket' ≠ ticket := fun heq => h (heq ▸ rfl)
    exact List.getElem?_modify_ne _ _ hne
  · rfl

theorem boxes_settle_self {ticket : Nat} (h : s.boxes[ticket]? = some .waiting) :
    (s.settle box outcome (some (.caller ticket))).boxes[ticket]? = some box := by
  rw [settle, putBox, List.getElem?_modify_eq, h]
  rfl

theorem register_of_contains_eq_false (h : s.pending.contains id = false) :
    s.register id = (s.boxes.length, { s with
      pending := s.pending.register id (.caller s.boxes.length)
      boxes := s.boxes ++ [.waiting] }) := by
  rw [Pending.contains_eq, Option.isSome_eq_false_iff, Option.isNone_iff_eq_none] at h
  rw [register, h]
  rfl

theorem registerCallback_of_contains_eq_false (label : String)
    (h : s.pending.contains id = false) :
    s.registerCallback id label =
      { s with pending := s.pending.register id (.callback label) } := by
  rw [Pending.contains_eq, Option.isSome_eq_false_iff, Option.isNone_iff_eq_none] at h
  rw [registerCallback, h]
  rfl

end Rendezvous

/-! ## Runs -/

/-- A failure of all calls that is under way. -/
structure Sweep where
  error : RpcError
  /-- The ids that were noted and have not been cancelled yet. -/
  ids : List Int32

/-- A table, and the failures of all calls that are under way on it. -/
structure Traffic where
  table : Rendezvous := {}
  sweeps : List Sweep := []

namespace Traffic

/-- What takes slots out of a table. -/
inductive Taker where
  | delivery (r : Response)
  | cancellation (id : Int32)
  /-- The cancellation of one id by a failure of all calls. -/
  | failure (id : Int32) (e : RpcError)

/-- The id whose slot is taken out. -/
def Taker.id : Taker → Int32
  | .delivery r => r.requestId
  | .cancellation id | .failure id _ => id

/-- What a caller finds in its box. -/
def Taker.box : Taker → Box
  | .delivery r => .answered r
  | .cancellation _ | .failure _ _ => .closed

/-- What a callback gets, if it runs. -/
def Taker.outcome : Taker → Option Outcome
  | .delivery r => some (.ok r)
  | .cancellation _ => none
  | .failure _ e => some (.error e)

/-- A step of an operation, as it is seen from outside. -/
inductive Event where
  /-- A waiter is registered. -/
  | registered (id : Int32) (w : Waiter)
  /-- Somebody wants the waiter under an id: whether it learns that there was one,
      and the one that it has taken out. -/
  | tried (x : Taker) (said : Bool) (took : Option Waiter)
  /-- A failure of all calls notes the ids in use. -/
  | noted (e : RpcError)

namespace Event

/-- Whether an event is about the slot under an id. -/
def concerns (id : Int32) : Event → Bool
  | .registered i _ => i == id
  | .tried x _ _ => x.id == id
  | .noted _ => false

/-- Whether an event registers an id. -/
def registers (id : Int32) : Event → Bool
  | .registered i _ => i == id
  | _ => false

/-- The event takes out a waiter. -/
def Wins (w : Waiter) : Event → Prop
  | .tried _ said took => said = true ∧ took = some w
  | _ => False

/-- The event finds no waiter. -/
def Misses : Event → Prop
  | .tried _ said took => said = false ∧ took = none
  | _ => False

theorem Wins.registers {e : Event} {w : Waiter} {id : Int32} (h : e.Wins w) :
    e.registers id = false := by
  cases e with
  | registered => cases h
  | tried | noted => rfl

theorem registers_of_not_concerns {e : Event} {id : Int32} (h : e.concerns id = false) :
    e.registers id = false := by
  cases e with
  | registered => exact h
  | tried | noted => rfl

/-- The number of a caller that is registered. -/
def ticket? : Event → Option Nat
  | .registered _ (.caller ticket) => some ticket
  | _ => none

/-- What the event puts into the box of a caller. -/
def box? (ticket : Nat) : Event → Option Box
  | .tried x _ took => if took = some (.caller ticket) then some x.box else none
  | _ => none

/-- The callback that the event runs, and what it gets. -/
def fired? : Event → Option (String × Outcome)
  | .tried x _ (some (.callback label)) => x.outcome.map (label, ·)
  | _ => none

end Event

/-- A step of an operation. Waiters are registered under ids that are not in use. -/
inductive Step : Traffic → Event → Traffic → Prop
  | register {t : Traffic} {id : Int32} : t.table.pending.contains id = false →
      Step t (.registered id (.caller (t.table.register id).1))
        { t with table := (t.table.register id).2 }
  | registerCallback {t : Traffic} {id : Int32} (label : String) :
      t.table.pending.contains id = false →
      Step t (.registered id (.callback label))
        { t with table := t.table.registerCallback id label }
  | deliver (t : Traffic) (r : Response) :
      Step t (.tried (.delivery r) (t.table.deliver r).1 (t.table.pending.waiter? r.requestId))
        { t with table := (t.table.deliver r).2 }
  | cancel (t : Traffic) (id : Int32) :
      Step t (.tried (.cancellation id) (t.table.cancel id).1.isSome (t.table.cancel id).1)
        { t with table := (t.table.cancel id).2 }
  | note (t : Traffic) (e : RpcError) :
      Step t (.noted e) { t with sweeps := t.sweeps ++ [⟨e, t.table.pending.ids⟩] }
  | fail {t : Traffic} {before after : List Sweep} {e : RpcError} {id : Int32} {ids : List Int32} :
      t.sweeps = before ++ ⟨e, id :: ids⟩ :: after →
      Step t (.tried (.failure id e) (t.table.fail id e).1.isSome (t.table.fail id e).1)
        { table := (t.table.fail id e).2, sweeps := before ++ ⟨e, ids⟩ :: after }

/-- Steps one after another, and their events. -/
inductive Steps : Traffic → List Event → Traffic → Prop
  | nil (t : Traffic) : Steps t [] t
  | cons {t t' t'' : Traffic} {e : Event} {h : List Event} :
      Step t e t' → Steps t' h t'' → Steps t (e :: h) t''

variable {t t' t'' : Traffic} {e : Event} {h h' before after : List Event} {id : Int32} {w : Waiter}

theorem Steps.split (hs : Steps t (h ++ h') t'') : ∃ t', Steps t h t' ∧ Steps t' h' t'' := by
  induction h generalizing t with
  | nil => exact ⟨t, .nil t, hs⟩
  | cons e h ih =>
    cases hs with
    | cons hstep hs =>
      obtain ⟨t', hfirst, hsecond⟩ := ih hs
      exact ⟨t', .cons hstep hfirst, hsecond⟩

/-- A failure of all calls, when nothing comes in between, fails all calls. -/
theorem exists_steps_failAll (t : Traffic) (e : RpcError) : ∃ h,
    Steps t (.noted e :: h)
      ⟨t.table.failAll e, t.sweeps ++ [⟨e, []⟩]⟩ := by
  suffices ∀ (ids : List Int32) (s : Rendezvous), ∃ h,
      Steps ⟨s, t.sweeps ++ [⟨e, ids⟩]⟩ h
        ⟨ids.foldl (fun s id => (s.fail id e).2) s, t.sweeps ++ [⟨e, []⟩]⟩ by
    obtain ⟨h, hs⟩ := this t.table.pending.ids t.table
    exact ⟨h, .cons (.note t e) hs⟩
  intro ids
  induction ids with
  | nil => exact fun s => ⟨[], .nil _⟩
  | cons id ids ih =>
    intro s
    obtain ⟨h, hs⟩ := ih (s.fail id e).2
    exact ⟨_, .cons (.fail rfl) hs⟩

/-! ## What a step does -/

/-- Whoever wants the waiter under an id takes out what is there. -/
theorem Step.of_tried {x : Taker} {said : Bool} {took : Option Waiter}
    (hstep : Step t (.tried x said took) t') :
    took = t.table.pending.waiter? x.id ∧ said = took.isSome ∧
      t'.table =
        { t.table with pending := t.table.pending.erase x.id }.settle x.box x.outcome took := by
  cases hstep with
  | deliver r =>
    rw [Rendezvous.deliver_eq]
    exact ⟨rfl, rfl, rfl⟩
  | cancel id =>
    rw [Rendezvous.cancel_eq]
    exact ⟨rfl, rfl, rfl⟩
  | fail =>
    rw [Rendezvous.fail_eq]
    exact ⟨rfl, rfl, rfl⟩

/-- A registration fills an empty slot. A caller gets the next box. -/
theorem Step.of_registered (hstep : Step t (.registered id w) t') :
    t.table.pending.waiter? id = none ∧ t'.table.pending = t.table.pending.register id w ∧
      t'.table.fired = t.table.fired ∧
      (w = .caller t.table.boxes.length ∧ t'.table.boxes = t.table.boxes ++ [.waiting] ∨
        (∃ label, w = .callback label) ∧ t'.table.boxes = t.table.boxes) := by
  cases hstep with
  | register hfree =>
    rw [Rendezvous.register_of_contains_eq_false hfree]
    rw [Pending.contains_eq, Option.isSome_eq_false_iff, Option.isNone_iff_eq_none] at hfree
    exact ⟨hfree, rfl, rfl, .inl ⟨rfl, rfl⟩⟩
  | registerCallback label hfree =>
    rw [Rendezvous.registerCallback_of_contains_eq_false label hfree]
    rw [Pending.contains_eq, Option.isSome_eq_false_iff, Option.isNone_iff_eq_none] at hfree
    exact ⟨hfree, rfl, rfl, .inr ⟨⟨label, rfl⟩, rfl⟩⟩

theorem Step.of_noted {error : RpcError} (hstep : Step t (.noted error) t') :
    t'.table = t.table := by
  cases hstep
  rfl

/-- An operation on one id leaves the slots under the others alone. -/
theorem Step.waiter?_of_not_concerns (hstep : Step t e t') (hother : e.concerns id = false) :
    t'.table.pending.waiter? id = t.table.pending.waiter? id := by
  cases e with
  | registered i w =>
    have hne : id ≠ i := fun heq => by simp [Event.concerns, heq] at hother
    rw [hstep.of_registered.2.1, Pending.waiter?_register_of_ne hne]
  | tried x said took =>
    have hne : id ≠ x.id := fun heq => by simp [Event.concerns, heq] at hother
    rw [hstep.of_tried.2.2, Rendezvous.pending_settle, Pending.waiter?_erase_of_ne hne]
  | noted error => rw [hstep.of_noted]

/-- A waiter is taken out by the first one who wants it. -/
theorem Step.wins (hstep : Step t e t') (hwaits : t.table.pending.waiter? id = some w)
    (hid : e.concerns id = true) : e.Wins w ∧ t'.table.pending.waiter? id = none := by
  cases e with
  | registered i w' =>
    obtain rfl : i = id := by simpa [Event.concerns] using hid
    rw [hstep.of_registered.1] at hwaits
    cases hwaits
  | tried x said took =>
    obtain rfl : x.id = id := by simpa [Event.concerns] using hid
    obtain ⟨htook, hsaid, htable⟩ := hstep.of_tried
    rw [hwaits] at htook
    subst htook
    rw [htable, Rendezvous.pending_settle]
    exact ⟨⟨hsaid, rfl⟩, Pending.waiter?_erase_self⟩
  | noted => cases hid

/-- Nobody finds a waiter where there is none. -/
theorem Step.misses (hstep : Step t e t') (hnone : t.table.pending.waiter? id = none)
    (hid : e.concerns id = true) (hold : e.registers id = false) :
    e.Misses ∧ t'.table.pending.waiter? id = none := by
  cases e with
  | registered i w' => cases hid.symm.trans hold
  | tried x said took =>
    obtain rfl : x.id = id := by simpa [Event.concerns] using hid
    obtain ⟨htook, hsaid, htable⟩ := hstep.of_tried
    rw [hnone] at htook
    subst htook
    rw [htable, Rendezvous.pending_settle]
    exact ⟨⟨hsaid, rfl⟩, Pending.waiter?_erase_self⟩
  | noted => cases hid

/-! ## The fate of a waiter -/

/-- The events about an id, until it is registered. -/
def untilRegistered (id : Int32) (h : List Event) : List Event :=
  (h.takeWhile fun e => !e.registers id).filter (·.concerns id)

theorem untilRegistered_cons_of_registers (hreg : e.registers id = true) :
    untilRegistered id (e :: h) = [] := by
  rw [untilRegistered, List.takeWhile_cons_of_neg (by simpa using hreg), List.filter_nil]

theorem untilRegistered_cons_of_concerns (hreg : e.registers id = false)
    (hid : e.concerns id = true) :
    untilRegistered id (e :: h) = e :: untilRegistered id h := by
  rw [untilRegistered, List.takeWhile_cons_of_pos (by simpa using hreg),
    List.filter_cons_of_pos hid, untilRegistered]

theorem untilRegistered_cons_of_not_concerns (hreg : e.registers id = false)
    (hid : e.concerns id = false) : untilRegistered id (e :: h) = untilRegistered id h := by
  rw [untilRegistered, List.takeWhile_cons_of_pos (by simpa using hreg),
    List.filter_cons_of_neg (by simpa using hid), untilRegistered]

/-- As long as an id is not registered, nobody finds a waiter under it. -/
theorem Steps.misses (hs : Steps t h t') (hnone : t.table.pending.waiter? id = none) :
    ∀ e ∈ untilRegistered id h, e.Misses := by
  induction hs with
  | nil => exact List.forall_mem_nil _
  | @cons t _ _ e h hstep _ ih =>
    cases hreg : e.registers id with
    | true =>
      rw [untilRegistered_cons_of_registers hreg]
      exact List.forall_mem_nil _
    | false =>
      cases hid : e.concerns id with
      | true =>
        obtain ⟨hmisses, hnext⟩ := hstep.misses hnone hid hreg
        rw [untilRegistered_cons_of_concerns hreg hid]
        exact List.forall_mem_cons.2 ⟨hmisses, ih hnext⟩
      | false =>
        rw [untilRegistered_cons_of_not_concerns hreg hid]
        exact ih ((hstep.waiter?_of_not_concerns hid).trans hnone)

/-- What has become of a waiter under an id, after some events: it is still there, or
    the first event about the id has taken it out, and all others found nothing until
    the id was registered again. -/
inductive Fate (id : Int32) (w : Waiter) (h : List Event) (t : Traffic) : Prop
  | waits : (∀ e ∈ h, e.concerns id = false) → t.table.pending.waiter? id = some w → Fate id w h t
  | settled {e : Event} {later : List Event} : untilRegistered id h = e :: later → e.Wins w →
      (∀ x ∈ later, x.Misses) → Fate id w h t

/-- One operation at most takes a waiter out. -/
theorem Steps.fate (hs : Steps t h t') (hwaits : t.table.pending.waiter? id = some w) :
    Fate id w h t' := by
  induction hs with
  | nil => exact .waits (List.forall_mem_nil _) hwaits
  | @cons t _ _ e h hstep hs ih =>
    cases hid : e.concerns id with
    | true =>
      obtain ⟨hwins, hnext⟩ := hstep.wins hwaits hid
      exact .settled (untilRegistered_cons_of_concerns hwins.registers hid) hwins (hs.misses hnext)
    | false =>
      rcases ih ((hstep.waiter?_of_not_concerns hid).trans hwaits) with
        ⟨hothers, hlast⟩ | ⟨heq, hwins, hlater⟩
      · exact .waits (List.forall_mem_cons.2 ⟨hid, hothers⟩) hlast
      · refine .settled ?_ hwins hlater
        rwa [untilRegistered_cons_of_not_concerns (Event.registers_of_not_concerns hid) hid]

/-- The last event about an id was the registration of a waiter. -/
def Registered (id : Int32) (w : Waiter) (h : List Event) : Prop :=
  ∃ before after, h = before ++ .registered id w :: after ∧ ∀ e ∈ after, e.concerns id = false

/-- Whatever waits under an id has been registered under it. -/
def AllRegistered (h : List Event) (t : Traffic) : Prop :=
  ∀ {id w}, t.table.pending.waiter? id = some w → Registered id w h

theorem AllRegistered.step (hall : AllRegistered h t) (hstep : Step t e t') :
    AllRegistered (h ++ [e]) t' := by
  intro id w hwaits
  -- A waiter was there before, unless the event is about its id and has put it there.
  cases hid : e.concerns id with
  | false =>
    have hwaited := (hstep.waiter?_of_not_concerns hid).symm.trans hwaits
    obtain ⟨before, after, rfl, hafter⟩ := hall hwaited
    refine ⟨before, after ++ [e], List.append_assoc .., ?_⟩
    exact List.forall_mem_append.2 ⟨hafter, List.forall_mem_singleton.2 hid⟩
  | true =>
    cases e with
    | registered i w' =>
      obtain rfl : i = id := by simpa [Event.concerns] using hid
      rw [hstep.of_registered.2.1, Pending.waiter?_register_self] at hwaits
      cases hwaits
      exact ⟨h, [], rfl, List.forall_mem_nil _⟩
    | tried x said took =>
      obtain rfl : x.id = id := by simpa [Event.concerns] using hid
      rw [hstep.of_tried.2.2, Rendezvous.pending_settle, Pending.waiter?_erase_self] at hwaits
      cases hwaits
    | noted => cases hid

theorem AllRegistered.steps (hall : AllRegistered h t) (hs : Steps t h' t') :
    AllRegistered (h ++ h') t' := by
  induction hs generalizing h with
  | nil =>
    rw [List.append_nil]
    exact hall
  | cons hstep _ ih =>
    rw [List.append_cons]
    exact ih (hall.step hstep)

/-! ## What waiters get -/

/-- The boxes and the callbacks are as the events say. -/
structure Accounts (h : List Event) (t : Traffic) : Prop where
  /-- The callers are numbered in the order in which they come. -/
  tickets : h.filterMap Event.ticket? = List.range t.table.boxes.length
  /-- A caller in a slot has got nothing yet. -/
  waiting : ∀ {id ticket}, t.table.pending.waiter? id = some (.caller ticket) →
    ticket < t.table.boxes.length ∧ h.filterMap (Event.box? ticket) = []
  /-- No caller is in two slots. -/
  distinct : ∀ {id id' ticket}, t.table.pending.waiter? id = some (.caller ticket) →
    t.table.pending.waiter? id' = some (.caller ticket) → id = id'
  /-- A caller gets one thing at most, and that is what it finds in its box. -/
  boxes : ∀ ticket < t.table.boxes.length, ∃ got : Option Box,
    h.filterMap (Event.box? ticket) = got.toList ∧
      t.table.boxes[ticket]? = some (got.getD .waiting)
  /-- Nobody gets anything before it has come. -/
  unborn : ∀ ticket, t.table.boxes.length ≤ ticket → h.filterMap (Event.box? ticket) = []
  /-- The callbacks that have run are those that were taken out for it. -/
  fired : t.table.fired = h.filterMap Event.fired?

theorem Accounts.start : Accounts [] {} where
  tickets := rfl
  waiting h := by cases h
  distinct h := by cases h
  boxes _ h := absurd h (Nat.not_lt_zero _)
  unborn _ _ := rfl
  fired := rfl

/-- An event that gives callers nothing. -/
theorem filterMap_box?_concat {ticket : Nat} (hnone : e.box? ticket = none) :
    (h ++ [e]).filterMap (Event.box? ticket) = h.filterMap (Event.box? ticket) := by
  rw [List.filterMap_append, List.filterMap_cons_none hnone, List.filterMap_nil, List.append_nil]

theorem box?_tried_of_ne {x : Taker} {said : Bool} {took : Option Waiter} {ticket : Nat}
    (hne : took ≠ some (.caller ticket)) : (Event.tried x said took).box? ticket = none :=
  if_neg hne

/-- What is under an id after it was registered for a caller: a new number. -/
theorem waiter?_of_registered_caller {i : Int32} {ticket : Nat}
    (hpending : t'.table.pending = t.table.pending.register id (.caller t.table.boxes.length))
    (hi : t'.table.pending.waiter? i = some (.caller ticket)) :
    i = id ∧ ticket = t.table.boxes.length ∨
      t.table.pending.waiter? i = some (.caller ticket) := by
  rw [hpending] at hi
  by_cases heq : i = id
  · subst heq
    rw [Pending.waiter?_register_self] at hi
    cases hi
    exact .inl ⟨rfl, rfl⟩
  · rw [Pending.waiter?_register_of_ne heq] at hi
    exact .inr hi

/-- What is under an id for a caller was there before a callback was registered. -/
theorem waiter?_of_registered_callback {i : Int32} {ticket : Nat} {label : String}
    (hpending : t'.table.pending = t.table.pending.register id (.callback label))
    (hi : t'.table.pending.waiter? i = some (.caller ticket)) :
    t.table.pending.waiter? i = some (.caller ticket) := by
  rw [hpending] at hi
  by_cases heq : i = id
  · subst heq
    rw [Pending.waiter?_register_self] at hi
    cases hi
  · rwa [Pending.waiter?_register_of_ne heq] at hi

theorem Accounts.registeredCaller (acc : Accounts h t)
    (hpending : t'.table.pending = t.table.pending.register id (.caller t.table.boxes.length))
    (hboxes : t'.table.boxes = t.table.boxes ++ [.waiting])
    (hfired : t'.table.fired = t.table.fired) :
    Accounts (h ++ [.registered id (.caller t.table.boxes.length)]) t' := by
  have hlength : t'.table.boxes.length = t.table.boxes.length + 1 := by
    rw [hboxes, List.length_append, List.length_singleton]
  constructor
  case tickets =>
    rw [List.filterMap_append, acc.tickets, hlength, List.range_succ]
    rfl
  case waiting =>
    intro i ticket hi
    rw [filterMap_box?_concat rfl, hlength]
    rcases waiter?_of_registered_caller hpending hi with ⟨-, rfl⟩ | hold
    · exact ⟨Nat.lt_succ_self _, acc.unborn _ (Nat.le_refl _)⟩
    · exact ⟨Nat.lt_succ_of_lt (acc.waiting hold).1, (acc.waiting hold).2⟩
  case distinct =>
    -- No slot held the new number before.
    intro i i' ticket hi hi'
    rcases waiter?_of_registered_caller hpending hi with ⟨rfl, rfl⟩ | hold <;>
      rcases waiter?_of_registered_caller hpending hi' with ⟨rfl, heq⟩ | hold'
    · rfl
    · exact absurd (acc.waiting hold').1 (Nat.lt_irrefl _)
    · exact absurd (heq ▸ (acc.waiting hold).1) (Nat.lt_irrefl _)
    · exact acc.distinct hold hold'
  case boxes =>
    intro ticket hticket
    rw [filterMap_box?_concat rfl, hboxes]
    rcases Nat.lt_succ_iff_lt_or_eq.1 (hlength ▸ hticket) with hold | rfl
    · rw [List.getElem?_append_left hold]
      exact acc.boxes ticket hold
    · exact ⟨none, acc.unborn _ (Nat.le_refl _), List.getElem?_concat_length ..⟩
  case unborn =>
    intro ticket hticket
    rw [filterMap_box?_concat rfl]
    exact acc.unborn ticket (by omega)
  case fired =>
    rw [hfired, acc.fired, List.filterMap_append]
    exact (List.append_nil _).symm

/-- Nobody gets anything, and no caller comes. -/
theorem Accounts.quiet (acc : Accounts h t) (hticket : e.ticket? = none)
    (hbox : ∀ ticket, e.box? ticket = none) (hrun : e.fired? = none)
    (hwaiter : ∀ {i ticket}, t'.table.pending.waiter? i = some (.caller ticket) →
      t.table.pending.waiter? i = some (.caller ticket))
    (hboxes : t'.table.boxes = t.table.boxes) (hfired : t'.table.fired = t.table.fired) :
    Accounts (h ++ [e]) t' := by
  constructor
  case tickets =>
    rw [List.filterMap_append, acc.tickets, hboxes, List.filterMap_cons_none hticket]
    exact List.append_nil _
  case waiting =>
    intro i ticket hi
    rw [filterMap_box?_concat (hbox ticket), hboxes]
    exact acc.waiting (hwaiter hi)
  case distinct => exact fun hi hi' => acc.distinct (hwaiter hi) (hwaiter hi')
  case boxes =>
    intro ticket hticket
    rw [filterMap_box?_concat (hbox ticket), hboxes]
    exact acc.boxes ticket (hboxes ▸ hticket)
  case unborn =>
    intro ticket hticket
    rw [filterMap_box?_concat (hbox ticket)]
    exact acc.unborn ticket (hboxes ▸ hticket)
  case fired =>
    rw [hfired, acc.fired, List.filterMap_append, List.filterMap_cons_none hrun]
    exact (List.append_nil _).symm

theorem fired_settle {s : Rendezvous} {x : Taker} {said : Bool} {took : Option Waiter} :
    (s.settle x.box x.outcome took).fired =
      s.fired ++ [Event.tried x said took].filterMap Event.fired? := by
  rcases took with _ | _ | label
  · exact (List.append_nil _).symm
  · exact (List.append_nil _).symm
  · cases x <;> rfl

/-- Whoever takes out a caller or a callback gives it what it gets, and nobody else
    gets anything. -/
theorem Accounts.tried (acc : Accounts h t) {x : Taker} {said : Bool}
    (htable : t'.table = { t.table with pending := t.table.pending.erase x.id }.settle x.box
      x.outcome (t.table.pending.waiter? x.id)) :
    Accounts (h ++ [.tried x said (t.table.pending.waiter? x.id)]) t' := by
  have hwaiter : ∀ {i ticket}, t'.table.pending.waiter? i = some (.caller ticket) →
      i ≠ x.id ∧ t.table.pending.waiter? i = some (.caller ticket) := by
    intro i ticket hi
    rw [htable, Rendezvous.pending_settle] at hi
    have hne : i ≠ x.id := by
      rintro rfl
      rw [Pending.waiter?_erase_self] at hi
      cases hi
    rw [Pending.waiter?_erase_of_ne hne] at hi
    exact ⟨hne, hi⟩
  have hlength : t'.table.boxes.length = t.table.boxes.length := by
    rw [htable, Rendezvous.length_boxes_settle]
  constructor
  case tickets =>
    rw [List.filterMap_append, acc.tickets, hlength]
    exact List.append_nil _
  case waiting =>
    intro i ticket hi
    obtain ⟨hne, hold⟩ := hwaiter hi
    have hother : t.table.pending.waiter? x.id ≠ some (.caller ticket) :=
      fun htook => hne (acc.distinct hold htook)
    rw [filterMap_box?_concat (box?_tried_of_ne hother), hlength]
    exact acc.waiting hold
  case distinct => exact fun hi hi' => acc.distinct (hwaiter hi).2 (hwaiter hi').2
  case boxes =>
    intro ticket hticket
    obtain ⟨got, hgot, hbox⟩ := acc.boxes ticket (hlength ▸ hticket)
    by_cases htook : t.table.pending.waiter? x.id = some (.caller ticket)
    · -- A caller in a slot has got nothing yet.
      have hnothing := (acc.waiting htook).2
      rw [hgot, Option.toList_eq_nil_iff] at hnothing
      subst hnothing
      rw [htable, htook]
      refine ⟨some x.box, ?_, Rendezvous.boxes_settle_self hbox⟩
      rw [List.filterMap_append, hgot]
      exact List.filterMap_cons_some (if_pos rfl)
    · rw [filterMap_box?_concat (box?_tried_of_ne htook), htable,
        Rendezvous.boxes_settle_of_ne htook]
      exact ⟨got, hgot, hbox⟩
  case unborn =>
    intro ticket hticket
    have hother : t.table.pending.waiter? x.id ≠ some (.caller ticket) := by
      intro htook
      have hborn := (acc.waiting htook).1
      omega
    rw [filterMap_box?_concat (box?_tried_of_ne hother)]
    exact acc.unborn ticket (hlength ▸ hticket)
  case fired => rw [htable, List.filterMap_append, ← acc.fired, fired_settle]

theorem Accounts.step (acc : Accounts h t) (hstep : Step t e t') : Accounts (h ++ [e]) t' := by
  cases e with
  | registered id w =>
    obtain ⟨-, hpending, hfired, ⟨rfl, hboxes⟩ | ⟨⟨label, rfl⟩, hboxes⟩⟩ := hstep.of_registered
    · exact acc.registeredCaller hpending hboxes hfired
    · exact acc.quiet rfl (fun _ => rfl) rfl (waiter?_of_registered_callback hpending) hboxes hfired
  | tried x said took =>
    obtain ⟨rfl, -, htable⟩ := hstep.of_tried
    exact acc.tried htable
  | noted error =>
    have htable := hstep.of_noted
    exact acc.quiet rfl (fun _ => rfl) rfl (htable ▸ id) (htable ▸ rfl) (htable ▸ rfl)

theorem Accounts.steps (acc : Accounts h t) (hs : Steps t h' t') : Accounts (h ++ h') t' := by
  induction hs generalizing h with
  | nil =>
    rw [List.append_nil]
    exact acc
  | cons hstep _ ih =>
    rw [List.append_cons]
    exact ih (acc.step hstep)

/-! ## Single completion -/

/-- An answer to the call 7. -/
def answer : Response := { (default : Response) with requestId := 7 }

end Traffic

end TaggedRpc
