import TaggedRpc.Connection.Basic

/-!
# Connections among threads

Callers connect, reconnect, send and shut down at once, and every socket has a loop that
writes and one that reads. `Connection` has each operation as one step; here each is a *task* that
takes one atomic step after another, and a *scene* is a connection with the tasks and loops that
are under way (`Connection.Scene.Step`).

* A task sees that the connection is open, waits for the *dial lock* if no socket is live, dials,
  sees again that the connection is open, and then makes its socket the live one. It draws the
  number of the socket under the lock, so that this is one step.
* A task that sends then takes a ticket, if it expects an answer, and waits for room in the queue.
* To shut down is to close the connection and then to take the live socket. To drain ends so too.
* Whoever takes the live socket *tells* its loops to end. They may notice late.
* The loop that writes waits for the queue, which the loop of an older socket may still hold, looks
  for a parked frame, and then takes one frame after another. If a write fails it parks the frame.
  It ends by closing its socket, and then lets go of the queue.
* The loop that reads ends by closing its socket.

A future can be dropped while it waits for the lock, for a dial or for room in the queue.

A run leaves a *history* of the frames that were accepted by the queue and of the attempts to write
them (`Connection.Scene.Run`). When nothing comes in between, the steps of a task add up to the
operation (`Connection.Scene.exists_run_send` and its neighbours).
-/

namespace TaggedRpc

namespace Outbound

variable {o o' : Outbound} {generation : Nat}

/-- The loop of a socket gets the queue, if no other one holds it. -/
def hold? (o : Outbound) (generation : Nat) : Option Outbound :=
  if o.holder.isNone then some { o with holder := some generation } else none

/-- The holder looks for a parked frame, which goes into its hand. -/
def resume? (o : Outbound) (generation : Nat) : Option Outbound :=
  if o.holder = some generation then some { o with hand := o.parked, parked := none } else none

/-- The holder parks the frame in its hand, whose write has failed. -/
def park? (o : Outbound) (generation : Nat) : Option Outbound :=
  if o.holder = some generation then
    o.hand.map fun frame => { o with hand := none, parked := some frame }
  else none

/-- To acquire the queue is to get it, and then to look for a parked frame. -/
theorem acquire?_eq (o : Outbound) (generation : Nat) :
    o.acquire? generation = (o.hold? generation).bind (·.resume? generation) := by
  rw [acquire?, hold?]
  split
  · exact (if_pos rfl).symm
  · rfl

/-- A failed write ends a loop: it parks the frame, and then lets go of the queue. -/
theorem failed?_eq (o : Outbound) (generation : Nat) :
    o.failed? generation = (o.park? generation).bind (·.release? generation) := by
  rw [failed?, park?]
  split
  · next hholder =>
    cases o.hand with
    | none => rfl
    | some frame => exact (if_pos ⟨hholder, rfl⟩).symm
  · rfl

/-! What the queue was like when a step on it succeeds -/

theorem enqueue?_eq_some {frame : Bytes} (h : o.enqueue? frame = some o') :
    o' = { o with queue := o.queue ++ [frame] } := by
  rw [enqueue?, Option.ite_none_right_eq_some] at h
  exact (Option.some.inj h.2).symm

theorem hold?_eq_some (h : o.hold? generation = some o') :
    o.holder = none ∧ o' = { o with holder := some generation } := by
  rw [hold?, Option.ite_none_right_eq_some, Option.isNone_iff_eq_none] at h
  exact ⟨h.1, (Option.some.inj h.2).symm⟩

theorem resume?_eq_some (h : o.resume? generation = some o') :
    o.holder = some generation ∧ o' = { o with hand := o.parked, parked := none } := by
  rw [resume?, Option.ite_none_right_eq_some] at h
  exact ⟨h.1, (Option.some.inj h.2).symm⟩

theorem take?_eq_some (h : o.take? generation = some o') :
    o.holder = some generation ∧ o.hand = none ∧
      ∃ frame queue, o.queue = frame :: queue ∧ o' = { o with queue, hand := some frame } := by
  rw [take?, Option.ite_none_right_eq_some, Option.isNone_iff_eq_none] at h
  obtain ⟨⟨hholder, hhand⟩, hqueue⟩ := h
  cases hq : o.queue with
  | nil => rw [hq] at hqueue; cases hqueue
  | cons frame queue =>
    rw [hq] at hqueue
    exact ⟨hholder, hhand, frame, queue, rfl, (Option.some.inj hqueue).symm⟩

theorem written?_eq_some {frame : Bytes} (h : o.written? generation = some (frame, o')) :
    o.holder = some generation ∧ o.hand = some frame ∧ o' = { o with hand := none } := by
  rw [written?, Option.ite_none_right_eq_some, Option.map_eq_some_iff] at h
  obtain ⟨hholder, frame, hhand, heq⟩ := h
  cases heq
  exact ⟨hholder, hhand, rfl⟩

theorem park?_eq_some (h : o.park? generation = some o') :
    o.holder = some generation ∧
      ∃ frame, o.hand = some frame ∧ o' = { o with hand := none, parked := some frame } := by
  rw [park?, Option.ite_none_right_eq_some, Option.map_eq_some_iff] at h
  obtain ⟨hholder, frame, hhand, heq⟩ := h
  exact ⟨hholder, frame, hhand, heq.symm⟩

theorem release?_eq_some (h : o.release? generation = some o') :
    o.holder = some generation ∧ o.hand = none ∧ o' = { o with holder := none } := by
  rw [release?, Option.ite_none_right_eq_some, Option.isNone_iff_eq_none] at h
  exact ⟨h.1.1, h.1.2, (Option.some.inj h.2).symm⟩

end Outbound

namespace Connection

/-! ## What happens to frames -/

/-- What happens to a frame. -/
inductive Event where
  /-- The queue has accepted a frame. -/
  | accepted (frame : Bytes)
  /-- A frame has been written to the socket of a generation. -/
  | written (generation : Nat) (frame : Bytes)
  /-- The write of a frame to the socket of a generation has failed. -/
  | failed (generation : Nat) (frame : Bytes)
  deriving DecidableEq

/-- What has happened to frames, oldest first. -/
abbrev History := List Event

/-! ## Tasks -/

/-- What a caller wants of a connection. -/
inductive Errand where
  | connect
  | reconnect
  | send (frame : Bytes) (expectsReply : Bool)

/-- Whether a live socket is dropped first. -/
def Errand.isReconnect : Errand → Bool
  | reconnect => true
  | connect | send .. => false

/-- A connection, the sockets whose loops have been told to end, and whether the dial lock is
    held. -/
structure Link where
  connection : Connection
  told : List Nat := []
  locked : Bool := false

namespace Link

/-- Takes the live socket, and tells its loops. -/
def disconnect (l : Link) : Link :=
  { l with connection := l.connection.disconnect, told := l.connection.live.toList ++ l.told }

/-- Takes the live socket, if it is the one of a generation. -/
def closeGeneration (l : Link) (generation : Nat) : Link :=
  if l.connection.live = some generation then l.disconnect else l

/-- Makes a fresh socket the live one, and lets go of the dial lock. -/
def publish (l : Link) (now : Nat) : Link where
  connection := l.connection.publish now
  told := l.connection.live.toList ++ l.told
  locked := false

/-- The link with other frames that are to be written. -/
def withOutbound (l : Link) (o : Outbound) : Link :=
  { l with connection := { l.connection with outbound := o } }

/-- Counts a call, if an answer is expected. -/
def issue (l : Link) (expectsReply : Bool) : Link :=
  if expectsReply then
    { l with connection := { l.connection with calls := l.connection.calls + 1 } }
  else l

/-- Gives a ticket back, if there is one. -/
def giveBack (l : Link) (expectsReply : Bool) : Link :=
  if expectsReply then { l with connection := l.connection.finishCall } else l

variable (l : Link) (generation : Nat) (expectsReply : Bool)

@[simp] theorem outbound_issue :
    (l.issue expectsReply).connection.outbound = l.connection.outbound := by
  cases expectsReply <;> rfl

@[simp] theorem generations_issue :
    (l.issue expectsReply).connection.generations = l.connection.generations := by
  cases expectsReply <;> rfl

@[simp] theorem outbound_giveBack :
    (l.giveBack expectsReply).connection.outbound = l.connection.outbound := by
  cases expectsReply <;> rfl

@[simp] theorem generations_giveBack :
    (l.giveBack expectsReply).connection.generations = l.connection.generations := by
  cases expectsReply <;> rfl

@[simp] theorem outbound_closeGeneration :
    (l.closeGeneration generation).connection.outbound = l.connection.outbound := by
  rw [closeGeneration]
  split <;> rfl

@[simp] theorem generations_closeGeneration :
    (l.closeGeneration generation).connection.generations = l.connection.generations := by
  rw [closeGeneration]
  split <;> rfl

end Link

/-- An operation that is under way. -/
inductive Task where
  | entering (e : Errand)
  /-- The connection was open. -/
  | looking (e : Errand)
  /-- The caller waits for the dial lock. -/
  | waiting (e : Errand)
  | locked (e : Errand)
  | dialling (e : Errand)
  /-- The socket is there, and the connection was still open. -/
  | admitted (e : Errand)
  /-- A socket is or was live. -/
  | reached (e : Errand)
  /-- The caller waits for room in the queue. -/
  | enqueuing (frame : Bytes) (expectsReply : Bool)
  /-- The connection is closed, but its live socket has not been taken yet. -/
  | shutting
  | returned (r : Except TransportError Unit)

/-- One step of a task, which may be its last one. To make a socket the live one is a step of the
    whole scene, because it starts the loops of the socket. -/
inductive Task.Step : Link → Task → Option Event → Link → Option Task → Prop
  | refuse {l : Link} {e : Errand} : l.connection.closed = true →
      Step l (entering e) none l (some (returned (.error .closed)))
  | enter {l : Link} {e : Errand} : l.connection.closed = false →
      Step l (entering e) none l (some (if e.isReconnect then waiting e else looking e))
  | share {l : Link} {e : Errand} : l.connection.isConnected = true →
      Step l (looking e) none l (some (reached e))
  | wait {l : Link} {e : Errand} : l.connection.isConnected = false →
      Step l (looking e) none l (some (waiting e))
  | lock {l : Link} {e : Errand} : l.locked = false →
      Step l (waiting e) none { l with locked := true } (some (locked e))
  /-- Somebody else has dialled in the meantime. -/
  | shareLate {l : Link} {e : Errand} : e.isReconnect = false → l.connection.isConnected = true →
      Step l (locked e) none { l with locked := false } (some (reached e))
  | dial {l : Link} {e : Errand} : e.isReconnect = false → l.connection.isConnected = false →
      Step l (locked e) none l (some (dialling e))
  | redial {l : Link} {e : Errand} : e.isReconnect = true →
      Step l (locked e) none l.disconnect (some (dialling e))
  | miss {l : Link} {e : Errand} {d : Dialer} {x : TransportError} :
      d l.connection.transport l.connection.address = .error x →
      Step l (dialling e) none { l with locked := false } (some (returned (.error x)))
  /-- The connection has been closed in the meantime. -/
  | giveIn {l : Link} {e : Errand} {d : Dialer} :
      d l.connection.transport l.connection.address = .ok () → l.connection.closed = true →
      Step l (dialling e) none { l with locked := false } (some (returned (.error .closed)))
  | confirm {l : Link} {e : Errand} {d : Dialer} :
      d l.connection.transport l.connection.address = .ok () → l.connection.closed = false →
      Step l (dialling e) none l (some (admitted e))
  | finish {l : Link} {e : Errand} : e = .connect ∨ e = .reconnect →
      Step l (reached e) none l (some (returned (.ok ())))
  | issue (l : Link) (frame : Bytes) (expectsReply : Bool) :
      Step l (reached (.send frame expectsReply)) none (l.issue expectsReply)
        (some (enqueuing frame expectsReply))
  | enqueue {l : Link} {frame : Bytes} {expectsReply : Bool} {o : Outbound} :
      l.connection.outbound.enqueue? frame = some o →
      Step l (enqueuing frame expectsReply) (some (.accepted frame)) (l.withOutbound o)
        (some (returned (.ok ())))
  /-- There was no room in time. -/
  | giveUp (l : Link) (frame : Bytes) (expectsReply : Bool) :
      Step l (enqueuing frame expectsReply) none (l.giveBack expectsReply)
        (some (returned (.error (.queueFull l.connection.address))))
  | shut (l : Link) : Step l shutting none l.disconnect none
  | leave (l : Link) (r : Except TransportError Unit) : Step l (returned r) none l none
  | dropWaiting (l : Link) (e : Errand) : Step l (waiting e) none l none
  | dropDialling (l : Link) (e : Errand) :
      Step l (dialling e) none { l with locked := false } none
  | dropEnqueuing (l : Link) (frame : Bytes) (expectsReply : Bool) :
      Step l (enqueuing frame expectsReply) none (l.giveBack expectsReply) none

/-! ## Loops -/

/-- How far the loop that writes to a socket has come. -/
inductive Loop.Stage where
  /-- It waits for the queue. -/
  | waiting
  /-- It has the queue, and has not looked for a parked frame yet. -/
  | holding
  /-- It is between two frames. -/
  | resting
  | writing
  /-- It will close its socket. -/
  | leaving
  /-- It will let go of the queue. -/
  | left
  deriving DecidableEq

/-- The loop that writes to the socket of a generation. -/
structure Loop where
  generation : Nat
  stage : Loop.Stage := .waiting

/-- One step of a loop, which may be its last one. -/
inductive Loop.Step : Link → Loop → Option Event → Link → Option Loop → Prop
  | hold {l : Link} {g : Nat} {o : Outbound} : l.connection.outbound.hold? g = some o →
      Step l ⟨g, .waiting⟩ none (l.withOutbound o) (some ⟨g, .holding⟩)
  | turnBack {l : Link} {g : Nat} : g ∈ l.told → Step l ⟨g, .waiting⟩ none l none
  | resume {l : Link} {g : Nat} {o : Outbound} : l.connection.outbound.resume? g = some o →
      Step l ⟨g, .holding⟩ none (l.withOutbound o)
        (some ⟨g, if o.hand.isSome then .writing else .resting⟩)
  | take {l : Link} {g : Nat} {o : Outbound} : l.connection.outbound.take? g = some o →
      Step l ⟨g, .resting⟩ none (l.withOutbound o) (some ⟨g, .writing⟩)
  | write {l : Link} {g : Nat} {frame : Bytes} {o : Outbound} (now : Nat) :
      l.connection.outbound.written? g = some (frame, o) →
      Step l ⟨g, .writing⟩ (some (.written g frame))
        { l with connection := { l.connection with outbound := o, lastActive := now } }
        (some ⟨g, .resting⟩)
  | fail {l : Link} {g : Nat} {frame : Bytes} {o : Outbound} :
      l.connection.outbound.hand = some frame → l.connection.outbound.park? g = some o →
      Step l ⟨g, .writing⟩ (some (.failed g frame)) (l.withOutbound o) (some ⟨g, .leaving⟩)
  | stop {l : Link} {g : Nat} : g ∈ l.told →
      Step l ⟨g, .resting⟩ none l (some ⟨g, .leaving⟩)
  | idle {l : Link} {g : Nat} (now : Nat) : l.connection.calls = 0 →
      l.connection.config.idleTimeout.toNat ≤ l.connection.idleFor now →
      Step l ⟨g, .resting⟩ none l (some ⟨g, .leaving⟩)
  | close (l : Link) (g : Nat) :
      Step l ⟨g, .leaving⟩ none (l.closeGeneration g) (some ⟨g, .left⟩)
  | letGo {l : Link} {g : Nat} {o : Outbound} : l.connection.outbound.release? g = some o →
      Step l ⟨g, .left⟩ none (l.withOutbound o) none

/-! ## Scenes -/

/-- A connection with the tasks and loops that are under way. -/
structure Scene where
  link : Link
  tasks : List Task := []
  /-- The loops that write. -/
  loops : List Loop := []
  /-- The generations of the sockets whose loops read. -/
  readers : List Nat := []

namespace Scene

/-- A connection that has not dialled yet. -/
def fresh (e : Endpoint) (config : TransportConfig) (now : Nat) : Scene :=
  { link := { connection := .new e config now } }

inductive Step : Scene → Option Event → Scene → Prop
  | start (s : Scene) (e : Errand) : Step s none { s with tasks := .entering e :: s.tasks }
  | shutdown (s : Scene) : Step s none { s with
      link := { s.link with connection := { s.link.connection with closed := true } }
      tasks := .shutting :: s.tasks }
  | task {s : Scene} {before after : List Task} {t : Task} {event : Option Event} {l : Link}
      {t' : Option Task} : s.tasks = before ++ t :: after → Task.Step s.link t event l t' →
      Step s event { s with link := l, tasks := before ++ (t'.toList ++ after) }
  /-- A fresh socket becomes the live one, and its loops start. -/
  | publish {s : Scene} {before after : List Task} {e : Errand} (now : Nat) :
      s.tasks = before ++ .admitted e :: after →
      Step s none {
        link := s.link.publish now
        tasks := before ++ .reached e :: after
        loops := { generation := s.link.connection.generations + 1 } :: s.loops
        readers := (s.link.connection.generations + 1) :: s.readers }
  | loop {s : Scene} {before after : List Loop} {x : Loop} {event : Option Event} {l : Link}
      {x' : Option Loop} : s.loops = before ++ x :: after → Loop.Step s.link x event l x' →
      Step s event { s with link := l, loops := before ++ (x'.toList ++ after) }
  | read {s : Scene} {g : Nat} (now : Nat) : g ∈ s.readers → Step s none { s with
      link := { s.link with connection := { s.link.connection with lastActive := now } } }
  | hangUp {s : Scene} {before after : List Nat} {g : Nat} : s.readers = before ++ g :: after →
      Step s none { s with link := s.link.closeGeneration g, readers := before ++ after }
  /-- The socket is closed, and not the connection. -/
  | disconnect (s : Scene) : Step s none { s with link := s.link.disconnect }
  /-- A call that expected an answer has ended. -/
  | finishCall (s : Scene) : Step s none { s with
      link := { s.link with connection := s.link.connection.finishCall } }

/-- A run through scenes of a kind, and its history. -/
inductive Run (P : Scene → Prop) (s : Scene) : History → Scene → Prop
  | refl : Run P s [] s
  | tail {s' s'' : Scene} {h : History} {event : Option Event} :
      Run P s h s' → Step s' event s'' → P s'' → Run P s (h ++ event.toList) s''

/-! ## Operations on their own -/

variable {P : Scene → Prop} {s s' s'' : Scene} {h h' : History}

theorem Run.trans (hrun : Run P s h s') (hrun' : Run P s' h' s'') : Run P s (h ++ h') s'' := by
  induction hrun' with
  | refl => rwa [List.append_nil]
  | tail _ hstep hP ih =>
    rw [← List.append_assoc]
    exact ih.tail hstep hP

section

variable {l l' : Link} {t : Task} {t' : Option Task} {tasks : List Task} {loops : List Loop}
  {readers : List Nat} {event : Option Event}

/-- The latest task takes a step. -/
theorem Step.latest (hstep : Task.Step l t event l' t') :
    Step ⟨l, t :: tasks, loops, readers⟩ event ⟨l', t'.toList ++ tasks, loops, readers⟩ :=
  .task (s := ⟨l, t :: tasks, loops, readers⟩) (List.nil_append _).symm hstep

variable {x y : Loop} {x' : Option Loop}

/-- The loop of the newest socket takes a step. -/
theorem Step.newest (hstep : Loop.Step l x event l' x') :
    Step ⟨l, tasks, x :: loops, readers⟩ event ⟨l', tasks, x'.toList ++ loops, readers⟩ :=
  .loop (s := ⟨l, tasks, x :: loops, readers⟩) (List.nil_append _).symm hstep

/-- The loop of the socket before it takes a step. -/
theorem Step.older (hstep : Loop.Step l x event l' x') :
    Step ⟨l, tasks, y :: x :: loops, readers⟩ event
      ⟨l', tasks, y :: (x'.toList ++ loops), readers⟩ :=
  .loop (s := ⟨l, tasks, y :: x :: loops, readers⟩) (List.singleton_append).symm hstep

theorem Run.latest (hP : ∀ s, P s) (hstep : Task.Step l t event l' t') :
    Run P ⟨l, t :: tasks, loops, readers⟩ event.toList
      ⟨l', t'.toList ++ tasks, loops, readers⟩ :=
  .tail .refl (.latest hstep) (hP _)

end

/-- An errand for which a socket was wanted. -/
def wanted (e : Errand) : Except TransportError Unit → Task
  | .ok () => .reached e
  | .error x => .returned (.error x)

variable {e : Errand} {tasks : List Task}

/-- The steps from a dial on add up to `Connection.dialFresh`. -/
theorem exists_run_dialFresh (hP : ∀ s, P s) (dial : Dialer) (now : Nat)
    (hs : s.tasks = .dialling e :: tasks) :
    ∃ s', Run P s [] s' ∧ s'.link.connection = (s.link.connection.dialFresh dial now).2 ∧
      s'.tasks = wanted e (s.link.connection.dialFresh dial now).1 :: tasks := by
  obtain ⟨l, _, loops, readers⟩ := s
  subst hs
  rw [Connection.dialFresh]
  cases hdial : dial l.connection.transport l.connection.address with
  | error x => exact ⟨_, .latest hP (.miss hdial), rfl, rfl⟩
  | ok =>
    cases hclosed : l.connection.closed with
    | true => exact ⟨_, .latest hP (.giveIn hdial hclosed), rfl, rfl⟩
    | false =>
      have hadmitted : Run P ⟨l, .dialling e :: tasks, loops, readers⟩ _ _ :=
        .latest hP (.confirm hdial hclosed)
      exact ⟨_, hadmitted.tail (.publish now (List.nil_append _).symm) (hP _), rfl, rfl⟩

/-- The steps until a socket is live add up to `Connection.connect`. -/
theorem exists_run_wanted (hP : ∀ s, P s) (dial : Dialer) (now : Nat)
    (hs : s.tasks = .entering e :: tasks) (he : e.isReconnect = false)
    (hlocked : s.link.locked = false) :
    ∃ s', Run P s [] s' ∧ s'.link.connection = (s.link.connection.connect dial now).2 ∧
      s'.tasks = wanted e (s.link.connection.connect dial now).1 :: tasks := by
  obtain ⟨l, _, loops, readers⟩ := s
  subst hs
  rw [Connection.connect]
  cases hclosed : l.connection.closed with
  | true => exact ⟨_, .latest hP (.refuse hclosed), rfl, rfl⟩
  | false =>
    have henter := Task.Step.enter (e := e) hclosed
    rw [he] at henter
    have hlooking : Run P ⟨l, .entering e :: tasks, loops, readers⟩ _ _ := .latest hP henter
    cases hconnected : l.connection.isConnected with
    | true => exact ⟨_, hlooking.tail (.latest (.share hconnected)) (hP _), rfl, rfl⟩
    | false =>
      have hlock := (hlooking.tail (.latest (.wait hconnected)) (hP _)).tail
        (.latest (.lock hlocked)) (hP _)
      have hdialling := hlock.tail (.latest (.dial he hconnected)) (hP _)
      obtain ⟨s', hrun, hs'⟩ := exists_run_dialFresh hP dial now (s := ⟨_, _, _, _⟩) rfl
      exact ⟨s', hdialling.trans hrun, hs'⟩

/-- The steps until a live socket has been replaced add up to `Connection.reconnect`. -/
theorem exists_run_rewanted (hP : ∀ s, P s) (dial : Dialer) (now : Nat)
    (hs : s.tasks = .entering .reconnect :: tasks) (hlocked : s.link.locked = false) :
    ∃ s', Run P s [] s' ∧ s'.link.connection = (s.link.connection.reconnect dial now).2 ∧
      s'.tasks = wanted .reconnect (s.link.connection.reconnect dial now).1 :: tasks := by
  obtain ⟨l, _, loops, readers⟩ := s
  subst hs
  rw [Connection.reconnect]
  cases hclosed : l.connection.closed with
  | true => exact ⟨_, .latest hP (.refuse hclosed), rfl, rfl⟩
  | false =>
    have hwaiting : Run P ⟨l, .entering .reconnect :: tasks, loops, readers⟩ _ _ :=
      .latest hP (.enter hclosed)
    have hdialling := (hwaiting.tail (.latest (.lock hlocked)) (hP _)).tail
      (.latest (.redial rfl)) (hP _)
    obtain ⟨s', hrun, hs'⟩ := exists_run_dialFresh hP dial now (s := ⟨_, _, _, _⟩) rfl
    exact ⟨s', hdialling.trans hrun, hs'⟩

/-- The steps from a live socket to the room in the queue add up to `Connection.enqueue`. -/
theorem exists_run_enqueue (hP : ∀ s, P s) (frame : Bytes) (expectsReply : Bool)
    (hs : s.tasks = .reached (.send frame expectsReply) :: tasks) :
    ∃ h s', Run P s h s' ∧
      s'.link.connection = (s.link.connection.enqueue frame expectsReply).2 ∧
      s'.tasks = .returned (s.link.connection.enqueue frame expectsReply).1 :: tasks := by
  obtain ⟨l, _, loops, readers⟩ := s
  subst hs
  have hissue : Run P ⟨l, .reached (.send frame expectsReply) :: tasks, loops, readers⟩ _ _ :=
    .latest hP (.issue l frame expectsReply)
  rw [Connection.enqueue]
  -- The ticket is taken before it is known whether there is room.
  cases hroom : l.connection.outbound.enqueue? frame with
  | some o =>
    have hroom' : (l.issue expectsReply).connection.outbound.enqueue? frame = some o := by
      rwa [Link.outbound_issue]
    exact ⟨_, _, hissue.tail (.latest (.enqueue hroom')) (hP _),
      by cases expectsReply <;> rfl, rfl⟩
  | none =>
    exact ⟨_, _, hissue.tail (.latest (.giveUp _ frame expectsReply)) (hP _),
      by cases expectsReply <;> rfl, by cases expectsReply <;> rfl⟩

/-- An errand that wanted nothing but a socket is over. -/
theorem exists_run_finish (hP : ∀ s, P s) (he : e = .connect ∨ e = .reconnect)
    {r : Except TransportError Unit} (hs : s.tasks = wanted e r :: tasks) :
    ∃ s', Run P s [] s' ∧ s'.link = s.link ∧ s'.tasks = .returned r :: tasks := by
  cases r with
  | error x => exact ⟨s, .refl, rfl, hs⟩
  | ok =>
    obtain ⟨l, _, loops, readers⟩ := s
    subst hs
    exact ⟨_, .latest hP (.finish he), rfl, rfl⟩

/-- When nothing comes in between, the steps of a caller that connects add up to
    `Connection.connect`. -/
theorem exists_run_connect (hP : ∀ s, P s) (dial : Dialer) (now : Nat)
    (hs : s.tasks = .entering .connect :: tasks) (hlocked : s.link.locked = false) :
    ∃ s', Run P s [] s' ∧ s'.link.connection = (s.link.connection.connect dial now).2 ∧
      s'.tasks = .returned (s.link.connection.connect dial now).1 :: tasks := by
  obtain ⟨s', hrun, hlink, htasks⟩ := exists_run_wanted hP dial now hs rfl hlocked
  obtain ⟨s'', hrun', hlink', htasks'⟩ := exists_run_finish hP (.inl rfl) htasks
  exact ⟨s'', hrun.trans hrun', by rw [hlink', hlink], htasks'⟩

/-- When nothing comes in between, the steps of a caller that connects anew add up to
    `Connection.reconnect`. -/
theorem exists_run_reconnect (hP : ∀ s, P s) (dial : Dialer) (now : Nat)
    (hs : s.tasks = .entering .reconnect :: tasks) (hlocked : s.link.locked = false) :
    ∃ s', Run P s [] s' ∧ s'.link.connection = (s.link.connection.reconnect dial now).2 ∧
      s'.tasks = .returned (s.link.connection.reconnect dial now).1 :: tasks := by
  obtain ⟨s', hrun, hlink, htasks⟩ := exists_run_rewanted hP dial now hs hlocked
  obtain ⟨s'', hrun', hlink', htasks'⟩ := exists_run_finish hP (.inr rfl) htasks
  exact ⟨s'', hrun.trans hrun', by rw [hlink', hlink], htasks'⟩

/-- When nothing comes in between, the steps of a caller that sends add up to
    `Connection.send`. -/
theorem exists_run_send (hP : ∀ s, P s) (dial : Dialer) (now : Nat) {frame : Bytes}
    {expectsReply : Bool} (hs : s.tasks = .entering (.send frame expectsReply) :: tasks)
    (hlocked : s.link.locked = false) :
    ∃ h s', Run P s h s' ∧
      s'.link.connection = (s.link.connection.send dial (fun _ => frame) expectsReply now).2 ∧
      s'.tasks =
        .returned (s.link.connection.send dial (fun _ => frame) expectsReply now).1 :: tasks := by
  obtain ⟨s', hrun, hlink, htasks⟩ := exists_run_wanted hP dial now hs rfl hlocked
  rw [Connection.send]
  rcases hconnect : s.link.connection.connect dial now with ⟨x | _, c⟩ <;>
    rw [hconnect] at hlink htasks
  · exact ⟨_, s', hrun, hlink, htasks⟩
  · obtain ⟨h, s'', hrun', hlink', htasks'⟩ := exists_run_enqueue hP frame expectsReply htasks
    rw [hlink] at hlink' htasks'
    exact ⟨_, s'', hrun.trans hrun', hlink', htasks'⟩

/-- When nothing comes in between, to shut down is to be closed at once. -/
theorem exists_run_shutdown (hP : ∀ s, P s) :
    ∃ s', Run P s [] s' ∧ s'.link.connection = s.link.connection.shutdown ∧
      s'.tasks = s.tasks :=
  ⟨_, (Run.tail .refl (.shutdown s) (hP _)).tail (.latest (.shut _)) (hP _), rfl, rfl⟩

end Scene

end Connection

end TaggedRpc
