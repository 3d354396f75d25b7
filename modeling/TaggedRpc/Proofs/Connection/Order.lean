import Mathlib.Data.List.Infix
import Mathlib.Data.List.Nodup
import TaggedRpc.Proofs.Connection.Interleaving

/-!
# The order of frames

A connection writes its frames in the order in which its queue accepted them, over all of its
sockets. The loops of several sockets may be there at once, but one at a time holds the queue and
looks after the frame in its hand and the parked one.

At every moment of a run (`Connection.Scene.Run.inOrder`)

* the frames that were written, the one in the hand, the parked one and the queue are, in this
  order, the frames that were accepted;
* the frame in the hand is being written by one loop, and by no other one;
* a frame is parked only where no other one is parked;
* after a failed attempt the next one is made with the same frame, on a socket that has not been
  written to.

Two things are kept by every step. The *custody* of the queue says who holds it, and what there
can be in the hand and parked at every stage of the holder (`Connection.Custody`). The *record*
says how the history of the frames fits what waits (`Connection.Record`).
-/

namespace TaggedRpc.Connection

/-! ## Attempts -/

/-- An attempt to write a frame to the socket of a generation. -/
structure Attempt where
  generation : Nat
  frame : Bytes
  succeeded : Bool
  deriving DecidableEq

namespace Event

/-- The frame that the queue has accepted. -/
def accepted? : Event → Option Bytes
  | accepted frame => some frame
  | written .. | failed .. => none

def attempt? : Event → Option Attempt
  | accepted _ => none
  | written generation frame => some { generation, frame, succeeded := true }
  | failed generation frame => some { generation, frame, succeeded := false }

/-- The frame that has been written. -/
def written? : Event → Option Bytes
  | written _ frame => some frame
  | accepted _ | failed .. => none

end Event

namespace History

/-- The frames that the queue has accepted. -/
def accepted (h : History) : List Bytes := h.filterMap Event.accepted?

/-- The frames that have been written. -/
def written (h : History) : List Bytes := h.filterMap Event.written?

/-- The attempts to write frames. -/
def attempts (h : History) : List Attempt := h.filterMap Event.attempt?

variable (h : History) (event : Event)

@[simp] theorem accepted_append_singleton :
    accepted (h ++ [event]) = h.accepted ++ event.accepted?.toList := by
  cases event <;> simp [accepted, Event.accepted?]

@[simp] theorem written_append_singleton :
    written (h ++ [event]) = h.written ++ event.written?.toList := by
  cases event <;> simp [written, Event.written?]

@[simp] theorem attempts_append_singleton :
    attempts (h ++ [event]) = h.attempts ++ event.attempt?.toList := by
  cases event <;> simp [attempts, Event.attempt?]

end History

/-! ## The custody of the queue -/

/-- What the stage of a loop says of the queue. -/
def Loop.Fits (o : Outbound) (x : Loop) : Prop :=
  match x.stage with
  | .waiting => o.holder ≠ some x.generation
  | .holding | .leaving | .left => o.holder = some x.generation ∧ o.hand = none
  | .resting => o.holder = some x.generation ∧ o.hand = none ∧ o.parked = none
  | .writing => o.holder = some x.generation ∧ o.hand.isSome ∧ o.parked = none

/-- Who holds the queue, when some number of sockets have been there. -/
structure Custody (o : Outbound) (generations : Nat) (loops : List Loop) : Prop where
  distinct : (loops.map Loop.generation).Nodup
  known : ∀ x ∈ loops, x.generation ≤ generations
  holder : ∀ g, o.holder = some g → g ≤ generations
  fits : ∀ x ∈ loops, x.Fits o
  /-- Somebody is writing the frame in the hand. -/
  hand : o.hand.isSome → ∃ x ∈ loops, x.stage = .writing

variable {o o' : Outbound} {n : Nat} {loops loops' rest : List Loop} {x y : Loop}
  {x' : Option Loop}

/-- A loop that does not wait is the holder. -/
theorem Loop.Fits.holder (hfits : x.Fits o) (hx : x.stage ≠ .waiting) :
    o.holder = some x.generation := by
  rw [Fits] at hfits
  split at hfits
  · next hwaiting => exact absurd hwaiting hx
  all_goals exact hfits.1

/-- A loop that waits does so whatever the holder does. -/
theorem Loop.Fits.of_waiting (hx : x.stage = .waiting) (hholder : o.holder ≠ some x.generation) :
    x.Fits o := by
  rw [Fits, hx]
  exact hholder

namespace Custody

theorem empty (capacity : Nat) : Custody { capacity } 0 [] where
  distinct := List.nodup_nil
  known _ hx := absurd hx List.not_mem_nil
  holder _ h := nomatch h
  fits _ hx := absurd hx List.not_mem_nil
  hand h := nomatch h

theorem perm (hc : Custody o n loops) (h : loops.Perm loops') : Custody o n loops' where
  distinct := (h.map _).nodup_iff.1 hc.distinct
  known x hx := hc.known x (h.mem_iff.2 hx)
  holder := hc.holder
  fits x hx := hc.fits x (h.mem_iff.2 hx)
  hand hhand := by
    obtain ⟨x, hx, hwriting⟩ := hc.hand hhand
    exact ⟨x, h.mem_iff.1 hx, hwriting⟩

/-- Different loops belong to different sockets. -/
theorem ne_generation (hc : Custody o n (x :: rest)) (hy : y ∈ rest) :
    y.generation ≠ x.generation :=
  fun heq => (List.nodup_cons.1 hc.distinct).1 (heq ▸ List.mem_map_of_mem hy)

/-- While a loop holds the queue, or nobody does, all others wait. -/
theorem waiting (hc : Custody o n (x :: rest)) (hx : o.holder = none ∨ o.holder = some x.generation)
    (hy : y ∈ rest) : y.stage = .waiting := by
  by_contra hne
  have hholder := (hc.fits y (.tail _ hy)).holder hne
  rcases hx with hnone | hsome
  · exact Option.some_ne_none _ (hholder.symm.trans hnone)
  · exact hc.ne_generation hy (Option.some.inj (hholder.symm.trans hsome))

/-- Only one loop writes. -/
theorem eq_of_writing (hc : Custody o n loops) (hx : x ∈ loops) (hy : y ∈ loops)
    (hxw : x.stage = .writing) (hyw : y.stage = .writing) : x = y := by
  refine List.inj_on_of_nodup_map hc.distinct hx hy (Option.some.inj ?_)
  rw [← (hc.fits x hx).holder (by simp [hxw]), (hc.fits y hy).holder (by simp [hyw])]

/-- If nobody holds the queue, there is nothing in the hand. -/
theorem hand_eq_none (hc : Custody o n loops) (hnone : o.holder = none) : o.hand = none := by
  by_contra hsome
  obtain ⟨x, hx, hwriting⟩ := hc.hand (Option.isSome_iff_ne_none.2 hsome)
  exact Option.some_ne_none _
    (((hc.fits x hx).holder (by simp [hwriting])).symm.trans hnone)

/-- The queue changes. -/
theorem queue (hc : Custody o n loops) (queue : List Bytes) : Custody { o with queue } n loops :=
  ⟨hc.distinct, hc.known, hc.holder, hc.fits, hc.hand⟩

/-- A fresh socket starts its loop. -/
theorem publish (hc : Custody o n loops) :
    Custody o (n + 1) ({ generation := n + 1 } :: loops) where
  distinct := by
    rw [List.map_cons, List.nodup_cons]
    refine ⟨fun hmem => ?_, hc.distinct⟩
    obtain ⟨x, hx, heq⟩ := List.mem_map.1 hmem
    have hknown := hc.known x hx
    rw [heq] at hknown
    exact Nat.not_succ_le_self n hknown
  known := List.forall_mem_cons.2
    ⟨Nat.le_refl _, fun x hx => Nat.le_succ_of_le (hc.known x hx)⟩
  holder g hg := Nat.le_succ_of_le (hc.holder g hg)
  fits := List.forall_mem_cons.2
    ⟨fun heq => Nat.not_succ_le_self n (hc.holder _ heq), hc.fits⟩
  hand hhand := by
    obtain ⟨x, hx, hwriting⟩ := hc.hand hhand
    exact ⟨x, .tail _ hx, hwriting⟩

/-- A loop that waits for the queue ends. -/
theorem turnBack (hc : Custody o n (x :: rest)) (hx : x.stage = .waiting) : Custody o n rest where
  distinct := (List.nodup_cons.1 hc.distinct).2
  known := (List.forall_mem_cons.1 hc.known).2
  holder := hc.holder
  fits := (List.forall_mem_cons.1 hc.fits).2
  hand hhand := by
    obtain ⟨y, _ | ⟨_, hy⟩, hwriting⟩ := hc.hand hhand
    · exact absurd (hx.symm.trans hwriting) (by decide)
    · exact ⟨y, hy, hwriting⟩

/-- The loop that holds the queue, or gets it, takes a step. All others wait. -/
theorem go (hc : Custody o n (x :: rest)) (hx : o.holder = none ∨ o.holder = some x.generation)
    (hx' : o'.holder = none ∨ o'.holder = some x.generation)
    (hfits : ∀ y ∈ x', y.generation = x.generation ∧ y.Fits o')
    (hhand : o'.hand.isSome → ∃ y ∈ x', y.stage = .writing) :
    Custody o' n (x'.toList ++ rest) where
  distinct := by
    cases x' with
    | none => exact (List.nodup_cons.1 hc.distinct).2
    | some y =>
      have hdistinct := hc.distinct
      rw [List.map_cons, ← (hfits y rfl).1] at hdistinct
      exact hdistinct
  known y hy := by
    rw [List.mem_append, Option.mem_toList] at hy
    rcases hy with hy | hy
    · exact (hfits y hy).1 ▸ hc.known x (.head _)
    · exact hc.known y (.tail _ hy)
  holder g hg := by
    rcases hx' with hnone | hsome
    · exact absurd (hg.symm.trans hnone) (Option.some_ne_none g)
    · exact Option.some.inj (hg.symm.trans hsome) ▸ hc.known x (.head _)
  fits y hy := by
    rw [List.mem_append, Option.mem_toList] at hy
    rcases hy with hy | hy
    · exact (hfits y hy).2
    · refine .of_waiting (hc.waiting hx hy) fun hsome => ?_
      rcases hx' with hnone' | hsome'
      · exact Option.some_ne_none _ (hsome.symm.trans hnone')
      · exact hc.ne_generation hy (Option.some.inj (hsome.symm.trans hsome'))
  hand hsome := by
    obtain ⟨y, hy, hwriting⟩ := hhand hsome
    exact ⟨y, List.mem_append_left _ (Option.mem_toList.2 hy), hwriting⟩

/-- The loop that holds the queue takes a step that leaves nothing in its hand. -/
theorem go_of_hand_eq_none (hc : Custody o n (x :: rest)) (hx : x.stage ≠ .waiting)
    (hx' : o'.holder = none ∨ o'.holder = some x.generation) (hhand : o'.hand = none)
    (hfits : ∀ y ∈ x', y.generation = x.generation ∧ y.Fits o') :
    Custody o' n (x'.toList ++ rest) :=
  hc.go (.inr ((hc.fits x (.head _)).holder hx)) hx' hfits fun hsome => by
    rw [hhand] at hsome
    exact nomatch hsome

end Custody

variable {l l' : Link} {event : Option Event}

/-- The steps of a loop keep custody. -/
theorem Loop.Step.custody (hstep : Loop.Step l x event l' x')
    (hc : Custody l.connection.outbound n (x :: rest)) :
    Custody l'.connection.outbound n (x'.toList ++ rest) := by
  have hfits := hc.fits x (.head _)
  cases hstep with
  | hold hhold =>
    obtain ⟨hnone, rfl⟩ := Outbound.hold?_eq_some hhold
    have hhand := hc.hand_eq_none hnone
    refine hc.go (.inl hnone) (.inr rfl) ?_ fun hsome => ?_
    · rintro _ ⟨⟩
      exact ⟨rfl, rfl, hhand⟩
    · exact absurd hsome (by simp [Link.withOutbound, hhand])
  | turnBack => exact hc.turnBack rfl
  | resume hresume =>
    obtain ⟨hholder, rfl⟩ := Outbound.resume?_eq_some hresume
    cases hparked : l.connection.outbound.parked with
    | none =>
      refine hc.go_of_hand_eq_none nofun (.inr hholder) rfl ?_
      rintro _ ⟨⟩
      exact ⟨rfl, hholder, rfl, rfl⟩
    | some frame =>
      refine hc.go (.inr hholder) (.inr hholder) ?_ fun _ => ⟨_, rfl, rfl⟩
      rintro _ ⟨⟩
      exact ⟨rfl, hholder, rfl, rfl⟩
  | take htake =>
    obtain ⟨hholder, hhand, frame, queue, hqueue, rfl⟩ := Outbound.take?_eq_some htake
    refine hc.go (.inr hholder) (.inr hholder) ?_ fun _ => ⟨_, rfl, rfl⟩
    rintro _ ⟨⟩
    exact ⟨rfl, hholder, rfl, hfits.2.2⟩
  | write now hwrite =>
    obtain ⟨hholder, hhand, rfl⟩ := Outbound.written?_eq_some hwrite
    refine hc.go_of_hand_eq_none nofun (.inr hholder) rfl ?_
    rintro _ ⟨⟩
    exact ⟨rfl, hholder, rfl, hfits.2.2⟩
  | fail hhand hpark =>
    obtain ⟨hholder, frame, -, rfl⟩ := Outbound.park?_eq_some hpark
    refine hc.go_of_hand_eq_none nofun (.inr hholder) rfl ?_
    rintro _ ⟨⟩
    exact ⟨rfl, hholder, rfl⟩
  | stop | idle =>
    refine hc.go_of_hand_eq_none nofun (.inr hfits.1) hfits.2.1 ?_
    rintro _ ⟨⟩
    exact ⟨rfl, hfits.1, hfits.2.1⟩
  | close =>
    rw [Link.outbound_closeGeneration]
    refine hc.go_of_hand_eq_none nofun (.inr hfits.1) hfits.2 ?_
    rintro _ ⟨⟩
    exact ⟨rfl, hfits⟩
  | letGo hrelease =>
    obtain ⟨hholder, hhand, rfl⟩ := Outbound.release?_eq_some hrelease
    exact hc.go_of_hand_eq_none nofun (.inl rfl) hhand nofun

/-! ## The record of the frames -/

/-- After a failed attempt the next one is made with the same frame, on a socket that has not been
    written to. -/
def History.Retried (h : History) : Prop :=
  ∀ before a b, before ++ [a, b] <+: h.attempts → a.succeeded = false →
    b.frame = a.frame ∧ ∀ c ∈ before ++ [a], c.generation ≠ b.generation

variable {h : History} {a : Attempt} {e : Event}

/-- One more attempt is made. -/
theorem History.Retried.concat (hr : h.Retried) (ha : e.attempt? = some a)
    (hlast : ∀ b ∈ h.attempts.getLast?, b.succeeded = false →
      a.frame = b.frame ∧ ∀ c ∈ h.attempts, c.generation ≠ a.generation) :
    History.Retried (h ++ [e]) := by
  intro before b c hprefix hfailed
  rw [attempts_append_singleton, ha, Option.toList_some, List.prefix_concat_iff] at hprefix
  rcases hprefix with heq | hprefix
  · rw [List.append_cons] at heq
    obtain ⟨hattempts, hca⟩ := List.append_inj' heq rfl
    cases hca
    rw [hattempts]
    exact hlast b (by rw [← hattempts]; simp) hfailed
  · exact hr before b c hprefix hfailed

/-- The frame goes out first, on a socket to which none of some attempts was made. -/
def Owes (o : Outbound) (attempts : List Attempt) (frame : Bytes) : Prop :=
  o.parked = some frame ∨
    o.hand = some frame ∧ ∀ a ∈ attempts, o.holder ≠ some a.generation

theorem Owes.parked {attempts : List Attempt} {frame : Bytes} (h : Owes o attempts frame)
    (hhand : o.hand = none) : o.parked = some frame := by
  rcases h with hparked | ⟨hhand', -⟩
  · exact hparked
  · exact nomatch hhand'.symm.trans hhand

/-- How the history of the frames fits what waits. -/
structure Record (h : History) (o : Outbound) (generations : Nat) (loops : List Loop) : Prop where
  account : h.written ++ o.waiting = h.accepted
  known : ∀ a ∈ h.attempts, a.generation ≤ generations
  /-- A loop that has not looked for a parked frame yet has made no attempt. -/
  unwritten : ∀ x ∈ loops, x.stage = .waiting ∨ x.stage = .holding →
    ∀ a ∈ h.attempts, a.generation ≠ x.generation
  owed : ∀ a ∈ h.attempts.getLast?, a.succeeded = false → Owes o h.attempts a.frame
  retried : h.Retried

namespace Record

theorem empty (capacity : Nat) : Record [] { capacity } 0 [] where
  account := rfl
  known _ ha := absurd ha List.not_mem_nil
  unwritten _ hx := absurd hx List.not_mem_nil
  owed _ ha := nomatch ha
  retried _ _ _ hprefix :=
    absurd (List.prefix_nil.1 hprefix)
      (List.append_ne_nil_of_right_ne_nil _ (List.cons_ne_nil _ _))

theorem perm (hr : Record h o n loops) (hperm : loops.Perm loops') : Record h o n loops' :=
  ⟨hr.account, hr.known, fun x hx => hr.unwritten x (hperm.mem_iff.2 hx), hr.owed, hr.retried⟩

/-- A fresh socket starts its loop. -/
theorem publish (hr : Record h o n loops) :
    Record h o (n + 1) ({ generation := n + 1 } :: loops) where
  account := hr.account
  known a ha := Nat.le_succ_of_le (hr.known a ha)
  unwritten := List.forall_mem_cons.2
    ⟨fun _ a ha => Nat.ne_of_lt (Nat.lt_succ_of_le (hr.known a ha)), hr.unwritten⟩
  owed := hr.owed
  retried := hr.retried

/-- The queue accepts a frame. -/
theorem accept (hr : Record h o n loops) (frame : Bytes) :
    Record (h ++ [.accepted frame]) { o with queue := o.queue ++ [frame] } n loops := by
  have hattempts : (h ++ [.accepted frame] : History).attempts = h.attempts := by
    simp [Event.attempt?]
  refine ⟨?_, ?_, ?_, ?_, ?_⟩
  · have haccount := hr.account
    simp only [Outbound.waiting, List.append_assoc] at haccount ⊢
    simp [Event.accepted?, Event.written?, ← haccount]
  · rw [hattempts]
    exact hr.known
  · rw [hattempts]
    exact hr.unwritten
  · rw [hattempts]
    exact hr.owed
  · rw [History.Retried, hattempts]
    exact hr.retried

/-- A loop moves on, and makes no attempt. -/
theorem move (hr : Record h o n (x :: rest)) (hwaiting : o'.waiting = o.waiting)
    (hx' : ∀ y ∈ x', y.stage = .waiting ∨ y.stage = .holding →
      y.generation = x.generation ∧ (x.stage = .waiting ∨ x.stage = .holding))
    (howed : ∀ frame, Owes o h.attempts frame → Owes o' h.attempts frame) :
    Record (h ++ []) o' n (x'.toList ++ rest) := by
  rw [List.append_nil]
  refine ⟨hwaiting ▸ hr.account, hr.known, fun y hy hstage => ?_,
    fun a ha hfailed => howed _ (hr.owed a ha hfailed), hr.retried⟩
  rw [List.mem_append, Option.mem_toList] at hy
  rcases hy with hy | hy
  · obtain ⟨heq, hx⟩ := hx' y hy hstage
    exact heq ▸ hr.unwritten x (.head _) hx
  · exact hr.unwritten y (.tail _ hy) hstage

/-- A loop makes an attempt with the frame in its hand. -/
theorem attempt (hr : Record h o n (x :: rest)) (hc : Custody o n (x :: rest))
    (hx : x.stage = .writing) (ha : e.attempt? = some a) (hgeneration : a.generation = x.generation)
    (hhand : o.hand = some a.frame) (hwaiting : e.written?.toList ++ o'.waiting = o.waiting)
    (hparked : a.succeeded = false → o'.parked = some a.frame)
    (hy : ¬(y.stage = .waiting ∨ y.stage = .holding)) :
    Record (h ++ [e]) o' n (y :: rest) := by
  have hfits := hc.fits x (.head _)
  rw [Loop.Fits, hx] at hfits
  have hattempts : (h ++ [e] : History).attempts = h.attempts ++ [a] := by simp [ha]
  refine ⟨?_, ?_, ?_, ?_, ?_⟩
  · have haccepted : e.accepted? = none := by
      cases e with
      | accepted => exact nomatch ha
      | written | failed => rfl
    rw [History.written_append_singleton, History.accepted_append_singleton, haccepted,
      List.append_assoc, hwaiting, hr.account, Option.toList_none, List.append_nil]
  · rw [hattempts, List.forall_mem_append]
    refine ⟨hr.known, ?_⟩
    rw [List.forall_mem_singleton, hgeneration]
    exact hc.known x (.head _)
  · rw [List.forall_mem_cons]
    refine ⟨fun hstage => absurd hstage hy, fun z hz hstage => ?_⟩
    rw [hattempts, List.forall_mem_append, List.forall_mem_singleton, hgeneration]
    exact ⟨hr.unwritten z (.tail _ hz) hstage, (hc.ne_generation hz).symm⟩
  · rw [hattempts, List.getLast?_concat]
    rintro _ ⟨⟩ hfailed
    exact .inl (hparked hfailed)
  · refine hr.retried.concat ha fun b hb hfailed => ?_
    -- The frame of a failed attempt is not parked any more, so it is the one in the hand.
    obtain hparked' | ⟨hhand', hfirst⟩ := hr.owed b hb hfailed
    · exact nomatch hparked'.symm.trans hfits.2.2
    · refine ⟨Option.some.inj (hhand.symm.trans hhand'), fun c hc' heq => hfirst c hc' ?_⟩
      rw [hfits.1, heq, hgeneration]

end Record

/-- The steps of a loop keep the record. -/
theorem Loop.Step.record (hstep : Loop.Step l x event l' x')
    (hc : Custody l.connection.outbound n (x :: rest))
    (hr : Record h l.connection.outbound n (x :: rest)) :
    Record (h ++ event.toList) l'.connection.outbound n (x'.toList ++ rest) := by
  have hfits := hc.fits x (.head _)
  cases hstep with
  | hold hhold =>
    obtain ⟨hnone, rfl⟩ := Outbound.hold?_eq_some hhold
    refine hr.move rfl ?_ fun frame howes => .inl (howes.parked (hc.hand_eq_none hnone))
    rintro _ ⟨⟩ -
    exact ⟨rfl, .inl rfl⟩
  | turnBack => exact hr.move rfl nofun fun _ howes => howes
  | resume hresume =>
    obtain ⟨hholder, rfl⟩ := Outbound.resume?_eq_some hresume
    refine hr.move ?_ ?_ fun frame howes => .inr ⟨?_, fun a ha heq => ?_⟩
    · simp [Outbound.waiting, Link.withOutbound, hfits.2]
    · rintro _ ⟨⟩ hstage
      split at hstage <;> simp at hstage
    · exact howes.parked hfits.2
    · rw [Link.withOutbound, hholder] at heq
      exact hr.unwritten _ (.head _) (.inr rfl) a ha (Option.some.inj heq).symm
  | take htake =>
    obtain ⟨-, hhand, frame, queue, hqueue, rfl⟩ := Outbound.take?_eq_some htake
    refine hr.move ?_ (by rintro _ ⟨⟩; simp) fun frame howes => ?_
    · simp [Outbound.waiting, Link.withOutbound, hhand, hfits.2.2, hqueue]
    · exact nomatch (howes.parked hhand).symm.trans hfits.2.2
  | write now hwrite =>
    obtain ⟨-, hhand, rfl⟩ := Outbound.written?_eq_some hwrite
    refine hr.attempt hc rfl rfl rfl hhand ?_ nofun (by simp)
    simp [Outbound.waiting, Event.written?, hhand]
  | fail hhand hpark =>
    obtain ⟨-, frame, hhand', rfl⟩ := Outbound.park?_eq_some hpark
    cases hhand.symm.trans hhand'
    refine hr.attempt hc rfl rfl rfl hhand ?_ (fun _ => rfl) (by simp)
    simp [Outbound.waiting, Link.withOutbound, Event.written?, hhand, hfits.2.2]
  | stop | idle => exact hr.move rfl (by rintro _ ⟨⟩; simp) fun _ howes => howes
  | close =>
    rw [Link.outbound_closeGeneration]
    exact hr.move rfl (by rintro _ ⟨⟩; simp) fun _ howes => howes
  | letGo hrelease =>
    obtain ⟨-, hhand, rfl⟩ := Outbound.release?_eq_some hrelease
    exact hr.move rfl nofun fun frame howes => .inl (howes.parked hhand)

/-! ## Runs -/

/-- A task leaves the frames as they are, or has one of them accepted. -/
theorem Task.Step.frames {t : Task} {t' : Option Task} (hstep : Task.Step l t event l' t') :
    l'.connection.generations = l.connection.generations ∧
      (event = none ∧ l'.connection.outbound = l.connection.outbound ∨
        ∃ frame, event = some (.accepted frame) ∧
          l.connection.outbound.enqueue? frame = some l'.connection.outbound) := by
  cases hstep with
  | issue | giveUp | dropEnqueuing => exact ⟨by simp, .inl ⟨rfl, by simp⟩⟩
  | enqueue henqueue => exact ⟨rfl, .inr ⟨_, rfl, henqueue⟩⟩
  | _ => exact ⟨rfl, .inl ⟨rfl, rfl⟩⟩

theorem Loop.Step.generations (hstep : Loop.Step l x event l' x') :
    l'.connection.generations = l.connection.generations := by
  cases hstep with
  | close => exact Link.generations_closeGeneration ..
  | _ => rfl

namespace Scene

/-- What is kept by every step. -/
structure Coherent (h : History) (s : Scene) : Prop where
  custody : Custody s.link.connection.outbound s.link.connection.generations s.loops
  record : Record h s.link.connection.outbound s.link.connection.generations s.loops

variable {s s' : Scene}

theorem Coherent.step (hs : Coherent h s) (hstep : Step s event s') :
    Coherent (h ++ event.toList) s' := by
  obtain ⟨hc, hr⟩ := hs
  cases hstep with
  | start | shutdown | read | disconnect | finishCall =>
    exact ⟨hc, (List.append_nil h).symm ▸ hr⟩
  | hangUp =>
    refine ⟨?_, ?_⟩
    · simpa using hc
    · simpa using hr
  | publish => exact ⟨hc.publish, (List.append_nil h).symm ▸ hr.publish⟩
  | task _ ht =>
    obtain ⟨hgenerations, ⟨rfl, houtbound⟩ | ⟨frame, rfl, henqueue⟩⟩ := ht.frames
    · refine ⟨?_, ?_⟩
      · rw [houtbound, hgenerations]
        exact hc
      · rw [houtbound, hgenerations]
        exact (List.append_nil h).symm ▸ hr
    · have houtbound := Outbound.enqueue?_eq_some henqueue
      refine ⟨?_, ?_⟩
      · rw [houtbound, hgenerations]
        exact hc.queue _
      · rw [houtbound, hgenerations]
        exact hr.accept frame
  | loop hloops hx =>
    rw [hloops] at hc hr
    rw [← hx.generations] at hc hr
    have hc' := hc.perm List.perm_middle
    exact ⟨(hx.custody hc').perm (List.perm_append_comm_assoc ..),
      (hx.record hc' (hr.perm List.perm_middle)).perm (List.perm_append_comm_assoc ..)⟩

variable {P : Scene → Prop} {endpoint : Endpoint} {config : TransportConfig} {now : Nat}

theorem Run.coherent (hrun : Run P (fresh endpoint config now) h s) : Coherent h s := by
  induction hrun with
  | refl => exact ⟨.empty _, .empty _⟩
  | tail _ hstep _ ih => exact ih.step hstep

/-- The loop that has got the queue can do all of what its stage is for: no step on the queue waits
    for another loop. -/
theorem Run.unhindered (hrun : Run P (fresh endpoint config now) h s) (hx : x ∈ s.loops) :
    (x.stage = .holding → (s.link.connection.outbound.resume? x.generation).isSome) ∧
      (x.stage = .resting → s.link.connection.outbound.queue ≠ [] →
        (s.link.connection.outbound.take? x.generation).isSome) ∧
      (x.stage = .writing → (s.link.connection.outbound.written? x.generation).isSome ∧
        (s.link.connection.outbound.park? x.generation).isSome) ∧
      (x.stage = .left → (s.link.connection.outbound.release? x.generation).isSome) := by
  have hfits := hrun.coherent.custody.fits x hx
  refine ⟨fun hstage => ?_, fun hstage hqueue => ?_, fun hstage => ?_, fun hstage => ?_⟩ <;>
    rw [Loop.Fits, hstage] at hfits
  · simp [Outbound.resume?, hfits]
  · obtain ⟨frame, queue, hcons⟩ := List.exists_cons_of_ne_nil hqueue
    simp [Outbound.take?, hfits, hcons]
  · simp [Outbound.written?, Outbound.park?, hfits]
  · simp [Outbound.release?, hfits]

/-- The order of the frames at one moment of a run. -/
structure InOrder (h : History) (s : Scene) : Prop where
  /-- No frame is lost, doubled or overtaken. -/
  account : h.written ++ s.link.connection.outbound.waiting = h.accepted
  /-- The frame in the hand is the one that a loop is writing, and no other loop writes. -/
  hand : s.link.connection.outbound.hand.isSome ↔ ∃! x, x ∈ s.loops ∧ x.stage = .writing
  /-- A frame whose write fails does not take the place of another one. -/
  vacant : ∀ g frame s', Step s (some (.failed g frame)) s' →
    s.link.connection.outbound.parked = none ∧ s'.link.connection.outbound.parked = some frame
  retried : h.Retried

theorem Coherent.vacant (hs : Coherent h s) {g : Nat} {frame : Bytes}
    (hstep : Step s (some (.failed g frame)) s') :
    s.link.connection.outbound.parked = none ∧
      s'.link.connection.outbound.parked = some frame := by
  cases hstep with
  | task _ ht =>
    obtain ⟨-, ⟨hevent, -⟩ | ⟨_, hevent, -⟩⟩ := ht.frames <;> cases hevent
  | loop hloops hx =>
    have hfits := hs.custody.fits _ (hloops ▸ List.mem_append_right _ (.head _))
    cases hx with
    | fail hhand hpark =>
      obtain ⟨-, frame', hhand', rfl⟩ := Outbound.park?_eq_some hpark
      cases hhand.symm.trans hhand'
      exact ⟨hfits.2.2, rfl⟩

/-- A connection keeps the order of its frames, whatever comes in between. -/
theorem Run.inOrder (hrun : Run P (fresh endpoint config now) h s) : InOrder h s where
  account := hrun.coherent.record.account
  hand := by
    have hc := hrun.coherent.custody
    refine ⟨fun hhand => ?_, fun ⟨x, ⟨hx, hwriting⟩, _⟩ => ?_⟩
    · obtain ⟨x, hx, hwriting⟩ := hc.hand hhand
      exact ⟨x, ⟨hx, hwriting⟩, fun y hy => hc.eq_of_writing hy.1 hx hy.2 hwriting⟩
    · have hfits := hc.fits x hx
      rw [Loop.Fits, hwriting] at hfits
      exact hfits.2.1
  vacant _ _ _ hstep := hrun.coherent.vacant hstep
  retried := hrun.coherent.record.retried

/-- A loop writes the first of two frames when its socket is replaced, and the write fails. The loop
    of the next socket takes this frame first, and then the second one. -/
theorem exists_run_handover : ∃ h s, Run (fun _ => True) (fresh default {} 0) h s ∧
    h.attempts = [⟨1, [65], false⟩, ⟨2, [65], true⟩, ⟨2, [66], true⟩] := by
  have first : Run (fun _ => True) (fresh default {} 0) _ _ :=
    ((((((((Run.refl.tail
      (.start _ (.send [65] false)) trivial).tail
      (.latest (.enter rfl)) trivial).tail
      (.latest (.wait rfl)) trivial).tail
      (.latest (.lock rfl)) trivial).tail
      (.latest (.dial rfl rfl)) trivial).tail
      (.latest (.confirm (d := fun _ _ => .ok ()) rfl rfl)) trivial).tail
      (.publish 0 (List.nil_append _).symm) trivial).tail
      (.latest (.issue _ _ _)) trivial).tail
      (.latest (.enqueue rfl)) trivial
  have second := ((((first.tail
      (.start _ (.send [66] false)) trivial).tail
      (.latest (.enter rfl)) trivial).tail
      (.latest (.share rfl)) trivial).tail
      (.latest (.issue _ _ _)) trivial).tail
      (.latest (.enqueue rfl)) trivial
  have writing := ((second.tail
      (.newest (.hold rfl)) trivial).tail
      (.newest (.resume rfl)) trivial).tail
      (.newest (.take rfl)) trivial
  have replaced := (((((writing.tail
      (.start _ .reconnect) trivial).tail
      (.latest (.enter rfl)) trivial).tail
      (.latest (.lock rfl)) trivial).tail
      (.latest (.redial rfl)) trivial).tail
      (.latest (.confirm (d := fun _ _ => .ok ()) rfl rfl)) trivial).tail
      (.publish 0 (List.nil_append _).symm) trivial
  have failed := ((replaced.tail
      (.older (.fail rfl rfl)) trivial).tail
      (.older (.close _ _)) trivial).tail
      (.older (.letGo rfl)) trivial
  exact ⟨_, _, ((((failed.tail
      (.newest (.hold rfl)) trivial).tail
      (.newest (.resume rfl)) trivial).tail
      (.newest (.write 0 rfl)) trivial).tail
      (.newest (.take rfl)) trivial).tail
      (.newest (.write 0 rfl)) trivial, rfl⟩

theorem inOrder_handover : ∃ h s, InOrder h s ∧
    h.attempts = [⟨1, [65], false⟩, ⟨2, [65], true⟩, ⟨2, [66], true⟩] := by
  obtain ⟨h, s, hrun, hattempts⟩ := exists_run_handover
  exact ⟨h, s, hrun.inOrder, hattempts⟩

end Scene

end TaggedRpc.Connection
