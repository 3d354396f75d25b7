import Mathlib.Logic.Relation
import TaggedRpc.Calls.Rendezvous
import TaggedRpc.Proofs.Calls.Pending
import TaggedRpc.Proofs.Calls.Sending

/-!
# The contest for a slot

A call has a slot on its adapter, and several want it: the answer, the timer of the
call, the guard that undoes a call which is not sent, and a failure of all calls.
The first one *wins* (`Contest.take`), and has the waiter in its hand until it ends
it. All others find nothing.

What everybody but the call itself does is `Contest.Others`. The operations of an
adapter are made of such steps: taking in an answer, closing and draining
(`Contest.exists_others_onResponse`, `Contest.exists_others_close` and their
neighbours). A failure of all calls cancels one id after another, so others come in
between.
-/

namespace TaggedRpc

/-- Who takes out the slot of a call. -/
inductive Winner where
  | answer (r : Response)
  /-- The timer of the call, after some time. -/
  | timer (elapsed : Duration)
  /-- The guard of a call that is not sent, or whose caller has gone away. -/
  | guard
  /-- A failure of all calls. -/
  | failure
  deriving DecidableEq

namespace Winner

/-- What the winner has for a call with an id, if anything. -/
def outcome (id : Int32) : Winner → Option Outcome
  | answer r => some (.ok r)
  | timer elapsed => some (.error (.timeout id elapsed))
  | guard => none
  | failure => some (.error .shutdown)

/-- Whether the call itself has won. -/
def isOwn : Winner → Bool
  | timer _ | guard => true
  | answer _ | failure => false

/-- What a suspended caller finds in its box. -/
def box : Winner → Box
  | answer r => .answered r
  | _ => .closed

end Winner

/-- An adapter, and the slot of a call on it. -/
structure Contest where
  adapter : Adapter
  winner : Option Winner := none
  /-- The winner, until it has ended the waiter. -/
  hand : Option Winner := none

namespace Contest

variable {a : Adapter} {c c' : Contest} {id : Int32} {w : Waiter} {x y : Winner}

/-- A call is registered. -/
def register (a : Adapter) (id : Int32) (w : Waiter) : Contest := { adapter := a.register id w }

/-- The waiter in the slot. -/
def slot (c : Contest) (id : Int32) : Option Waiter := c.adapter.pending.waiter? id

/-- Somebody takes out the slot, if it is still there. -/
def take (c : Contest) (id : Int32) (x : Winner) : Contest :=
  match c.adapter.cancel id with
  | (some _, adapter) => { adapter, winner := some x, hand := some x }
  | (none, adapter) => { c with adapter }

theorem take_of_slot_eq_some (h : c.slot id = some w) : c.take id x =
    { adapter := { c.adapter with pending := c.adapter.pending.erase id }
      winner := some x
      hand := some x } := by
  rw [slot] at h
  rw [take, Adapter.cancel, Pending.cancel_eq, h]

theorem take_of_slot_eq_none (h : c.slot id = none) : c.take id x = c := by
  rw [slot] at h
  rw [take, Adapter.cancel, Pending.cancel_eq, h, Pending.erase_of_waiter?_eq_none h]

theorem slot_take : (c.take id x).slot id = none := by
  cases h : c.slot id with
  | some w =>
    rw [take_of_slot_eq_some h]
    exact Pending.waiter?_erase_self
  | none => rwa [take_of_slot_eq_none h]

/-! ## The others -/

/-- A step of somebody else. -/
inductive Others (id : Int32) : Contest → Contest → Prop
  /-- The answer comes. -/
  | deliver {c : Contest} {w : Waiter} (r : Response) (now : Nat) :
      (c.adapter.onResponse r now).1 = .answered w r → r.requestId = id →
      Others id c ⟨(c.adapter.onResponse r now).2, some (.answer r), some (.answer r)⟩
  /-- A failure of all calls comes to the call. -/
  | sweep (c : Contest) : Others id c (c.take id .failure)
  /-- Something happens that does not touch the call. -/
  | apart {c : Contest} {a : Adapter} :
      c.adapter.Apart a → a.pending.waiter? id = c.adapter.pending.waiter? id →
      Others id c { c with adapter := a }

/-- The slot is there until somebody wins it, and whoever has the waiter in its hand
    has won it. -/
structure Sound (id : Int32) (c : Contest) : Prop where
  slot : (c.slot id).isSome = c.winner.isNone
  hand : ∀ x, c.hand = some x → c.winner = some x

theorem sound_register (a : Adapter) (id : Int32) (w : Waiter) : (register a id w).Sound id where
  slot := by
    rw [Contest.slot, register, Adapter.register, Pending.waiter?_register_self]
    rfl
  hand x h := by cases h

theorem Sound.slot_eq_none (hs : c.Sound id) (h : c.winner = some x) : c.slot id = none := by
  have hslot := hs.slot
  rw [h] at hslot
  simpa using hslot

theorem Sound.exists_slot (hs : c.Sound id) (h : c.winner = none) : ∃ w, c.slot id = some w := by
  have hslot := hs.slot
  rw [h] at hslot
  exact Option.isSome_iff_exists.1 hslot

/-- Whoever wants the slot gets it, if nobody was there before. -/
theorem Sound.take_cases (hs : c.Sound id) (x : Winner) :
    c.winner.isSome ∧ c.take id x = c ∨
      c.winner = none ∧ (c.take id x).winner = some x ∧ (c.take id x).hand = some x := by
  cases h : c.winner with
  | some y => exact .inl ⟨rfl, take_of_slot_eq_none (hs.slot_eq_none h)⟩
  | none =>
    obtain ⟨w, hw⟩ := hs.exists_slot h
    rw [take_of_slot_eq_some hw]
    exact .inr ⟨rfl, rfl, rfl⟩

theorem Sound.take (hs : c.Sound id) (x : Winner) : (c.take id x).Sound id := by
  rcases hs.take_cases x with ⟨-, h⟩ | ⟨-, hwinner, hhand⟩
  · rwa [h]
  · refine ⟨?_, fun y hy => ?_⟩
    · rw [slot_take, hwinner]
      rfl
    · rw [hwinner, ← hhand, hy]

theorem Sound.of_pending (hs : c.Sound id) (hpending : c'.adapter.pending = c.adapter.pending)
    (hwinner : c'.winner = c.winner) (hhand : ∀ x, c'.hand = some x → c.hand = some x) :
    c'.Sound id where
  slot := by
    rw [Contest.slot, hpending, hwinner]
    exact hs.slot
  hand x hx := hwinner.trans (hs.hand x (hhand x hx))

theorem apart_take (c : Contest) (id : Int32) (x : Winner) :
    c.adapter.Apart (c.take id x).adapter := by
  cases h : c.slot id with
  | some w =>
    rw [take_of_slot_eq_some h]
    exact .pending ..
  | none =>
    rw [take_of_slot_eq_none h]
    exact .refl _

/-- An answer takes out a slot. -/
theorem onResponse_of_answered {r r' : Response} {now : Nat}
    (h : (a.onResponse r now).1 = .answered w r') :
    a.pending.waiter? r.requestId = some w ∧
      (a.onResponse r now).2 = { a with pending := a.pending.erase r.requestId } := by
  rw [Adapter.onResponse, Pending.deliver_eq] at h ⊢
  split at h
  · split at h
    · cases h
    · split at h <;> cases h
  · next hpush =>
    rw [if_neg hpush]
    split at h
    · cases h
    · next honeway =>
      rw [if_neg honeway]
      cases hw : a.pending.waiter? r.requestId with
      | some v =>
        rw [hw] at h
        cases h
        exact ⟨rfl, rfl⟩
      | none =>
        rw [hw] at h
        cases h

theorem Others.apart_adapter (h : Others id c c') : c.adapter.Apart c'.adapter := by
  cases h with
  | deliver _ _ h hid =>
    rw [(onResponse_of_answered h).2]
    exact .pending ..
  | sweep => exact c.apart_take id .failure
  | apart h => exact h

theorem Others.sound (hs : c.Sound id) (h : Others id c c') : c'.Sound id := by
  cases h with
  | deliver _ _ h hid =>
    refine ⟨?_, fun x hx => hx⟩
    rw [Contest.slot, (onResponse_of_answered h).2, ← hid, Pending.waiter?_erase_self]
    rfl
  | sweep => exact hs.take .failure
  | apart _ hslot => exact ⟨(congrArg Option.isSome hslot).trans hs.slot, hs.hand⟩

/-- Others win, or leave it as it is. -/
theorem Others.winner_cases (hs : c.Sound id) (h : Others id c c') :
    c'.winner = c.winner ∧ c'.hand = c.hand ∨
      c.winner = none ∧ ∃ x, x.isOwn = false ∧ c'.winner = some x ∧ c'.hand = some x := by
  cases h with
  | deliver _ _ h hid =>
    have hslot := hs.slot
    rw [Contest.slot, ← hid, (onResponse_of_answered h).1] at hslot
    exact .inr ⟨by simpa using hslot.symm, _, rfl, rfl, rfl⟩
  | sweep =>
    -- A failure of all calls that comes late finds nothing.
    rcases hs.take_cases .failure with ⟨-, h⟩ | ⟨hnone, hwinner, hhand⟩
    · rw [h]
      exact .inl ⟨rfl, rfl⟩
    · exact .inr ⟨hnone, _, rfl, hwinner, hhand⟩
  | apart => exact .inl ⟨rfl, rfl⟩

end Contest

/-! ## The operations of an adapter -/

namespace Connection

@[simp] theorem calls_poll (c : Connection) (now : Nat) : (c.poll now).calls = c.calls := by
  rw [poll]
  split
  · split <;> rfl
  · rfl

@[simp] theorem calls_drain (c : Connection) (grace now : Nat) :
    (c.drain grace now).calls = c.calls := calls_poll ..

end Connection

namespace Adapter

theorem apart_replaceConnection (a : Adapter) (now : Nat) : a.Apart (a.replaceConnection now) := by
  rw [replaceConnection]
  split
  · exact .refl a
  · -- The connection that drains keeps its number, and nothing had the next number.
    constructor
    case health => rfl
    case calls =>
      intro m
      rw [callsOn, callsOn, connection?_eq_getElem?, connection?_eq_getElem?]
      rcases Nat.lt_trichotomy m a.past.length with hm | rfl | hm
      · rw [List.append_assoc, List.getElem?_append_left hm, List.getElem?_append_left hm]
      · simp
      · have hold : (a.past ++ [a.connection])[m]? = none :=
          List.getElem?_eq_none (by rwa [List.length_append])
        rw [hold, List.getElem?_append]
        split
        · next h => exact absurd (by simpa using h) (Nat.not_lt_of_le hm)
        · cases m - (a.past ++ [_]).length <;> rfl
    case connection =>
      intro m hm
      simp only [connection?_eq_getElem?, isSome_getElem?, List.length_append,
        List.length_singleton] at hm ⊢
      omega

@[simp] theorem pending_replaceConnection (a : Adapter) (now : Nat) :
    (a.replaceConnection now).pending = a.pending := by
  rw [replaceConnection]
  split <;> rfl

theorem apart_onResponse (a : Adapter) (r : Response) (now : Nat) :
    a.Apart (a.onResponse r now).2 := by
  rw [onResponse]
  split
  · split
    · exact a.apart_replaceConnection now
    · split <;> exact .refl a
  · split
    · exact .refl a
    · split <;> exact .pending ..

/-- What is not the answer to a call leaves its slot alone. -/
theorem waiter?_onResponse {a : Adapter} {r : Response} {now : Nat} {id : Int32}
    (h : ∀ w, (a.onResponse r now).1 = .answered w r → r.requestId ≠ id) :
    (a.onResponse r now).2.pending.waiter? id = a.pending.waiter? id := by
  rw [onResponse] at h ⊢
  split
  · split
    · rw [pending_replaceConnection]
    · split <;> rfl
  · next hpush =>
    split
    · rfl
    · next honeway =>
      rw [if_neg hpush, if_neg honeway, Pending.deliver_eq] at h
      rw [Pending.deliver_eq]
      cases hw : a.pending.waiter? r.requestId with
      | none => rw [Pending.erase_of_waiter?_eq_none hw]
      | some w =>
        rw [hw] at h
        exact Pending.waiter?_erase_of_ne (h w rfl).symm

theorem apart_poll (a : Adapter) (now : Nat) : a.Apart
    { a with connection := a.connection.poll now, past := a.past.map (·.poll now) } := by
  refine .of_calls rfl fun m => ?_
  have hmap : a.past.map (·.poll now) ++ [a.connection.poll now] =
      (a.past ++ [a.connection]).map (·.poll now) := by
    rw [List.map_append, List.map_singleton]
  rw [connection?_eq_getElem?, connection?_eq_getElem?, hmap, List.getElem?_map, Option.map_map]
  exact Option.map_congr fun c _ => c.calls_poll now

theorem apart_drain (a : Adapter) (grace now : Nat) : a.Apart (a.drain grace now) :=
  .current rfl rfl (a.connection.calls_drain grace now)

end Adapter

namespace Contest

open Relation (ReflTransGen)

/-- Whatever comes in is a step of the others. -/
theorem exists_others_onResponse (c : Contest) (id : Int32) (r : Response) (now : Nat) :
    ∃ c', Others id c c' ∧ c'.adapter = (c.adapter.onResponse r now).2 := by
  by_cases h : ∃ w, (c.adapter.onResponse r now).1 = .answered w r ∧ r.requestId = id
  · obtain ⟨w, hw, hid⟩ := h
    exact ⟨_, .deliver r now hw hid, rfl⟩
  · refine ⟨_, .apart (c.adapter.apart_onResponse r now) (Adapter.waiter?_onResponse ?_), rfl⟩
    exact fun w hw hid => h ⟨w, hw, hid⟩

/-- A failure of all calls cancels one id after another. -/
theorem exists_others_erase (c : Contest) (id : Int32) (ids : List Int32) :
    ∃ c', ReflTransGen (Others id) c c' ∧
      c'.adapter = { c.adapter with pending := ids.foldl Pending.erase c.adapter.pending } := by
  induction ids generalizing c with
  | nil => exact ⟨c, .refl, rfl⟩
  | cons i ids ih =>
    suffices ∃ c', Others id c c' ∧
        c'.adapter = { c.adapter with pending := c.adapter.pending.erase i } by
      obtain ⟨c', hfirst, hadapter⟩ := this
      obtain ⟨c'', hrest, hadapter'⟩ := ih c'
      refine ⟨c'', .head hfirst hrest, ?_⟩
      rw [hadapter', hadapter, List.foldl_cons]
    -- Only the step on the slot of the call itself can win it.
    by_cases hi : i = id
    · subst hi
      refine ⟨_, .sweep c, ?_⟩
      cases h : c.slot i with
      | some w => rw [take_of_slot_eq_some h]
      | none => rw [take_of_slot_eq_none h, Pending.erase_of_waiter?_eq_none h]
    · exact ⟨_, .apart (.pending ..) (Pending.waiter?_erase_of_ne (Ne.symm hi)), rfl⟩

theorem exists_others_failAll (c : Contest) (id : Int32) :
    ∃ c', ReflTransGen (Others id) c c' ∧ c'.adapter = c.adapter.failAll.2 := by
  obtain ⟨c', hs, hadapter⟩ := c.exists_others_erase id c.adapter.pending.ids
  rw [Pending.foldl_erase_ids] at hadapter
  exact ⟨c', hs, hadapter⟩

/-- Closing is made of steps of the others. -/
theorem exists_others_close (c : Contest) (id : Int32) :
    ∃ c', ReflTransGen (Others id) c c' ∧ c'.adapter = c.adapter.close.2 := by
  have hshut : Others id c { c with adapter :=
      { c.adapter with closed := true, connection := c.adapter.connection.shutdown } } :=
    .apart (.current rfl rfl rfl) rfl
  obtain ⟨c', hs, hadapter⟩ := exists_others_failAll { c with adapter :=
      { c.adapter with closed := true, connection := c.adapter.connection.shutdown } } id
  exact ⟨c', .head hshut hs, hadapter⟩

/-- To drain is a step of the others. -/
theorem exists_others_drain (c : Contest) (id : Int32) (grace now : Nat) :
    ∃ c', Others id c c' ∧ c'.adapter = c.adapter.drain grace now :=
  ⟨_, .apart (c.adapter.apart_drain grace now) rfl, rfl⟩

/-- The end of draining is made of steps of the others. -/
theorem exists_others_poll (c : Contest) (id : Int32) (now : Nat) :
    ∃ c', ReflTransGen (Others id) c c' ∧ c'.adapter = (c.adapter.poll now).2 := by
  have hpoll : Others id c { c with adapter := { c.adapter with
      connection := c.adapter.connection.poll now, past := c.adapter.past.map (·.poll now) } } :=
    .apart (c.adapter.apart_poll now) rfl
  rw [Adapter.poll]
  split
  · obtain ⟨c', hs, hadapter⟩ := exists_others_failAll { c with adapter := { c.adapter with
      connection := c.adapter.connection.poll now, past := c.adapter.past.map (·.poll now) } } id
    exact ⟨c', .head hpoll hs, hadapter⟩
  · exact ⟨_, .single hpoll, rfl⟩

end Contest

end TaggedRpc
