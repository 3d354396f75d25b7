import TaggedRpc.Proofs.Wire.Loops

/-!
# Readers of hostile bytes

Whatever bytes a reader is given and whatever it is asked for, it stays within its
bytes and its depth, and comes to an end.

What is done with a reader is a *routine*: operations one after another, each
chosen by the outcomes of those before. A routine may go on after a failure, and
may do to the inside of a struct what another routine says.

* `Routine.moments`: the reader before and after every operation;
* `Routine.safe`: what holds at each of them and in between.
-/

namespace TaggedRpc.Wire

open Read Script

/-! ## Counts -/

namespace Read

variable {α : Type} {r s : Reader} {n : Nat}

/-- A count that is accepted does not exceed the bytes left. -/
theorem le_of_length_eq_ok (h : length r = .ok n s) : n ≤ s.rest.length := by
  rw [length, get_bind] at h
  split at h
  · cases h
  obtain ⟨head, t, -, hhead⟩ := exists_of_bind_eq_ok h
  dsimp only at hhead
  split at hhead
  · cases hhead
  obtain ⟨_, u, -, hskip⟩ := exists_of_bind_eq_ok hhead
  obtain ⟨v, w, -, hpayload⟩ := exists_of_bind_eq_ok hskip
  rw [get_bind] at hpayload
  split at hpayload
  · cases hpayload
  · cases hpayload
    omega

/-- What a field that is found answers is what its payload does. -/
theorem exists_of_field_eq_some {payload : WireType → Read α} {tag : Tag} {required : Bool} {a : α}
    (h : field tag required payload r = .ok (some a) s) : ∃ ty t, payload ty t = .ok a s := by
  obtain ⟨ty, t, -, hfield⟩ := exists_of_bind_eq_ok h
  cases ty with
  | none => cases hfield
  | some ty =>
    obtain ⟨a', hpayload, hsome⟩ := exists_of_map_eq_ok hfield
    cases hsome
    exact ⟨ty, t, hpayload⟩

theorem le_of_listLength_eq_some {tag : Tag} {required : Bool}
    (h : listLength tag required r = .ok (some n) s) : n ≤ s.rest.length := by
  obtain ⟨ty, t, hpayload⟩ := exists_of_field_eq_some h
  split at hpayload
  · exact le_of_length_eq_ok hpayload
  · cases hpayload
  · cases hpayload

theorem le_of_mapLength_eq_some {tag : Tag} {required : Bool}
    (h : mapLength tag required r = .ok (some n) s) : n ≤ s.rest.length := by
  obtain ⟨ty, t, hpayload⟩ := exists_of_field_eq_some h
  split at hpayload
  · exact le_of_length_eq_ok hpayload
  · cases hpayload

end Read

/-! ## Routines -/

/-- What is done with a reader, on the way to an outcome. -/
inductive Routine : Type → Type 1
  /-- The end, with an answer or a failure. -/
  | done {α : Type} (outcome : Except DecodeError α) : Routine α
  /-- An operation, and what is done after each of its outcomes. -/
  | call {α : Type} (step : Step) (next : Except DecodeError Answer → Routine α) : Routine α
  /-- A routine inside a struct, and what is done after each of its outcomes. -/
  | nested {α β : Type} (body : Routine β) (next : Except DecodeError β → Routine α) : Routine α

/-- An operation as the reader sees it. -/
structure Moment where
  /-- The reader before the operation. -/
  before : Reader
  /-- The reader after the operation, whether it succeeded or failed. -/
  after : Reader
  deriving DecidableEq

/-- An operation does no harm in a byte string. -/
structure Moment.Sound (m : Moment) (bs : Bytes) : Prop where
  /-- It begins in the byte string. -/
  before : m.before.In bs
  /-- It ends in the byte string. -/
  after : m.after.In bs
  /-- It does not go back. -/
  forward : m.before.pos ≤ m.after.pos
  /-- It leaves the depth as it was. -/
  depth : m.after.depth = m.before.depth

namespace Routine

variable {α : Type} (σ : Schema)

/-- Carries out a routine. -/
def run {α : Type} : Routine α → Read α
  | done (.ok a) => pure a
  | done (.error e) => throw e
  | call step next => do (next (← attempt (exec σ step))).run
  | nested body next => do (next (← attempt (Read.nested body.run))).run

/-- The operations of a routine, those inside a struct before the struct itself. -/
def moments {α : Type} : Routine α → Reader → List Moment
  | done _, _ => []
  | call step next, r =>
    let x := exec σ step
    ⟨r, x.after r⟩ :: (next (x.outcome r)).moments (x.after r)
  | nested body next, r =>
    let x := Read.nested (body.run σ)
    (if r.depth < maxNesting then body.moments { r with depth := r.depth + 1 } else []) ++
      ⟨r, x.after r⟩ :: (next (x.outcome r)).moments (x.after r)

/-- A routine is made of operations, and they are made of what touches the reader. -/
theorem made_run {α : Type} : ∀ p : Routine α, Made (p.run σ)
  | done (.ok a) => made_pure a
  | done (.error e) => made_throw e
  | call step next => (made_exec σ step).attempt.bind fun o => made_run (next o)
  | nested body next => (made_run body).nested.attempt.bind fun o => made_run (next o)

variable {σ} {bs : Bytes} {r : Reader}

theorem sound_of_made {x : Read α} (h : Made x) (hr : r.In bs) :
    Moment.Sound ⟨r, x.after r⟩ bs :=
  ⟨hr, hr.ahead (h.ahead r), (h.ahead r).pos_le, (h.ahead r).depth_eq⟩

theorem sound_moments {α : Type} : ∀ (p : Routine α) {r : Reader}, r.In bs →
    ∀ m ∈ p.moments σ r, m.Sound bs
  | done _, _, _ => List.forall_mem_nil _
  | call step next, r, hr => by
    have hmade := made_exec σ step
    exact List.forall_mem_cons.2
      ⟨sound_of_made hmade hr, sound_moments (next _) (hr.ahead (hmade.ahead r))⟩
  | nested body next, r, hr => by
    have hmade := (body.made_run σ).nested
    refine List.forall_mem_append.2 ⟨?_, List.forall_mem_cons.2
      ⟨sound_of_made hmade hr, sound_moments (next _) (hr.ahead (hmade.ahead r))⟩⟩
    split
    · exact sound_moments body (hr.deeper ‹_›)
    · exact List.forall_mem_nil _

/-- Whatever a reader is asked for, and on whatever bytes:

    * no operation, whether it succeeds or fails, takes the reader back, beyond the
      end of the bytes or to another depth, and no depth exceeds `maxNesting`;
    * in between, only bytes of the byte string are looked at, from the front to
      the back, and never too deep;
    * the loops that seek and skip do not come to a next turn without having
      consumed a byte, and so end; nor do those that a count bounds;
    * a count that is accepted does not exceed the bytes left. -/
theorem safe {α : Type} (σ : Schema) (bs : Bytes) (p : Routine α) :
    (∀ m ∈ p.moments σ (.ofBytes bs), m.Sound bs) ∧
      (Nonempty (Anatomy (p.run σ)) ∧ ∀ c : Anatomy (p.run σ),
        (∀ t ∈ c.touches (.ofBytes bs), t.Within bs) ∧
          (c.touches (.ofBytes bs)).Pairwise fun t u => t.reader.pos ≤ u.reader.pos) ∧
      ((∀ tag required, Loop (seekTurn tag required) (seek tag required)) ∧
        Loop structTurn skipToStructEnd ∧
        skipField .list = (do deeper (times skipAny (← length))) ∧
        skipField .map = (do deeper (times skipAny (2 * (← length)))) ∧
        Consumes skipAny ∧ Consumes (int8 0 true)) ∧
      ∀ (r s : Reader) (n : Nat), length r = .ok n s ∨
        (∃ tag required, listLength tag required r = .ok (some n) s) ∨
        (∃ tag required, mapLength tag required r = .ok (some n) s) → n ≤ s.rest.length := by
  refine ⟨sound_moments p (Reader.in_ofBytes bs), ⟨p.made_run σ, fun c =>
    ⟨c.within (Reader.in_ofBytes bs), c.pairwise_touches _⟩⟩, ⟨loop_seek, loop_skipToStructEnd,
    skipField_list, skipField_map, consumes_skipAny, consumes_int8 0⟩, ?_⟩
  rintro r s n (h | ⟨tag, required, h⟩ | ⟨tag, required, h⟩)
  · exact le_of_length_eq_ok h
  · exact le_of_listLength_eq_some h
  · exact le_of_mapLength_eq_some h

/-! ### A struct cut short -/

/-- A struct with a field at tag 1 and a list whose count is too high. -/
def cutShort : Bytes := [0x0A, 0x10, 12, 0x29, 0x00, 100]

/-- Enters the struct, asks it for a text where there is a number, and then for a list. -/
def impatient : Routine Answer :=
  .call (.enterStruct 0 true) fun _ =>
    .nested (.call (.optional .string 1 true) fun _ => .call (.listLength 2 true) .done) .done

theorem safe_cutShort :
    impatient.moments [] (.ofBytes cutShort) =
        [⟨.ofBytes cutShort, ⟨cutShort.drop 1, 1, 0⟩⟩,
          ⟨⟨cutShort.drop 1, 1, 1⟩, ⟨cutShort.drop 2, 2, 1⟩⟩,
          ⟨⟨cutShort.drop 2, 2, 1⟩, ⟨[], 6, 1⟩⟩, ⟨⟨cutShort.drop 1, 1, 0⟩, ⟨[], 6, 0⟩⟩] ∧
      Moment.Sound ⟨⟨cutShort.drop 2, 2, 1⟩, ⟨[], 6, 1⟩⟩ cutShort := by
  refine ⟨by decide, (safe [] cutShort impatient).1 _ ?_⟩
  decide

end Routine

end TaggedRpc.Wire
