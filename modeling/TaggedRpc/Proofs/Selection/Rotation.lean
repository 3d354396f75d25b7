import Mathlib.Data.List.Count
import Mathlib.Data.List.Induction
import Mathlib.Data.List.Rotate
import TaggedRpc.Proofs.Selection.Representation

/-!
# Turns are fair

Any number of picks share a rotation. Each of them reads the endpoints while nobody can change them:
it takes the next number, by one atomic step on a cursor, and then picks the endpoint whose slot the
number falls on (`Scene.play`). Changes wait until nobody reads, and come in between, and picks may
overtake each other between any two of their steps. When nothing comes in between, the steps of one
pick add up to `RoundRobin.select` (`Rotation.exists_steps_select`).

Whatever the order is, the numbers that are taken between two changes are consecutive words, and a
pick that has taken one returns the endpoint of its number before the endpoints change
(`Rotation.Sound`). A rotation has its *slots*, the weight list or else every endpoint once, and
numbers go round them. So as many consecutive numbers as there are slots hit each slot once,
wherever they start, unless a cursor wraps around in their midst (`Rotation.fair_round`).
-/

namespace TaggedRpc.Selection.Rotation

/-! ## One rotation -/

/-- The number of the last pick: from the weight list, unless it is empty. -/
def last (s : RoundRobin) : UInt64 :=
  if s.members.weightList.isEmpty then s.cursor else s.weightCursor

/-- Counts one more pick. -/
def advance (s : RoundRobin) : RoundRobin :=
  if s.members.weightList.isEmpty then { s with cursor := s.cursor + 1 }
  else { s with weightCursor := s.weightCursor + 1 }

/-- A rotation after a change that does not fail. It starts at the numbers that it is given. -/
def change (s : RoundRobin) (c : Change) (cursor weightCursor : UInt64) :
    Except SelectError RoundRobin := do
  let m ← s.members.change RoundRobin.name c
  pure { s with members := m.reweigh s.weighted, cursor, weightCursor }

@[simp] theorem members_advance (s : RoundRobin) : (advance s).members = s.members := by
  rw [advance]
  split <;> rfl

@[simp] theorem last_advance (s : RoundRobin) : last (advance s) = last s + 1 := by
  rw [last, members_advance, last, advance]
  split <;> rfl

/-- A selection counts one more pick, and picks the endpoint of its number. -/
theorem select_eq (s : RoundRobin) : s.select =
    if s.members.endpoints.isEmpty then (.error (.empty RoundRobin.name), s)
    else (s.members.pick RoundRobin.name (last s + 1).toNat, advance s) := by
  rw [last, advance, RoundRobin.select]
  split
  · rfl
  · split <;> rfl

/-- Wherever a rotation starts by chance, it may be made to start. -/
theorem exists_change_eq (s : RoundRobin) (c : Change) (draw : Nat) :
    ∃ cursor weightCursor, change s c cursor weightCursor =
      match c with
      | .add e => s.add e draw
      | .remove e => s.remove e draw
      | .refresh es => .ok (s.refresh es draw) := by
  cases c with
  | add e =>
    simp only [change, Members.change, RoundRobin.add]
    rcases s.members.add RoundRobin.name e with err | m
    · exact ⟨0, 0, rfl⟩
    · exact ⟨_, _, rfl⟩
  | remove e =>
    simp only [change, Members.change, RoundRobin.remove]
    rcases s.members.remove RoundRobin.name e with err | m
    · exact ⟨0, 0, rfl⟩
    · exact ⟨_, _, rfl⟩
  | refresh es => exact ⟨_, _, rfl⟩

theorem kept_change {s s' : RoundRobin} (h : s.members.Kept) {c : Change}
    {cursor weightCursor : UInt64} (hs' : change s c cursor weightCursor = .ok s') :
    s'.members.Kept := by
  have hlists : s.members.Lists s.members.endpoints := ⟨rfl, h.listing⟩
  have houtcome := hlists.change RoundRobin.name c
  rw [change] at hs'
  generalize s.members.change RoundRobin.name c = r at hs' houtcome
  cases houtcome with
  | error => cases hs'
  | ok hnew =>
    cases hs'
    exact hnew.kept_reweigh _

/-! ## Slots -/

/-- The positions that take turns. -/
def slots (m : Members) : List Nat :=
  if m.weightList.isEmpty then List.range m.endpoints.length else m.weightList

theorem lt_length_of_mem_slots {m : Members} (h : m.Kept) {i : Nat} (hi : i ∈ slots m) :
    i < m.endpoints.length := by
  rw [slots] at hi
  split at hi
  · exact List.mem_range.1 hi
  · next hweights =>
    exact (h.weights.resolve_left (mt List.isEmpty_iff.2 hweights) i).1 hi

/-- A number picks the endpoint whose slot it falls on. -/
theorem pick_eq_ok_iff {m : Members} (h : m.Kept) {j : Nat} (hj : j < m.endpoints.length)
    (n : Nat) : m.pick RoundRobin.name n = .ok m.endpoints[j] ↔
      (slots m)[n % (slots m).length]? = some j := by
  have hindex : (if m.weightList.isEmpty then some (n % m.endpoints.length)
      else m.weightList[n % m.weightList.length]?) = (slots m)[n % (slots m).length]? := by
    rw [slots]
    split
    · rw [List.length_range, List.getElem?_range (Nat.mod_lt _ (Nat.zero_lt_of_lt hj))]
    · rfl
  rw [Members.pick, hindex]
  cases hslot : (slots m)[n % (slots m).length]? with
  | none => simp
  | some i =>
    have hi := lt_length_of_mem_slots h (List.mem_of_getElem? hslot)
    simp [hi, h.listing.nodup.getElem_inj_iff]

/-- A round of consecutive numbers falls on every slot once, wherever it starts. -/
theorem count_round (l : List Nat) (n j : Nat) :
    ((List.range' n l.length).map fun k => l[k % l.length]?).count (some j) = l.count j := by
  have hround : ((List.range' n l.length).map fun k => l[k % l.length]?) =
      (l.rotate n).map some := by
    refine List.ext_getElem (by simp) fun k hk _ => ?_
    have hlt : k < l.length := by simpa using hk
    have hmod : (n + k) % l.length < l.length := Nat.mod_lt _ (Nat.zero_lt_of_lt hlt)
    simp [List.getElem_rotate, hmod, Nat.add_comm]
  rw [hround, List.count_map_of_injective _ _ (Option.some_injective _)]
  exact (l.rotate_perm n).count_eq j

/-! ## Picks -/

/-- How far a pick has come. -/
inductive Pick where
  | waiting
  /-- It reads the endpoints, and nobody can change them. -/
  | reading
  /-- It has taken a number, and reads on. -/
  | numbered (n : UInt64)
  | returned (n : UInt64) (r : Except SelectError Endpoint)
  /-- There was nothing to pick, and no number to take. -/
  | failed
  deriving Repr

namespace Pick

/-- Whether it keeps the endpoints from being changed. -/
def isInside : Pick → Bool
  | reading | numbered _ => true
  | _ => false

/-- The number that it has taken. -/
def number? : Pick → Option UInt64
  | numbered n | returned n _ => some n
  | _ => none

/-- What it has given. -/
def result? : Pick → Option (Except SelectError Endpoint)
  | returned _ r => some r
  | failed => some (.error (.empty RoundRobin.name))
  | _ => none

end Pick

/-- A rotation with all picks so far, in the order in which they were asked for. -/
structure Scene where
  rotation : RoundRobin
  picks : List Pick := []
  /-- Those that have taken a number since the endpoints last changed, in this order. -/
  turns : List Nat := []
  deriving Repr

/-- What comes next: one more pick, a step of one of them, or a change. -/
inductive Move where
  | start
  | go (i : Nat)
  | change (c : Change) (cursor weightCursor : UInt64)
  deriving DecidableEq, Repr

namespace Scene

/-- A scene after a move. A pick that is over stays as it is. -/
def play (s : Scene) : Move → Scene
  | .start => { s with picks := s.picks ++ [.waiting] }
  | .go i =>
    match s.picks[i]? with
    | some .waiting => { s with picks := s.picks.set i .reading }
    | some .reading =>
      if s.rotation.members.endpoints.isEmpty then { s with picks := s.picks.set i .failed }
      else
        { rotation := advance s.rotation
          picks := s.picks.set i (.numbered (last s.rotation + 1))
          turns := s.turns ++ [i] }
    | some (.numbered n) =>
      let r := s.rotation.members.pick RoundRobin.name n.toNat
      { s with picks := s.picks.set i (.returned n r) }
    | _ => s
  | .change c cursor weightCursor =>
    if s.picks.any Pick.isInside then s
    else
      match Rotation.change s.rotation c cursor weightCursor with
      | .ok rotation => { s with rotation, turns := [] }
      | .error _ => s

/-- The number that a pick has taken. -/
def number? (s : Scene) (i : Nat) : Option UInt64 := s.picks[i]?.bind Pick.number?

/-- What a pick has given. -/
def result? (s : Scene) (i : Nat) : Option (Except SelectError Endpoint) :=
  s.picks[i]?.bind Pick.result?

/-- The endpoint that a pick has given. -/
def endpoint? (s : Scene) (i : Nat) : Option Endpoint :=
  (s.result? i).bind Except.toOption

end Scene

/-- The scene after moves, one after another, of a rotation without endpoints. -/
def after (weighted : Bool) (moves : List Move) : Scene :=
  moves.foldl Scene.play { rotation := { weighted } }

variable {s s' : Scene} {m : Move} {i : Nat}

/-- What a move can do to a pick that takes no number. -/
inductive Step (m : Members) : Pick → Pick → Prop
  | read : Step m .waiting .reading
  | fail : m.endpoints = [] → Step m .reading .failed
  | give (n : UInt64) : Step m (.numbered n) (.returned n (m.pick RoundRobin.name n.toNat))

/-- What a move can do. -/
inductive Played (s : Scene) : Move → Scene → Prop
  | start : Played s .start { s with picks := s.picks ++ [.waiting] }
  | go {i : Nat} {p p' : Pick} : s.picks[i]? = some p → Step s.rotation.members p p' →
    Played s (.go i) { s with picks := s.picks.set i p' }
  | take {i : Nat} : s.picks[i]? = some .reading → s.rotation.members.endpoints ≠ [] →
    Played s (.go i) { rotation := advance s.rotation
                       picks := s.picks.set i (.numbered (last s.rotation + 1))
                       turns := s.turns ++ [i] }
  | change {c : Change} {cursor weightCursor : UInt64} {rotation : RoundRobin} :
    (∀ p ∈ s.picks, p.isInside = false) →
    change s.rotation c cursor weightCursor = .ok rotation →
    Played s (.change c cursor weightCursor) { s with rotation, turns := [] }
  /-- Nobody has moved, or a change has failed or has to wait. -/
  | idle {m : Move} : Played s m s

theorem played (s : Scene) (m : Move) : Played s m (s.play m) := by
  cases m with
  | start => exact .start
  | go i =>
    rw [Scene.play]
    split
    · exact .go ‹_› .read
    · split
      · exact .go ‹_› (.fail (List.isEmpty_iff.1 ‹_›))
      · exact .take ‹_› (mt List.isEmpty_iff.2 ‹_›)
    · exact .go ‹_› (.give _)
    · exact .idle
  | change c cursor weightCursor =>
    rw [Scene.play]
    split
    · exact .idle
    · next hoff =>
      split
      · exact .change (by simpa using hoff) ‹_›
      · exact .idle

theorem after_concat (weighted : Bool) (moves : List Move) (m : Move) :
    after weighted (moves ++ [m]) = (after weighted moves).play m :=
  List.foldl_concat ..

/-- When nothing comes in between, the steps of a pick add up to `RoundRobin.select`. -/
theorem exists_steps_select (h : s.picks[i]? = some .waiting) :
    ∃ steps, ((List.replicate steps (Move.go i)).foldl Scene.play s).rotation =
        s.rotation.select.2 ∧
      ((List.replicate steps (Move.go i)).foldl Scene.play s).result? i =
        some s.rotation.select.1 := by
  obtain ⟨hi, hpick⟩ := List.getElem?_eq_some_iff.1 h
  rw [select_eq]
  by_cases hempty : s.rotation.members.endpoints = []
  · refine ⟨2, ?_⟩
    simp [List.replicate, Scene.play, Scene.result?, Pick.result?, hi, hpick, hempty]
  · refine ⟨3, ?_⟩
    simp [List.replicate, Scene.play, Scene.result?, Pick.result?, hi, hpick, hempty]

/-! ## What numbers are taken -/

/-- A pick that has taken a number among members, and has given, if anything, what it picks. -/
inductive Took (m : Members) (n : UInt64) : Pick → Prop
  | numbered : Took m n (.numbered n)
  | returned : Took m n (.returned n (m.pick RoundRobin.name n.toNat))

/-- Those who have taken numbers since the endpoints last changed took consecutive ones, up to the
    last, and pick by them, from endpoints that there are; nobody else has a number without having
    returned. -/
structure Sound (s : Scene) : Prop where
  kept : s.rotation.members.Kept
  turns : ∃ start : UInt64, last s.rotation = start + .ofNat s.turns.length ∧
    ∀ k i, s.turns[k]? = some i →
      ∃ p, s.picks[i]? = some p ∧ Took s.rotation.members (start + .ofNat (k + 1)) p
  current : ∀ i n, s.picks[i]? = some (.numbered n) → i ∈ s.turns
  supplied : s.turns ≠ [] → s.rotation.members.endpoints ≠ []

theorem Step.took {m : Members} {n : UInt64} {p p' : Pick} (h : Step m p p') (hp : Took m n p) :
    Took m n p' := by
  cases h with
  | give =>
    cases hp
    exact .returned
  | read | fail => exact nomatch hp

theorem Step.ne_numbered {m : Members} {n : UInt64} {p p' : Pick} (h : Step m p p') :
    p' ≠ .numbered n := by
  cases h <;> simp

theorem getElem?_concat_eq_some {α : Type} {l : List α} {a b : α} {k : Nat}
    (h : (l ++ [a])[k]? = some b) : l[k]? = some b ∨ k = l.length ∧ a = b := by
  rw [List.getElem?_append] at h
  split at h
  · exact .inl h
  · obtain ⟨hlt, heq⟩ := List.getElem?_eq_some_iff.1 h
    rw [List.length_singleton] at hlt
    exact .inr ⟨by omega, by simpa using heq⟩

/-- A pick that moves on keeps the number that it has taken. -/
theorem exists_took_set {m : Members} {n : UInt64} {i j : Nat} {p p' : Pick} {picks : List Pick}
    (hp : picks[i]? = some p) (hstep : Took m n p → Took m n p')
    (h : ∃ p, picks[j]? = some p ∧ Took m n p) :
    ∃ p, (picks.set i p')[j]? = some p ∧ Took m n p := by
  obtain ⟨q, hq, htook⟩ := h
  rcases eq_or_ne i j with rfl | hne
  · obtain rfl := Option.some.inj (hp.symm.trans hq)
    obtain ⟨hi, -⟩ := List.getElem?_eq_some_iff.1 hp
    exact ⟨p', by simp [hi], hstep htook⟩
  · exact ⟨q, by rwa [List.getElem?_set_ne hne], htook⟩

namespace Sound

theorem start (hs : Sound s) : Sound { s with picks := s.picks ++ [.waiting] } := by
  obtain ⟨start, hlast, hturns⟩ := hs.turns
  refine ⟨hs.kept, ⟨start, hlast, fun k i hk => ?_⟩, fun i n hn => ?_, hs.supplied⟩
  · obtain ⟨p, hp, htook⟩ := hturns k i hk
    obtain ⟨hi, -⟩ := List.getElem?_eq_some_iff.1 hp
    exact ⟨p, by rwa [List.getElem?_append_left hi], htook⟩
  · rcases getElem?_concat_eq_some hn with hn | ⟨-, hnew⟩
    · exact hs.current i n hn
    · exact nomatch hnew

theorem go {p p' : Pick} (hs : Sound s) (hp : s.picks[i]? = some p)
    (hstep : Step s.rotation.members p p') : Sound { s with picks := s.picks.set i p' } := by
  obtain ⟨start, hlast, hturns⟩ := hs.turns
  refine ⟨hs.kept, ⟨start, hlast, fun k j hk => ?_⟩, fun j n hn => ?_, hs.supplied⟩
  · exact exists_took_set hp hstep.took (hturns k j hk)
  · rcases eq_or_ne i j with rfl | hne
    · obtain ⟨hi, -⟩ := List.getElem?_eq_some_iff.1 hp
      rw [List.getElem?_set_self hi] at hn
      exact absurd (Option.some.inj hn) hstep.ne_numbered
    · rw [List.getElem?_set_ne hne] at hn
      exact hs.current j n hn

/-- The next number goes to the next turn. -/
theorem take (hs : Sound s) (hp : s.picks[i]? = some .reading)
    (hne : s.rotation.members.endpoints ≠ []) :
    Sound { rotation := advance s.rotation
            picks := s.picks.set i (.numbered (last s.rotation + 1))
            turns := s.turns ++ [i] } := by
  obtain ⟨start, hlast, hturns⟩ := hs.turns
  have hnumber : last s.rotation + 1 = start + .ofNat (s.turns.length + 1) := by
    rw [hlast, UInt64.ofNat_add, UInt64.add_assoc]
    rfl
  obtain ⟨hi, -⟩ := List.getElem?_eq_some_iff.1 hp
  refine ⟨by simpa using hs.kept, ⟨start, by simpa using hnumber, fun k j hk => ?_⟩,
    fun j n hn => ?_, fun _ => by simpa using hne⟩
  · rw [members_advance]
    rcases getElem?_concat_eq_some hk with hk | ⟨rfl, rfl⟩
    · exact exists_took_set hp nofun (hturns k j hk)
    · rw [hnumber]
      exact ⟨_, List.getElem?_set_self hi, .numbered⟩
  · rcases eq_or_ne i j with rfl | hne
    · exact List.mem_append_right _ (List.mem_singleton_self i)
    · rw [List.getElem?_set_ne hne] at hn
      exact List.mem_append_left _ (hs.current j n hn)

/-- After a change nobody has taken a number, and who had one has returned. -/
theorem change {c : Change} {cursor weightCursor : UInt64} {rotation : RoundRobin} (hs : Sound s)
    (hoff : ∀ p ∈ s.picks, p.isInside = false)
    (hchange : Rotation.change s.rotation c cursor weightCursor = .ok rotation) :
    Sound { s with rotation, turns := [] } := by
  refine ⟨kept_change hs.kept hchange, ⟨_, (UInt64.add_zero (last _)).symm, nofun⟩,
    fun i n hn => ?_, absurd rfl⟩
  exact absurd (hoff _ (List.mem_of_getElem? hn)) (by simp [Pick.isInside])

end Sound

theorem Played.sound (h : Played s m s') (hs : Sound s) : Sound s' := by
  cases h with
  | start => exact hs.start
  | go hp hstep => exact hs.go hp hstep
  | take hp hne => exact hs.take hp hne
  | change hoff hchange => exact hs.change hoff hchange
  | idle => exact hs

theorem sound_after (weighted : Bool) (moves : List Move) : Sound (after weighted moves) := by
  induction moves using List.reverseRecOn with
  | nil => exact ⟨⟨.nil, .inl rfl⟩, ⟨_, (UInt64.add_zero (last _)).symm, nofun⟩, nofun, absurd rfl⟩
  | append_singleton moves m ih =>
    rw [after_concat]
    exact (played ..).sound ih

/-! ## Rounds -/

theorem length_slots (m : Members) : (slots m).length =
    if m.weightList = [] then m.endpoints.length else m.weightList.length := by
  simp only [slots, List.isEmpty_iff]
  split <;> simp

theorem count_slots {m : Members} {j : Nat} (hj : j < m.endpoints.length) : (slots m).count j =
    if m.weightList = [] then 1 else m.weightList.count j := by
  simp only [slots, List.isEmpty_iff]
  split
  · exact List.count_eq_one_of_mem List.nodup_range (List.mem_range.2 hj)
  · rfl

/-- Those who have taken numbers took consecutive ones. -/
theorem Sound.map_number? (h : Sound s) : ∃ start : UInt64, s.turns.map s.number? =
    (List.range s.turns.length).map fun k => some (start + .ofNat (k + 1)) := by
  obtain ⟨start, -, hturns⟩ := h.turns
  refine ⟨start, List.ext_getElem (by simp) fun k hk _ => ?_⟩
  have hlt : k < s.turns.length := by simpa using hk
  obtain ⟨p, hp, htook⟩ := hturns k _ (List.getElem?_eq_getElem hlt)
  rw [List.getElem_map, List.getElem_map, List.getElem_range, Scene.number?, hp]
  cases htook <;> rfl

/-- Whoever has taken a number returns an endpoint with its next step. -/
theorem Sound.exists_endpoint? (h : Sound s) {n : UInt64} (hn : s.picks[i]? = some (.numbered n)) :
    ∃ e ∈ s.rotation.members.endpoints, (s.play (.go i)).endpoint? i = some e := by
  have hne := h.supplied (List.ne_nil_of_mem (h.current i n hn))
  obtain ⟨e, he⟩ := (h.kept.ready hne).exists_pick RoundRobin.name n.toNat
  obtain ⟨hi, hpick⟩ := List.getElem?_eq_some_iff.1 hn
  refine ⟨e, Members.mem_of_pick he, ?_⟩
  simp [Scene.play, Scene.endpoint?, Scene.result?, Pick.result?, Except.toOption, hi, hpick, he]

/-- A pick that is over has given what its number picks. -/
theorem Sound.endpoint?_eq (h : Sound s) (hi : i ∈ s.turns) (hover : (s.result? i).isSome) :
    s.endpoint? i = (s.number? i).bind fun n =>
      (s.rotation.members.pick RoundRobin.name n.toNat).toOption := by
  obtain ⟨start, -, hturns⟩ := h.turns
  obtain ⟨k, hk⟩ := List.getElem?_of_mem hi
  obtain ⟨p, hp, htook⟩ := hturns k i hk
  rw [Scene.endpoint?, Scene.number?, Scene.result?, hp]
  rw [Scene.result?, hp] at hover
  cases htook with
  | numbered => exact nomatch hover
  | returned => rfl

/-- Picks with numbers that follow each other have given what the numbers pick. -/
theorem Sound.map_endpoint? (h : Sound s) {n size : Nat} {picks : List Nat}
    (hsize : n + size ≤ 2 ^ 64) (hturns : picks ⊆ s.turns)
    (hnumbers : picks.map s.number? = (List.range' n size).map fun k => some (.ofNat k))
    (hover : ∀ i ∈ picks, (s.result? i).isSome) :
    picks.map s.endpoint? = (List.range' n size).map fun k =>
      (s.rotation.members.pick RoundRobin.name k).toOption := by
  calc picks.map s.endpoint?
      = (picks.map s.number?).map fun number => number.bind fun n =>
          (s.rotation.members.pick RoundRobin.name n.toNat).toOption := by
        rw [List.map_map]
        exact List.map_congr_left fun i hi => h.endpoint?_eq (hturns hi) (hover i hi)
    _ = _ := by
        rw [hnumbers, List.map_map]
        refine List.map_congr_left fun k hk => ?_
        have hlt : k < 2 ^ 64 := by
          rw [List.mem_range'_1] at hk
          omega
        rw [Function.comp_apply, Option.bind_some, UInt64.toNat_ofNat_of_lt' hlt]

/-- As many numbers as there are slots, one after another, pick an endpoint once for every slot of
    its own. -/
theorem count_picks {m : Members} (h : m.Kept) {j : Nat} (hj : j < m.endpoints.length) (n : Nat) :
    ((List.range' n (slots m).length).map fun k => (m.pick RoundRobin.name k).toOption).count
      (some m.endpoints[j]) = (slots m).count j := by
  have hslot : ∀ k, (m.pick RoundRobin.name k).toOption = some m.endpoints[j] ↔
      (slots m)[k % (slots m).length]? = some j := by
    intro k
    rw [← pick_eq_ok_iff h hj]
    cases m.pick RoundRobin.name k <;> simp [Except.toOption]
  rw [← count_round _ n, List.count, List.count, List.countP_map, List.countP_map]
  exact List.countP_congr fun k _ => by simpa using hslot k

/-- The numbers that have been taken since the endpoints last changed are consecutive. Whoever has
    taken one and not returned is among those who have taken these, and its next step returns an
    endpoint. As many picks as there are slots, whose numbers follow each other and do not wrap
    around, have given each endpoint as often as the weight list has it, or once if that list is
    empty. -/
theorem fair_round (weighted : Bool) (moves : List Move) :
    let s := after weighted moves
    let m := s.rotation.members
    let size := if m.weightList = [] then m.endpoints.length else m.weightList.length
    (∃ start : UInt64, s.turns.map s.number? =
      (List.range s.turns.length).map fun k => some (start + .ofNat (k + 1))) ∧
    (∀ i n, s.picks[i]? = some (.numbered n) →
      i ∈ s.turns ∧ ∃ e ∈ m.endpoints, (s.play (.go i)).endpoint? i = some e) ∧
    ∀ (n : Nat) (picks : List Nat), n + size ≤ 2 ^ 64 → picks ⊆ s.turns →
      picks.map s.number? = (List.range' n size).map (fun k => some (.ofNat k)) →
      (∀ i ∈ picks, (s.result? i).isSome) →
      ∀ j (hj : j < m.endpoints.length), (picks.map s.endpoint?).count (some m.endpoints[j]) =
        if m.weightList = [] then 1 else m.weightList.count j := by
  intro s m size
  have hs : Sound s := sound_after weighted moves
  refine ⟨hs.map_number?, fun i n hn => ⟨hs.current i n hn, hs.exists_endpoint? hn⟩,
    fun n picks hsize hturns hnumbers hover j hj => ?_⟩
  rw [hs.map_endpoint? hsize hturns hnumbers hover, ← count_slots hj,
    show size = (slots m).length from (length_slots m).symm]
  exact count_picks hs.kept hj n

/-- Two endpoints without weights, and three picks: the second takes the first number, and the first
    returns last. -/
def crossed : List Move := [
  .change (.refresh [{ host := "a", port := 1 }, { host := "b", port := 1 }]) 5 0,
  .start, .start, .start, .go 0, .go 1, .go 1, .go 0, .go 1, .go 2, .go 2, .go 2, .go 0]

theorem fair_round_crossed :
    let s := after true crossed
    s.turns = [1, 0, 2] ∧ ∀ j (hj : j < s.rotation.members.endpoints.length),
      ([1, 0].map s.endpoint?).count (some s.rotation.members.endpoints[j]) = 1 := by
  intro s
  have hturns : s.turns = [1, 0, 2] := rfl
  have hweights : s.rotation.members.weightList = [] := rfl
  obtain ⟨-, -, hfair⟩ := fair_round true crossed
  refine ⟨hturns, fun j hj => ?_⟩
  have hcount := hfair 6 [1, 0] (by decide) (by decide) rfl (by decide) j hj
  rwa [if_pos hweights] at hcount

end TaggedRpc.Selection.Rotation
