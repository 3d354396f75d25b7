import Mathlib.Data.List.Induction
import Mathlib.Data.List.Infix
import TaggedRpc.Calls.InFlight

/-!
# Admission under a cap

Any number of attempts to enter share one counter of the calls under way, and every one of them
takes one atomic step after another (`Attempt.step`): it is *counted*, and learns how many there
were before it; it compares these with the limit; then it holds a guard, which is dropped when its
call ends, or it is *turned away*, steps back from the counter, and is refused. The steps of all
attempts come in any order (`Admission.after`). When nothing comes in between, those of one attempt
add up to `InFlight.acquire` (`Admission.exists_steps_acquire`). The counter counts attempts that
there are at one time, far fewer than a word can count, so it is a number here.

An attempt overshoots first and corrects afterwards, so the counter may pass the limit. It counts
the guards and the attempts that are not decided, no more and no less, and so it never has less
than it is about to lose; the guards never pass the limit (`Admission.capped`).

But whoever is turned away is counted until it has stepped back, and can make others be turned away,
who in their turn are counted. So there may be a refusal while nobody holds a guard
(`Admission.not_full_when_refused`). Such a chain of refusals has a beginning, at a moment when the
cap was full, and it does not break off: from that moment on somebody was counted all the time who
had been turned away (`Admission.refused_backed`). When they all have stepped back, it is over.
-/

namespace TaggedRpc.Admission

/-! ## Attempts -/

/-- How far an attempt has come. -/
inductive Attempt where
  | begun
  /-- It has been counted after a number of others, and has not compared it with the limit yet. -/
  | counted (previous : Nat)
  /-- It has been turned away, and is counted still. -/
  | leaving (previous : Nat)
  | refused (previous : Nat)
  /-- It holds a guard. -/
  | live
  /-- Its guard has been dropped. -/
  | dropped
  deriving DecidableEq, Repr

namespace Attempt

/-- The next step of an attempt. One that is over stays as it is. -/
def step (f : InFlight) : Attempt → InFlight × Attempt
  | begun => (f.enter.2, counted f.enter.1)
  | counted previous => (f, if f.admits previous then live else leaving previous)
  | leaving previous => (f.leave, refused previous)
  | live => (f.leave, dropped)
  | refused previous => (f, refused previous)
  | dropped => (f, dropped)

/-- Whether it holds a guard. -/
def isLive : Attempt → Bool
  | live => true
  | _ => false

/-- Whether it has been counted, holds no guard yet, and has not stepped back. -/
def isPending : Attempt → Bool
  | counted _ | leaving _ => true
  | _ => false

/-- Whether it holds a guard, or has been counted within the limit and will have one. -/
def isGranted (limit : Nat) : Attempt → Bool
  | live => true
  | counted previous => previous < limit
  | _ => false

/-- Whether it has been counted beyond the limit, and has not stepped back. -/
def isTurnedAway (limit : Nat) : Attempt → Bool
  | counted previous => limit ≤ previous
  | leaving _ => true
  | _ => false

/-- Whether its next step takes it off the counter. -/
def isAboutToLeave : Attempt → Bool
  | leaving _ | live => true
  | _ => false

/-- Whether it has been refused, or its guard has been dropped. -/
def isOver : Attempt → Bool
  | refused _ | dropped => true
  | _ => false

/-- Whether it has found too many before it. -/
def isRejected : Attempt → Bool
  | leaving _ | refused _ => true
  | _ => false

/-- How many it was counted after, unless it has been admitted. -/
def previous? : Attempt → Option Nat
  | counted previous | leaving previous | refused previous => some previous
  | _ => none

variable {f : InFlight} {a : Attempt}

theorem limit_step (f : InFlight) (a : Attempt) : (a.step f).1.limit = f.limit := by
  cases a <;> rfl

/-- A step counts an attempt that comes to hold a place, and takes one off that gives it up. -/
theorem count_step (h : a.isAboutToLeave = true → 0 < f.count) :
    (a.step f).1.count + ((if a.isLive then 1 else 0) + if a.isPending then 1 else 0) =
      f.count + ((if (a.step f).2.isLive then 1 else 0) +
        if (a.step f).2.isPending then 1 else 0) := by
  cases a with
  | begun => rfl
  | counted previous =>
    rw [step]
    split <;> rfl
  | leaving | live => exact Nat.sub_add_cancel (h rfl)
  | refused | dropped => rfl

/-- A guard is granted to those who are counted after fewer than the limit. -/
theorem isGranted_step (h : (a.step f).2.isGranted f.limit = true) :
    a.isGranted f.limit = true ∨ f.count < f.limit := by
  cases a with
  | begun => exact .inr (of_decide_eq_true h)
  | counted previous =>
    refine .inl ?_
    rw [step] at h
    split at h
    · assumption
    · exact nomatch h
  | live => exact .inl rfl
  | _ => exact nomatch h

/-- Those who are counted after as many as the limit are turned away. -/
theorem isTurnedAway_step (h : (a.step f).2.isTurnedAway f.limit = true) :
    a.isTurnedAway f.limit = true ∨ f.limit ≤ f.count := by
  cases a with
  | begun => exact .inr (of_decide_eq_true h)
  | counted previous =>
    refine .inl ?_
    rw [step] at h
    split at h
    · exact nomatch h
    · next hlimit => simpa [isTurnedAway, InFlight.admits] using hlimit
  | _ => exact nomatch h

/-- An attempt learns how many there are when it is counted, and does not forget it. -/
theorem previous?_step {previous : Nat} (h : (a.step f).2.previous? = some previous) :
    a.previous? = some previous ∨ a = begun ∧ f.count = previous := by
  cases a with
  | begun => exact .inr ⟨rfl, Option.some.inj h⟩
  | counted n =>
    rw [step] at h
    split at h
    · exact nomatch h
    · exact .inl h
  | leaving | refused => exact .inl h
  | live | dropped => exact nomatch h

theorem isRejected_step (h : (a.step f).2.isRejected = true) :
    a.isRejected = true ∨ ∃ previous, a.previous? = some previous ∧ f.limit ≤ previous := by
  cases a with
  | counted previous =>
    rw [step] at h
    split at h
    · exact nomatch h
    · next hlimit => exact .inr ⟨previous, rfl, by simpa [InFlight.admits] using hlimit⟩
  | leaving | refused => exact .inl rfl
  | _ => exact nomatch h

end Attempt

/-! ## Interleavings -/

/-- A counter with all attempts so far, in the order in which they began. -/
structure Scene where
  counter : InFlight
  attempts : List Attempt := []
  deriving DecidableEq, Repr

/-- What comes next: one more attempt, or a step of one of them. -/
inductive Move where
  | start
  | go (i : Nat)
  deriving DecidableEq, Repr

namespace Scene

/-- A scene after a move. -/
def play (s : Scene) : Move → Scene
  | .start => { s with attempts := s.attempts ++ [.begun] }
  | .go i =>
    match s.attempts[i]? with
    | some a => ⟨(a.step s.counter).1, s.attempts.set i (a.step s.counter).2⟩
    | none => s

/-- How many guards there are. -/
def live (s : Scene) : Nat := s.attempts.countP Attempt.isLive

/-- How many attempts have been counted, without a guard. -/
def pending (s : Scene) : Nat := s.attempts.countP Attempt.isPending

/-- How many guards there are or will be. -/
def granted (s : Scene) : Nat := s.attempts.countP (Attempt.isGranted s.counter.limit)

/-- How many attempts are counted beyond the limit. -/
def turnedAway (s : Scene) : Nat := s.attempts.countP (Attempt.isTurnedAway s.counter.limit)

end Scene

/-- The scene after moves, one after another, of a counter that has counted nobody. -/
def after (limit : Nat) (moves : List Move) : Scene :=
  moves.foldl Scene.play { counter := { limit } }

theorem after_concat (limit : Nat) (moves : List Move) (m : Move) :
    after limit (moves ++ [m]) = (after limit moves).play m :=
  List.foldl_concat ..

variable {limit i previous : Nat} {moves : List Move} {m : Move} {s s' : Scene} {a b : Attempt}

/-- What a move can do. -/
inductive Played (s : Scene) : Move → Scene → Prop
  | start : Played s .start { s with attempts := s.attempts ++ [.begun] }
  | go {i : Nat} {a : Attempt} : s.attempts[i]? = some a →
    Played s (.go i) ⟨(a.step s.counter).1, s.attempts.set i (a.step s.counter).2⟩
  /-- Nobody has moved. -/
  | idle {i : Nat} : s.attempts[i]? = none → Played s (.go i) s

theorem played (s : Scene) (m : Move) : Played s m (s.play m) := by
  cases m with
  | start => exact .start
  | go i =>
    rw [Scene.play]
    split
    · exact .go ‹_›
    · exact .idle ‹_›

theorem Played.limit_eq (h : Played s m s') : s'.counter.limit = s.counter.limit := by
  cases h with
  | start | idle => rfl
  | go => exact Attempt.limit_step ..

@[simp] theorem limit_after (limit : Nat) (moves : List Move) :
    (after limit moves).counter.limit = limit := by
  induction moves using List.reverseRecOn with
  | nil => rfl
  | append_singleton moves m ih =>
    rw [after_concat]
    exact (played ..).limit_eq.trans ih

theorem play_go (h : s.attempts[i]? = some a) :
    s.play (.go i) = ⟨(a.step s.counter).1, s.attempts.set i (a.step s.counter).2⟩ := by
  rw [Scene.play, h]

/-- When nothing comes in between, the steps of an attempt until it is decided add up to
    `InFlight.acquire`. -/
theorem exists_steps_acquire (h : s.attempts[i]? = some .begun) :
    ∃ steps, (List.replicate steps (Move.go i)).foldl Scene.play s =
      ⟨s.counter.acquire.2, s.attempts.set i
        (match s.counter.acquire.1 with
          | .ok () => .live
          | .error previous => .refused previous)⟩ := by
  obtain ⟨hi, -⟩ := List.getElem?_eq_some_iff.1 h
  have hset : ∀ a : Attempt, (s.attempts.set i a)[i]? = some a := fun a => by simp [hi]
  -- An admitted attempt has been counted and has compared; one that is refused steps back as well.
  by_cases hadmits : s.counter.count < s.counter.limit
  · refine ⟨2, ?_⟩
    rw [List.replicate_succ, List.replicate_one, List.foldl_cons, play_go h, List.foldl_cons,
      play_go (hset _), List.foldl_nil]
    simp [Attempt.step, InFlight.acquire, InFlight.enter, InFlight.admits, hadmits]
  · refine ⟨3, ?_⟩
    rw [List.replicate_succ, List.replicate_succ, List.replicate_one, List.foldl_cons, play_go h,
      List.foldl_cons, play_go (hset _), List.set_set, List.foldl_cons, play_go (hset _),
      List.foldl_nil]
    simp [Attempt.step, InFlight.acquire, InFlight.enter, InFlight.admits, hadmits]

/-! ## What the counter counts -/

/-- How a number of attempts changes when one of them moves. -/
theorem countP_set_add {l : List Attempt} (p : Attempt → Bool) (h : l[i]? = some a) :
    (l.set i b).countP p + (if p a then 1 else 0) = l.countP p + if p b then 1 else 0 := by
  obtain ⟨hi, rfl⟩ := List.getElem?_eq_some_iff.1 h
  have hpos : p l[i] = true → 0 < l.countP p := fun hp =>
    List.countP_pos_iff.2 ⟨_, List.getElem_mem hi, hp⟩
  rw [List.countP_set hi]
  split
  · have := hpos ‹_›
    omega
  · omega

/-- What is counted is within the limit or beyond it. -/
theorem granted_add_turnedAway (s : Scene) : s.granted + s.turnedAway = s.live + s.pending := by
  rw [Scene.granted, Scene.turnedAway, Scene.live, Scene.pending]
  induction s.attempts with
  | nil => rfl
  | cons a attempts ih =>
    simp only [List.countP_cons]
    cases a with
    | counted previous =>
      by_cases hprevious : previous < s.counter.limit <;>
        simp [Attempt.isGranted, Attempt.isTurnedAway, Attempt.isLive, Attempt.isPending, hprevious,
          Nat.not_le.2, Nat.le_of_not_lt] <;> omega
    | _ =>
      simp [Attempt.isGranted, Attempt.isTurnedAway, Attempt.isLive, Attempt.isPending]
      omega

/-- A counter that counts the guards and the attempts that are not decided, and grants no more
    guards than the limit allows. -/
structure Sound (s : Scene) : Prop where
  count : s.counter.count = s.live + s.pending
  granted_le : s.granted ≤ s.counter.limit

/-- Whoever is about to leave is counted. -/
theorem Sound.count_pos (h : Sound s) (ha : a ∈ s.attempts) (hleave : a.isAboutToLeave = true) :
    0 < s.counter.count := by
  have hplace : a.isLive = true ∨ a.isPending = true := by
    cases a with
    | leaving | live => simp [Attempt.isLive, Attempt.isPending]
    | _ => exact nomatch hleave
  rw [h.count]
  rcases hplace with hlive | hpending
  · exact Nat.add_pos_left (List.countP_pos_iff.2 ⟨a, ha, hlive⟩) _
  · exact Nat.add_pos_right _ (List.countP_pos_iff.2 ⟨a, ha, hpending⟩)

theorem Played.sound (h : Played s m s') (hs : Sound s) : Sound s' := by
  cases h with
  | start =>
    have hcount := hs.count
    have hle := hs.granted_le
    constructor <;>
      simpa [Scene.live, Scene.pending, Scene.granted, Attempt.isLive, Attempt.isPending,
        Attempt.isGranted]
  | idle => exact hs
  | @go i a ha =>
    constructor
    case count =>
      have hstep := a.count_step (f := s.counter) (hs.count_pos (List.mem_of_getElem? ha))
      have hcount := hs.count
      have hlive := countP_set_add (b := (a.step s.counter).2) Attempt.isLive ha
      have hpending := countP_set_add (b := (a.step s.counter).2) Attempt.isPending ha
      rw [Scene.live, Scene.pending] at hcount ⊢
      dsimp only
      omega
    case granted_le =>
      have hle := hs.granted_le
      have hsplit := granted_add_turnedAway s
      have hcount := hs.count
      have hgranted := countP_set_add (b := (a.step s.counter).2)
        (Attempt.isGranted s.counter.limit) ha
      rw [Scene.granted] at hle hsplit ⊢
      rw [a.limit_step]
      dsimp only
      split at hgranted
      · split at hgranted <;> omega
      · next hnot =>
        -- A new guard: fewer than the limit were counted, so fewer guards were granted.
        split at hgranted
        · have := (a.isGranted_step ‹_›).resolve_left hnot
          omega
        · omega

theorem sound_after (limit : Nat) (moves : List Move) : Sound (after limit moves) := by
  induction moves using List.reverseRecOn with
  | nil => exact ⟨rfl, Nat.zero_le _⟩
  | append_singleton moves m ih =>
    rw [after_concat]
    exact (played ..).sound ih

/-- At every moment there are no more guards than the limit, and the counter is the number of the
    guards and of the attempts that are counted without one. It never loses what it does not have,
    and when all attempts are over it is zero. -/
theorem capped (limit : Nat) (moves : List Move) :
    let s := after limit moves
    s.live ≤ limit ∧ s.counter.count = s.live + s.pending ∧
      (∀ a ∈ s.attempts, a.isAboutToLeave = true → 0 < s.counter.count) ∧
      ((∀ a ∈ s.attempts, a.isOver = true) → s.counter.count = 0) := by
  intro s
  have hs : Sound s := sound_after limit moves
  have hlive : s.live ≤ s.granted := by
    refine List.countP_mono_left fun a _ h => ?_
    cases a <;> first | rfl | exact nomatch h
  have hle : s.granted ≤ limit := limit_after limit moves ▸ hs.granted_le
  refine ⟨hlive.trans hle, hs.count, fun a ha => hs.count_pos ha, fun hover => ?_⟩
  have hgone : s.live = 0 ∧ s.pending = 0 := by
    constructor <;> refine List.countP_eq_zero.2 fun a ha => ?_ <;> have := hover a ha <;>
      cases a <;> simp_all [Attempt.isOver, Attempt.isLive, Attempt.isPending]
  rw [hs.count, hgone.1, hgone.2]

/-! ## Refusals -/

/-- The cap was full at some moment, and ever since, somebody who has been turned away has been
    counted. -/
def Backed (limit : Nat) (moves : List Move) : Prop :=
  ∃ early late, moves = early ++ late ∧ (after limit early).granted = limit ∧
    ∀ mid, mid <+: late → mid ≠ [] → 0 < (after limit (early ++ mid)).turnedAway

theorem backed_of_granted_eq (h : (after limit moves).granted = limit) : Backed limit moves :=
  ⟨moves, [], (List.append_nil _).symm, h, fun _ hmid hne => absurd (List.prefix_nil.1 hmid) hne⟩

theorem Backed.concat (h : Backed limit moves)
    (hturned : 0 < (after limit (moves ++ [m])).turnedAway) : Backed limit (moves ++ [m]) := by
  obtain ⟨early, late, rfl, hfull, hlate⟩ := h
  refine ⟨early, late ++ [m], List.append_assoc .., hfull, fun mid hmid hne => ?_⟩
  rcases List.prefix_concat_iff.1 hmid with rfl | hmid
  · rwa [← List.append_assoc]
  · exact hlate mid hmid hne

/-- Attempts are turned away only while others are, or when as many as the limit are counted. -/
theorem Played.turnedAway_pos (h : Played s m s') (hpos : 0 < s'.turnedAway) :
    0 < s.turnedAway ∨ s.counter.limit ≤ s.counter.count := by
  rw [Scene.turnedAway, h.limit_eq] at hpos
  obtain ⟨x, hx, hturned⟩ := List.countP_pos_iff.1 hpos
  have hold : x ∈ s.attempts → 0 < s.turnedAway := fun hx => List.countP_pos_iff.2 ⟨x, hx, hturned⟩
  cases h with
  | start =>
    rcases List.mem_append.1 hx with hx | hx
    · exact .inl (hold hx)
    · rw [List.mem_singleton.1 hx] at hturned
      exact nomatch hturned
  | idle => exact .inl (hold hx)
  | @go i a ha =>
    rcases List.mem_or_eq_of_mem_set hx with hx | rfl
    · exact .inl (hold hx)
    · exact (a.isTurnedAway_step hturned).imp_left fun hold =>
        List.countP_pos_iff.2 ⟨a, List.mem_of_getElem? ha, hold⟩

/-- When as many as the limit are counted and nobody is turned away, the cap is full. -/
theorem Sound.granted_eq (h : Sound s) (hlimit : s.counter.limit ≤ s.counter.count)
    (hnone : s.turnedAway = 0) : s.granted = s.counter.limit := by
  have hsplit := granted_add_turnedAway s
  have hcount := h.count
  have hle := h.granted_le
  omega

theorem backed_of_turnedAway (h : 0 < (after limit moves).turnedAway) : Backed limit moves := by
  -- By induction on the moves: who is turned away first finds the cap full.
  induction moves using List.reverseRecOn with
  | nil => exact absurd h (Nat.lt_irrefl 0)
  | append_singleton moves m ih =>
    refine Backed.concat ?_ h
    by_cases hnone : (after limit moves).turnedAway = 0
    · rw [after_concat] at h
      have hlimit := ((played ..).turnedAway_pos h).resolve_left (by omega)
      have hfull := (sound_after limit moves).granted_eq hlimit hnone
      exact backed_of_granted_eq (hfull.trans (limit_after ..))
    · exact ih (Nat.pos_of_ne_zero hnone)

theorem backed_of_limit_le (h : limit ≤ (after limit moves).counter.count) :
    Backed limit moves := by
  by_cases hnone : (after limit moves).turnedAway = 0
  · have hlimit := limit_after limit moves
    have hfull := (sound_after limit moves).granted_eq (hlimit.le.trans h) hnone
    exact backed_of_granted_eq (hfull.trans hlimit)
  · exact backed_of_turnedAway (Nat.pos_of_ne_zero hnone)

/-- What a move has done to an attempt. -/
theorem Played.attempt_cases (h : Played s m s') (ha : s'.attempts[i]? = some a) :
    s.attempts[i]? = some a ∨ a = .begun ∨
      ∃ x, s.attempts[i]? = some x ∧ m = .go i ∧ a = (x.step s.counter).2 := by
  cases h with
  | start =>
    rw [List.getElem?_append] at ha
    split at ha
    · exact .inl ha
    · exact .inr (.inl (List.mem_singleton.1 (List.mem_of_getElem? ha)))
  | idle => exact .inl ha
  | @go j x hx =>
    by_cases hj : j = i
    · subst hj
      have hlt := (List.getElem?_eq_some_iff.1 hx).1
      rw [List.getElem?_set_self hlt] at ha
      exact .inr (.inr ⟨x, hx, rfl, (Option.some.inj ha).symm⟩)
    · rw [List.getElem?_set_ne hj] at ha
      exact .inl ha

/-- An attempt that has not been admitted was counted at some moment, and one that has been turned
    away found as many as the limit then. -/
theorem exists_counted (h : (after limit moves).attempts[i]? = some a)
    (hprevious : a.previous? = some previous) :
    ∃ before rest, moves = before ++ .go i :: rest ∧
      (after limit before).attempts[i]? = some .begun ∧
      (after limit before).counter.count = previous ∧
      (a.isRejected = true → limit ≤ previous) := by
  induction moves using List.reverseRecOn generalizing a with
  | nil => exact nomatch h
  | append_singleton moves m ih =>
    rw [after_concat] at h
    rcases (played ..).attempt_cases h with hsame | rfl | ⟨x, hx, rfl, rfl⟩
    · obtain ⟨before, rest, rfl, hcounted⟩ := ih hsame hprevious
      exact ⟨before, rest ++ [m], by simp, hcounted⟩
    · exact nomatch hprevious
    · rcases x.previous?_step hprevious with hx' | ⟨rfl, hcount⟩
      · obtain ⟨before, rest, rfl, hbegun, hcount, hlimit⟩ := ih hx hx'
        refine ⟨before, rest ++ [.go i], by simp, hbegun, hcount, fun hrejected => ?_⟩
        rcases x.isRejected_step hrejected with hrejected | ⟨n, hn, hle⟩
        · exact hlimit hrejected
        · cases hx'.symm.trans hn
          rwa [limit_after] at hle
      · exact ⟨moves, [], rfl, hx, hcount, nofun⟩

/-- A refusal was decided when its attempt was counted, after as many as the limit: these held
    guards, or were to have one, or had been turned away. At that moment or some time before it the
    cap was full, and from then on there was always somebody who had been turned away and was still
    counted. -/
theorem refused_backed (h : (after limit moves).attempts[i]? = some (.refused previous)) :
    ∃ before rest, moves = before ++ .go i :: rest ∧
      (after limit before).attempts[i]? = some .begun ∧
      previous = (after limit before).granted + (after limit before).turnedAway ∧
      limit ≤ previous ∧ Backed limit before := by
  obtain ⟨before, rest, hmoves, hbegun, rfl, hlimit⟩ := exists_counted h rfl
  have hle := hlimit rfl
  refine ⟨before, rest, hmoves, hbegun, ?_, hle, backed_of_limit_le hle⟩
  rw [granted_add_turnedAway, (sound_after limit before).count]

/-- Three attempts under a cap of one. The second is turned away by the first, which ends, and
    before the second has stepped back the third is counted. -/
def crowd : List Move := [
  .start, .go 0, .go 0,
  .start, .go 1,
  .go 0,
  .start, .go 2, .go 2, .go 2]

theorem refused_backed_crowd :
    (after 1 crowd).attempts[2]? = some (.refused 1) ∧
      ∃ before rest, crowd = before ++ .go 2 :: rest ∧
        (after 1 before).attempts[2]? = some .begun ∧
        1 = (after 1 before).granted + (after 1 before).turnedAway ∧ 1 ≤ 1 ∧ Backed 1 before :=
  ⟨by decide, refused_backed (by decide)⟩

/-- The third attempt of the crowd is refused while nobody holds a guard. -/
theorem not_full_when_refused :
    ¬ ∀ (limit : Nat) (moves : List Move) (i previous : Nat),
      (after limit moves).attempts[i]? = some (.refused previous) →
      ∃ early late, moves = early ++ late ∧
        (∃ a, (after limit early).attempts[i]? = some a ∧ a.isOver = false) ∧
        (after limit early).live = limit := by
  intro h
  obtain ⟨early, late, hmoves, ⟨a, ha, -⟩, hlive⟩ := h 1 crowd 2 1 (by decide)
  have hidle : ∀ k ≤ crowd.length, (after 1 (crowd.take k)).attempts[2]?.isSome →
      (after 1 (crowd.take k)).live = 0 := by decide
  have hearly : crowd.take early.length = early := by rw [hmoves, List.take_left]
  have hlength : early.length ≤ crowd.length := by
    rw [hmoves, List.length_append]
    exact Nat.le_add_right ..
  have hzero := hidle early.length hlength (by rw [hearly, ha]; rfl)
  rw [hearly, hlive] at hzero
  exact absurd hzero (by decide)

end TaggedRpc.Admission
