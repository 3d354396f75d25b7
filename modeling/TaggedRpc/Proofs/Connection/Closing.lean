import TaggedRpc.Proofs.Connection.Interleaving

/-!
# Connections that are closed

A connection has one live socket at most: every other socket has been told to end
(`Connection.Link.Sound`). A loop that ends takes away no socket but its own.

A connection that is closed refuses every errand that starts then. It also has no live socket
any more, under one condition: an errand that has dialled sees that the connection is open, and
makes its socket the live one in a later step. To shut down must not come to its end in between
(`Connection.Scene.InTime`). Otherwise there is nobody left to take this socket, and the closed
connection keeps it (`Connection.Scene.not_terminal`).

`Connection.Scene.Run.closing` has all of this for every moment of every run.
-/

namespace TaggedRpc.Connection

/-! ## Sockets -/

namespace Link

/-- Every socket but the live one has been told to end. -/
structure Sound (l : Link) : Prop where
  told_le : ∀ g ∈ l.told, g ≤ l.connection.generations
  live_iff : ∀ g, l.connection.live = some g ↔
    1 ≤ g ∧ g ≤ l.connection.generations ∧ g ∉ l.told

/-- Nothing happens to a socket. -/
structure Keeps (l l' : Link) : Prop where
  live : l'.connection.live = l.connection.live
  generations : l'.connection.generations = l.connection.generations
  told : l'.told = l.told
  closed : l'.connection.closed = l.connection.closed

variable {l l' : Link}

theorem Sound.keeps (hl : l.Sound) (h : l.Keeps l') : l'.Sound where
  told_le := by
    rw [h.told, h.generations]
    exact hl.told_le
  live_iff := by
    rw [h.live, h.told, h.generations]
    exact hl.live_iff

theorem mem_told_disconnect {g : Nat} :
    g ∈ l.disconnect.told ↔ l.connection.live = some g ∨ g ∈ l.told := by
  rw [disconnect, List.mem_append, Option.mem_toList]

theorem Sound.disconnect (hl : l.Sound) : l.disconnect.Sound where
  told_le g hg := by
    rcases mem_told_disconnect.1 hg with hlive | htold
    · exact ((hl.live_iff g).1 hlive).2.1
    · exact hl.told_le g htold
  live_iff g := by
    refine ⟨nofun, fun ⟨hone, hle, htold⟩ => ?_⟩
    rw [mem_told_disconnect, not_or] at htold
    exact absurd ((hl.live_iff g).2 ⟨hone, hle, htold.2⟩) htold.1

theorem Sound.closeGeneration (hl : l.Sound) (g : Nat) : (l.closeGeneration g).Sound := by
  rw [Link.closeGeneration]
  split
  · exact hl.disconnect
  · exact hl

theorem Sound.publish (hl : l.Sound) (now : Nat) : (l.publish now).Sound where
  told_le g hg := Nat.le_succ_of_le (hl.disconnect.told_le g hg)
  live_iff g := by
    constructor
    · rintro ⟨⟩
      exact ⟨Nat.succ_pos _, Nat.le_refl _, fun htold =>
        Nat.not_succ_le_self _ (hl.disconnect.told_le _ htold)⟩
    · rintro ⟨hone, hle, htold⟩
      -- All sockets before it have been told to end.
      rcases Nat.le_or_eq_of_le_succ hle with hle | rfl
      · exact nomatch (hl.disconnect.live_iff g).2 ⟨hone, hle, htold⟩
      · rfl

/-- To close a generation takes away no other socket. -/
theorem live_closeGeneration (l : Link) (g : Nat) :
    (l.closeGeneration g).connection.live = l.connection.live ∨
      l.connection.live = some g ∧ (l.closeGeneration g).connection.live = none := by
  rw [closeGeneration]
  split
  · next hlive => exact .inr ⟨hlive, rfl⟩
  · exact .inl rfl

@[simp] theorem closed_closeGeneration (l : Link) (g : Nat) :
    (l.closeGeneration g).connection.closed = l.connection.closed := by
  rw [closeGeneration]
  split <;> rfl

theorem Keeps.issue (l : Link) (expectsReply : Bool) : l.Keeps (l.issue expectsReply) := by
  cases expectsReply <;> exact ⟨rfl, rfl, rfl, rfl⟩

theorem Keeps.giveBack (l : Link) (expectsReply : Bool) : l.Keeps (l.giveBack expectsReply) := by
  cases expectsReply <;> exact ⟨rfl, rfl, rfl, rfl⟩

end Link

variable {l l' : Link} {t : Task} {t' : Option Task} {x : Loop} {x' : Option Loop}
  {event : Option Event}

/-- A task leaves the sockets alone, or takes the live one. -/
theorem Task.Step.sockets (hstep : Task.Step l t event l' t') :
    l.Keeps l' ∨ l' = l.disconnect := by
  cases hstep with
  | redial | shut => exact .inr rfl
  | issue => exact .inl (.issue ..)
  | giveUp | dropEnqueuing => exact .inl (.giveBack ..)
  | _ => exact .inl ⟨rfl, rfl, rfl, rfl⟩

/-- A loop leaves the sockets alone, or closes its own one. -/
theorem Loop.Step.sockets (hstep : Loop.Step l x event l' x') :
    l.Keeps l' ∨ l' = l.closeGeneration x.generation := by
  cases hstep with
  | close => exact .inr rfl
  | _ => exact .inl ⟨rfl, rfl, rfl, rfl⟩

/-- A loop takes away no socket but its own. -/
theorem Loop.Step.live (hstep : Loop.Step l x event l' x') :
    l'.connection.live = l.connection.live ∨
      l.connection.live = some x.generation ∧ l'.connection.live = none := by
  rcases hstep.sockets with hkeeps | rfl
  · exact .inl hkeeps.live
  · exact l.live_closeGeneration x.generation

theorem Task.Step.live (hstep : Task.Step l t event l' t') :
    l'.connection.live = l.connection.live ∨ l'.connection.live = none := by
  rcases hstep.sockets with hkeeps | rfl
  · exact .inl hkeeps.live
  · exact .inr rfl

theorem Task.Step.closed (hstep : Task.Step l t event l' t') :
    l'.connection.closed = l.connection.closed := by
  rcases hstep.sockets with hkeeps | rfl
  · exact hkeeps.closed
  · rfl

theorem Loop.Step.closed (hstep : Loop.Step l x event l' x') :
    l'.connection.closed = l.connection.closed := by
  rcases hstep.sockets with hkeeps | rfl
  · exact hkeeps.closed
  · exact l.closed_closeGeneration x.generation

/-- Only who shuts a connection down can do without the live socket. -/
theorem Task.Step.ne_shutting_or (hstep : Task.Step l t event l' t') :
    t ≠ .shutting ∨ l'.connection.live = none := by
  cases hstep with
  | shut => exact .inr rfl
  | _ => exact .inl nofun

namespace Scene

variable {P : Scene → Prop} {s s' : Scene} {h : History} {endpoint : Endpoint}
  {config : TransportConfig} {now : Nat}

theorem sound_step (hs : s.link.Sound) (hstep : Step s event s') : s'.link.Sound := by
  cases hstep with
  | start | shutdown | read | finishCall => exact ⟨hs.told_le, hs.live_iff⟩
  | task _ ht =>
    rcases ht.sockets with hkeeps | rfl
    · exact hs.keeps hkeeps
    · exact hs.disconnect
  | publish => exact hs.publish _
  | loop _ hx =>
    rcases hx.sockets with hkeeps | rfl
    · exact hs.keeps hkeeps
    · exact hs.closeGeneration _
  | hangUp => exact hs.closeGeneration _
  | disconnect => exact hs.disconnect

theorem Run.sound (hrun : Run P (fresh endpoint config now) h s) : s.link.Sound := by
  induction hrun with
  | refl =>
    exact ⟨nofun, fun g => ⟨nofun, fun ⟨hone, hle, _⟩ => absurd (Nat.le_trans hone hle) nofun⟩⟩
  | tail _ hstep _ ih => exact sound_step ih hstep

section

variable {tasks before after : List Task} {y : Task} {Q : Task → Prop}

theorem forall_mem_go (htasks : tasks = before ++ t :: after) (h : ∀ y ∈ tasks, Q y)
    (ht' : ∀ y ∈ t', Q y) : ∀ y ∈ before ++ (t'.toList ++ after), Q y := by
  subst htasks
  simp only [List.forall_mem_append, List.forall_mem_cons, Option.mem_toList] at h ⊢
  exact ⟨h.1, ht', h.2.2⟩

theorem mem_go (t' : Option Task) (htasks : tasks = before ++ t :: after) (hy : y ∈ tasks)
    (hne : y ≠ t) : y ∈ before ++ (t'.toList ++ after) := by
  subst htasks
  simp only [List.mem_append, List.mem_cons] at hy ⊢
  exact hy.imp_right fun h => .inr (h.resolve_left hne)

end

/-! ## Closed connections refuse -/

/-- A closed connection with nothing under way but refusals. -/
structure Refusing (s : Scene) : Prop where
  closed : s.link.connection.closed = true
  tasks : ∀ t ∈ s.tasks, t = .shutting ∨ (∃ e, t = .entering e) ∨ t = .returned (.error .closed)

theorem Refusing.of_nil (hclosed : s.link.connection.closed = true) (htasks : s.tasks = []) :
    s.Refusing :=
  ⟨hclosed, fun _ ht => absurd (htasks ▸ ht) List.not_mem_nil⟩

/-- An errand that starts on a closed connection can do nothing but fail. -/
theorem Refusing.entering_iff (hs : s.Refusing) {e : Errand} {l : Link} {t' : Option Task} :
    Task.Step s.link (.entering e) event l t' ↔
      event = none ∧ l = s.link ∧ t' = some (.returned (.error .closed)) := by
  constructor
  · intro hstep
    cases hstep with
    | refuse => exact ⟨rfl, rfl, rfl⟩
    | enter hopen => exact nomatch hs.closed.symm.trans hopen
  · rintro ⟨rfl, rfl, rfl⟩
    exact .refuse hs.closed

theorem Refusing.step (hs : s.Refusing) (hstep : Step s event s') :
    s'.Refusing ∧ (s'.link.connection.live = s.link.connection.live ∨
      s'.link.connection.live = none) := by
  cases hstep with
  | start e =>
    exact ⟨⟨hs.closed, List.forall_mem_cons.2 ⟨.inr (.inl ⟨e, rfl⟩), hs.tasks⟩⟩, .inl rfl⟩
  | shutdown => exact ⟨⟨rfl, List.forall_mem_cons.2 ⟨.inl rfl, hs.tasks⟩⟩, .inl rfl⟩
  | task htasks ht =>
    refine ⟨⟨ht.closed.trans hs.closed, forall_mem_go htasks hs.tasks fun y hy => ?_⟩, ht.live⟩
    obtain rfl | ⟨e, rfl⟩ | rfl := hs.tasks _ (htasks ▸ List.mem_append_right _ (.head _))
    · cases ht
      exact nomatch hy
    · obtain ⟨-, -, rfl⟩ := hs.entering_iff.1 ht
      cases hy
      exact .inr (.inr rfl)
    · cases ht
      exact nomatch hy
  | publish now htasks =>
    obtain h | ⟨e, h⟩ | h := hs.tasks _ (htasks ▸ List.mem_append_right _ (.head _)) <;> cases h
  | loop _ hx => exact ⟨⟨hx.closed.trans hs.closed, hs.tasks⟩, hx.live.imp_right And.right⟩
  | hangUp =>
    exact ⟨⟨(Link.closed_closeGeneration ..).trans hs.closed, hs.tasks⟩,
      (Link.live_closeGeneration ..).imp_right And.right⟩
  | read | finishCall => exact ⟨⟨hs.closed, hs.tasks⟩, .inl rfl⟩
  | disconnect => exact ⟨⟨hs.closed, hs.tasks⟩, .inr rfl⟩

/-- Once it refuses, a closed connection refuses for good. -/
theorem Run.refusing (hrun : Run P s h s') (hs : s.Refusing) :
    s'.Refusing ∧ (s.link.connection.live = none → s'.link.connection.live = none) := by
  induction hrun with
  | refl => exact ⟨hs, id⟩
  | tail _ hstep _ ih =>
    obtain ⟨hs', hlive⟩ := ih.1.step hstep
    exact ⟨hs', fun hnone => hlive.elim (·.trans (ih.2 hnone)) id⟩

/-! ## Closed connections have no live socket -/

/-- Whenever a closed connection has a socket that is about to be the live one, somebody who shuts
    it down has still to take the live socket. -/
def InTime (s : Scene) : Prop :=
  s.link.connection.closed = true → ∀ e, .admitted e ∈ s.tasks → .shutting ∈ s.tasks

theorem InTime.of_open (hopen : s.link.connection.closed = false) : s.InTime :=
  fun hclosed => nomatch hclosed.symm.trans hopen

/-- Somebody who shuts a closed connection down has still to take its live socket, or it is gone. -/
def Guarded (s : Scene) : Prop :=
  s.link.connection.closed = true → .shutting ∈ s.tasks ∨ s.link.connection.live = none

/-- The live socket is not taken, at most. -/
theorem Guarded.of_live (hs : s.Guarded)
    (hclosed : s'.link.connection.closed = s.link.connection.closed)
    (htasks : .shutting ∈ s.tasks → .shutting ∈ s'.tasks)
    (hlive : s'.link.connection.live = s.link.connection.live ∨ s'.link.connection.live = none) :
    s'.Guarded := by
  intro h
  rcases hs (hclosed.symm.trans h) with hshutting | hnone
  · exact .inl (htasks hshutting)
  · exact .inr (hlive.elim (·.trans hnone) id)

theorem Guarded.step (hs : s.Guarded) (htime : s.InTime) (hstep : Step s event s') :
    s'.Guarded := by
  cases hstep with
  | start => exact hs.of_live rfl (.tail _) (.inl rfl)
  | shutdown => exact fun _ => .inl (.head _)
  | task htasks ht =>
    rcases ht.ne_shutting_or with hne | hnone
    · exact hs.of_live ht.closed (mem_go _ htasks · hne.symm) ht.live
    · exact fun _ => .inr hnone
  | publish now htasks =>
    exact fun h => .inl (mem_go (some _) htasks
      (htime h _ (htasks ▸ List.mem_append_right _ (.head _))) nofun)
  | loop _ hx => exact hs.of_live hx.closed id (hx.live.imp_right And.right)
  | hangUp =>
    exact hs.of_live (Link.closed_closeGeneration ..) id
      ((Link.live_closeGeneration ..).imp_right And.right)
  | read | finishCall => exact hs.of_live rfl id (.inl rfl)
  | disconnect => exact hs.of_live rfl id (.inr rfl)

theorem Run.guarded (hP : ∀ x, P x → x.InTime) (hrun : Run P (fresh endpoint config now) h s) :
    s.Guarded ∧ s.InTime := by
  induction hrun with
  | refl => exact ⟨nofun, nofun⟩
  | tail _ hstep hs ih => exact ⟨ih.1.step ih.2 hstep, hP _ hs⟩

/-! ## Closing -/

/-- The socket of a connection at one moment of a run. -/
structure Closing (P : Scene → Prop) (s : Scene) : Prop where
  /-- One socket is live at most: all others have been told to end. -/
  live_iff : ∀ g, s.link.connection.live = some g ↔
    1 ≤ g ∧ g ≤ s.link.connection.generations ∧ g ∉ s.link.told
  /-- What happens late to an old socket does not touch its successor. -/
  late : ∀ g ∈ s.link.told, s.link.closeGeneration g = s.link
  /-- A loop that writes takes away no socket but its own. -/
  writer : ∀ x event l x', Loop.Step s.link x event l x' →
    l.connection.live = s.link.connection.live ∨
      s.link.connection.live = some x.generation ∧ l.connection.live = none
  /-- A loop that reads takes away no socket but its own. -/
  reader : ∀ g, (s.link.closeGeneration g).connection.live = s.link.connection.live ∨
    s.link.connection.live = some g ∧ (s.link.closeGeneration g).connection.live = none
  /-- Once it is closed and everything else is over, every errand fails. -/
  refusing : s.link.connection.closed = true → s.tasks = [] →
    ∀ h' s', Run P s h' s' → s'.link.connection.closed = true ∧
      (∀ r, .returned r ∈ s'.tasks → r = .error .closed) ∧
      ∀ e event l t', Task.Step s'.link (.entering e) event l t' ↔
        event = none ∧ l = s'.link ∧ t' = some (.returned (.error .closed))
  /-- There is no live socket then, if every shutdown was in time. -/
  terminal : (∀ x, P x → x.InTime) → s.link.connection.closed = true → s.tasks = [] →
    ∀ h' s', Run P s h' s' → s'.link.connection.live = none

/-- A closed connection stays closed, whatever comes in between. -/
theorem Run.closing (hrun : Run P (fresh endpoint config now) h s) : Closing P s where
  live_iff := hrun.sound.live_iff
  late g hg := if_neg fun hlive => ((hrun.sound.live_iff g).1 hlive).2.2 hg
  writer _ _ _ _ hstep := hstep.live
  reader g := s.link.live_closeGeneration g
  refusing hclosed htasks h' s' hrun' := by
    have hs' := (hrun'.refusing (.of_nil hclosed htasks)).1
    refine ⟨hs'.closed, fun r hr => ?_, fun _ _ _ _ => hs'.entering_iff⟩
    obtain heq | ⟨_, heq⟩ | heq := hs'.tasks _ hr <;> cases heq
    rfl
  terminal hP hclosed htasks h' s' hrun' := by
    refine (hrun'.refusing (.of_nil hclosed htasks)).2 ?_
    refine ((hrun.guarded hP).1 hclosed).resolve_left fun hmem => ?_
    rw [htasks] at hmem
    exact nomatch hmem

/-- A connection is closed while it dials anew, and nothing is left of it. -/
theorem closing_redial : ∃ s, Closing InTime s ∧ s.link.connection.closed = true ∧
    s.tasks = [] ∧ s.link.connection.live = none ∧ s.link.told = [1] := by
  have live : Run InTime (fresh default {} 0) _ _ :=
    (((((((Run.refl.tail
      (.start _ .connect) (.of_open rfl)).tail
      (.latest (.enter rfl)) (.of_open rfl)).tail
      (.latest (.wait rfl)) (.of_open rfl)).tail
      (.latest (.lock rfl)) (.of_open rfl)).tail
      (.latest (.dial rfl rfl)) (.of_open rfl)).tail
      (.latest (.confirm (d := fun _ _ => .ok ()) rfl rfl)) (.of_open rfl)).tail
      (.publish 0 (List.nil_append _).symm) (.of_open rfl)).tail
      (.latest (.finish (.inl rfl))) (.of_open rfl)
  have redialling := ((((live.tail
      (.latest (.leave _ _)) (.of_open rfl)).tail
      (.start _ .reconnect) (.of_open rfl)).tail
      (.latest (.enter rfl)) (.of_open rfl)).tail
      (.latest (.lock rfl)) (.of_open rfl)).tail
      (.latest (.redial rfl)) (.of_open rfl)
  have closed := ((redialling.tail
      (.shutdown _) fun _ _ _ => .head _).tail
      (.latest (.shut _)) fun _ e he => nomatch he).tail
      (.latest (.giveIn (d := fun _ _ => .ok ()) rfl rfl)) fun _ e he => nomatch he
  have left := closed.tail (.latest (.leave _ _)) fun _ e he => nomatch he
  exact ⟨_, left.closing, rfl, rfl, rfl, rfl⟩

/-- A connection that is closed while a socket is about to be its live one keeps this socket. -/
theorem not_terminal : ¬ ∀ h s, Run (fun _ => True) (fresh default {} 0) h s →
    s.link.connection.closed = true → s.tasks = [] → s.link.connection.live = none := by
  intro hterminal
  have admitted : Run (fun _ => True) (fresh default {} 0) _ _ :=
    (((((Run.refl.tail
      (.start _ .connect) trivial).tail
      (.latest (.enter rfl)) trivial).tail
      (.latest (.wait rfl)) trivial).tail
      (.latest (.lock rfl)) trivial).tail
      (.latest (.dial rfl rfl)) trivial).tail
      (.latest (.confirm (d := fun _ _ => .ok ()) rfl rfl)) trivial
  have shut := (admitted.tail (.shutdown _) trivial).tail (.latest (.shut _)) trivial
  have left := ((shut.tail
      (.publish 0 (List.nil_append _).symm) trivial).tail
      (.latest (.finish (.inl rfl))) trivial).tail
      (.latest (.leave _ _)) trivial
  exact nomatch hterminal _ _ left rfl rfl

end Scene

end TaggedRpc.Connection
