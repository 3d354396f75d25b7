import Mathlib.Logic.Relation
import TaggedRpc.Proofs.Manager.Pool

/-!
# Managers among threads

Several operations on a manager are under way at once: a refresh, the ticks that check
the status, revivals, and the selections of calls. Each is a *task* that takes one
atomic step after another (`Manager.Task.Step`), and a *scene* is a manager with the
tasks that are under way (`Manager.Scene`). In a step of a scene a task starts, a task
goes on, or calls use the adapters.

* A refresh takes its roster over, evicts adapters, and builds the alive set again. No
  other refresh is under way meanwhile.
* To build the alive set again is to read the roster and the health of the adapters, and
  then to publish what has been built. Nothing keeps others from doing so in between.
* A tick checks the adapters that were in the pool when it started, in some order, and
  checking one may take a dial. A tick that has found the health of an endpoint changed
  builds the alive set again.
* A revival heals an adapter, looks for its endpoint in the alive set and then in the
  roster, and builds the alive set again if it is in the roster only.
* A selection picks from the alive set that it has loaded, although another one may be
  published since, and looks endpoints up in the pool, one after another.

A manager that is closed starts none of them.
-/

namespace TaggedRpc

open Selection

/-- An alive set from which more has been picked since. -/
def AliveSet.Later : AliveSet → AliveSet → Prop :=
  Relation.ReflTransGen fun s s' => ∃ hash draw, s' = (s.select hash draw).2

theorem AliveSet.Later.endpoints {s s' : AliveSet} (h : s.Later s') :
    s'.endpoints = s.endpoints := by
  induction h with
  | refl => rfl
  | tail _ hselect ih =>
    obtain ⟨hash, draw, rfl⟩ := hselect
    exact endpoints_select.trans ih

/-- Where to look for a healthy endpoint after a pick. -/
def AliveSet.candidates (s : AliveSet) : Except SelectError Endpoint → List Endpoint
  | .ok e => e :: s.others e
  | .error _ => []

namespace Manager

/-! ## Tasks -/

/-- An operation that is under way. -/
inductive Task where
  /-- A refresh that has taken its roster over. -/
  | swapped
  /-- A refresh or another operation that builds the alive set again. -/
  | rebuilding (refresh : Bool)
  /-- An alive set has been built, but is not published yet. -/
  | publishing (refresh : Bool) (s : AliveSet)
  /-- A tick has adapters to check, and knows whether the health of one has changed. -/
  | checking (keys : List String) (changed : Bool)
  /-- A tick connects an adapter anew. -/
  | retrying (key : String) (keys : List String) (changed : Bool)
  /-- An endpoint is to be put back into the alive set, whose adapter may have been
      healed for that. -/
  | adding (healed : Bool) (e : Endpoint)
  /-- The endpoint was not in the alive set. -/
  | missing (e : Endpoint)
  /-- A selection has loaded an alive set. -/
  | picking (s : AliveSet) (hash : Option HashKey)
  /-- A selection looks for a healthy endpoint. -/
  | walking (es : List Endpoint)
  /-- A selection has made a degraded pick. -/
  | settling (e : Endpoint)
  /-- What a selection has led to. -/
  | answered (r : Except RpcError (String × Bool))

namespace Task

/-- One atomic step of a task, which may be its last one. -/
inductive Step : Manager → Task → Manager → Option Task → Prop
  | evict (m : Manager) (now : Nat) : Step m swapped (m.evict now) (some (rebuilding true))
  | build (m : Manager) (refresh : Bool) (draw : Nat) : Step m (rebuilding refresh) m
      (some (publishing refresh (.ofList m.config.routing m.eligible draw)))
  | publish (m : Manager) (refresh : Bool) (s : AliveSet) :
      Step m (publishing refresh s) { m with alive := s } none
  | check {m : Manager} {key : String} {a : Adapter} {keys : List String} {changed : Bool}
      (now : Nat) : m.adapter? key = some a → (a.health.check now).1 = .unchanged →
      Step m (checking (key :: keys) changed)
        (m.modifyAdapter key fun _ => { a with health := (a.health.check now).2 })
        (some (checking keys changed))
  | trip {m : Manager} {key : String} {a : Adapter} {keys : List String} {changed : Bool}
      (now : Nat) : m.adapter? key = some a → (a.health.check now).1 = .tripped →
      Step m (checking (key :: keys) changed)
        (m.modifyAdapter key fun _ => { a with health := (a.health.check now).2 })
        (some (checking keys true))
  | dial {m : Manager} {key : String} {a : Adapter} {keys : List String} {changed : Bool}
      (now : Nat) : m.adapter? key = some a → (a.health.check now).1 = .retry →
      Step m (checking (key :: keys) changed)
        (m.modifyAdapter key fun _ => { a with health := (a.health.check now).2 })
        (some (retrying key keys changed))
  | recover {m : Manager} {key : String} {a : Adapter} {keys : List String} {changed : Bool}
      {c : Connection} (dial : Dialer) (now : Nat) : m.adapter? key = some a →
      a.connection.reconnect dial now = (.ok (), c) →
      Step m (retrying key keys changed)
        (m.modifyAdapter key fun _ => { a with connection := c }.heal now)
        (some (checking keys true))
  | refused {m : Manager} {key : String} {a : Adapter} {keys : List String} {changed : Bool}
      {e : TransportError} {c : Connection} (dial : Dialer) (now : Nat) :
      m.adapter? key = some a → a.connection.reconnect dial now = (.error e, c) →
      Step m (retrying key keys changed)
        (m.modifyAdapter key fun _ => { a with connection := c })
        (some (checking keys changed))
  /-- An adapter is checked that is not in the pool any more. -/
  | checkGone {key : String} {keys : List String} {changed : Bool} (m : Manager)
      (found : Bool) : Step m (checking (key :: keys) changed) m
        (some (checking keys (changed || found)))
  | dialGone {key : String} {keys : List String} {changed : Bool} (m : Manager)
      (found : Bool) : Step m (retrying key keys changed) m
        (some (checking keys (changed || found)))
  | report (m : Manager) : Step m (checking [] true) m (some (rebuilding false))
  | finish (m : Manager) : Step m (checking [] false) m none
  | seen {m : Manager} {healed : Bool} {e : Endpoint} :
      (m.alive.endpoints.any fun x => decide (x.Same e)) = true →
      Step m (adding healed e) m none
  | miss {m : Manager} {healed : Bool} {e : Endpoint} :
      (m.alive.endpoints.any fun x => decide (x.Same e)) = false →
      Step m (adding healed e) m (some (missing e))
  | restore {m : Manager} {e : Endpoint} :
      (m.roster.active.any fun x => decide (x.Same e)) = true →
      Step m (missing e) m (some (rebuilding false))
  | reject {m : Manager} {e : Endpoint} :
      (m.roster.active.any fun x => decide (x.Same e)) = false →
      Step m (missing e) m none
  /-- The alive set that was loaded is still there. -/
  | pick {m : Manager} {s : AliveSet} {hash : Option HashKey} {es : List Endpoint} (draw : Nat) :
      s.Later m.alive → (m.alive.select hash draw).2.candidates (m.alive.select hash draw).1 = es →
      Step m (picking s hash) { m with alive := (m.alive.select hash draw).2 } (some (walking es))
  /-- Another alive set has been published since. -/
  | pickOld {s s' : AliveSet} {hash : Option HashKey} {es : List Endpoint} (m : Manager)
      (draw : Nat) : s.Later s' → (s'.select hash draw).2.candidates (s'.select hash draw).1 = es →
      Step m (picking s hash) m (some (walking es))
  /-- The adapter was found healthy. -/
  | take {es : List Endpoint} (m : Manager) (e : Endpoint) (now : Nat) :
      Step m (walking (e :: es)) (m.adapterFor e now).2 (some (answered (.ok (e.key, false))))
  /-- The adapter was found unhealthy. -/
  | pass {es : List Endpoint} (m : Manager) (e : Endpoint) (now : Nat) :
      Step m (walking (e :: es)) (m.adapterFor e now).2 (some (walking es))
  | degrade {m : Manager} {e : Endpoint} (draw : Nat) : m.config.degradeToUnhealthy = true →
      m.roster.active[draw % m.roster.active.length]? = some e →
      Step m (walking []) m (some (settling e))
  | giveUp {m : Manager} : m.config.degradeToUnhealthy = false ∨ m.roster.active = [] →
      Step m (walking []) m (some (answered (.error (.noEndpoint m.object))))
  | settle (m : Manager) (e : Endpoint) (now : Nat) :
      Step m (settling e) (m.adapterFor e now).2 (some (answered (.ok (e.key, true))))
  | leave (m : Manager) (r : Except RpcError (String × Bool)) : Step m (answered r) m none

/-- The first step of an operation. -/
inductive Start : Manager → Manager → Task → Prop
  | refresh {m : Manager} {r : Roster} : m.direct = false → m.closed = false →
      r.active.isEmpty = false →
      (sameTexts m.roster.active (sorted r).active &&
        sameTexts m.roster.inactive (sorted r).inactive) = false →
      Start m { m with roster := sorted r } swapped
  | check {m : Manager} {keys : List String} : m.closed = false →
      keys.Perm (m.adapters.map Adapter.key) → Start m m (checking keys false)
  | add (m : Manager) (e : Endpoint) : Start m m (adding false e)
  | revive {m : Manager} {e : Endpoint} {a : Adapter} (now : Nat) : m.adapter? e.key = some a →
      Start m (m.modifyAdapter e.key fun _ => a.heal now) (adding true e)
  | select {m : Manager} (hash : Option HashKey) : m.closed = false →
      Start m m (picking m.alive hash)

/-- A refresh, which no other refresh may overlap. -/
def isRefresh : Task → Bool
  | swapped | rebuilding true | publishing true _ => true
  | _ => false

/-- A selection. -/
def isSelection : Task → Bool
  | picking .. | walking _ | settling _ | answered _ => true
  | _ => false

end Task

/-! ## Scenes -/

/-- What calls do to the adapters of a manager, and time. -/
inductive Serves : Manager → Manager → Prop
  | use {α : Type} {f : Adapter → α × Adapter} (m : Manager) (key : String) :
      (∀ a : Adapter, a.Use (f a).2) → Serves m (m.onAdapter? key f).2
  | useOn {α : Type} {f : Adapter → α × Adapter} (m : Manager) (id : Int32) :
      (∀ a : Adapter, a.Use (f a).2) → Serves m (m.onCall? id f).2
  | poll (m : Manager) (now : Nat) : Serves m (m.poll now).2

theorem Serves.quiet {m m' : Manager} (h : Serves m m') : m.Quiet m' := by
  cases h with
  | use m key hf =>
    rw [onAdapter?]
    cases ha : m.adapter? key with
    | none => exact .refl m
    | some a => exact quiet_modifyAdapter ha (hf a).alike
  | useOn m id hf =>
    rw [onCall?]
    dsimp only
    split
    · refine quiet_map (fun a => ?_) (fun _ a _ => ?_) _ <;> split
      · exact (hf a).alike.key
      · rfl
      · exact (hf a).alike.healthy
      · rfl
    · exact .refl m
  | poll m now =>
    rw [Manager.poll]
    refine quiet_map (fun a => ?_) (fun _ a _ => ?_) _
    · exact (a.alike_poll now).key
    · exact (a.alike_poll now).healthy

theorem Serves.furnishes {m m' : Manager} (h : Serves m m') : m.Furnishes m' := by
  cases h with
  | use m key hf => exact furnishes_onAdapter? fun a _ => (hf a).alike.endpoint
  | useOn m id hf => exact furnishes_onCall? m id fun a => (hf a).alike.endpoint
  | poll m now => exact furnishes_poll m now

/-- Calls and time change the adapters only. -/
theorem Serves.eq_with_adapters {m m' : Manager} (h : Serves m m') :
    ∃ adapters leaving, m' = { m with adapters, leaving } := by
  cases h with
  | use m key =>
    rw [onAdapter?]
    split <;> exact ⟨_, _, rfl⟩
  | useOn m id =>
    rw [onCall?]
    dsimp only
    split <;> exact ⟨_, _, rfl⟩
  | poll => exact ⟨_, _, rfl⟩

theorem Serves.alive {m m' : Manager} (h : Serves m m') : m'.alive = m.alive := by
  obtain ⟨_, _, rfl⟩ := h.eq_with_adapters
  rfl

theorem Serves.closed {m m' : Manager} (h : Serves m m') : m'.closed = m.closed := by
  obtain ⟨_, _, rfl⟩ := h.eq_with_adapters
  rfl

/-- A manager that is open, and the operations that are under way on it. -/
structure Scene where
  manager : Manager
  tasks : List Task := []

namespace Scene

open Relation (ReflTransGen)

inductive Step : Scene → Scene → Prop
  | start {m m' : Manager} {t : Task} {ts : List Task} : Task.Start m m' t →
      (t.isRefresh = true → ∀ x ∈ ts, x.isRefresh = false) → Step ⟨m, ts⟩ ⟨m', t :: ts⟩
  | go {m m' : Manager} {t : Task} {t' : Option Task} (before after : List Task) :
      Task.Step m t m' t' →
      Step ⟨m, before ++ t :: after⟩ ⟨m', before ++ (t'.toList ++ after)⟩
  | serve {m m' : Manager} {ts : List Task} : Serves m m' → Step ⟨m, ts⟩ ⟨m', ts⟩

section Tasks

variable {before after : List Task} {t x : Task} {t' : Option Task}

/-- The task that goes on, and the others. -/
theorem mem_before_go : x ∈ before ++ t :: after ↔ x = t ∨ x ∈ before ++ after := by
  simp only [List.mem_append, List.mem_cons]
  tauto

theorem mem_after_go : x ∈ before ++ (t'.toList ++ after) ↔ x ∈ before ++ after ∨ t' = some x := by
  simp only [List.mem_append, Option.mem_toList]
  tauto

theorem forall_mem_go {Q : Task → Prop} (h : ∀ x ∈ before ++ t :: after, Q x)
    (ht' : ∀ x, t' = some x → Q x) : ∀ x ∈ before ++ (t'.toList ++ after), Q x := by
  intro x hx
  rcases mem_after_go.1 hx with hx | hx
  · exact h x (mem_before_go.2 (.inr hx))
  · exact ht' x hx

/-- If one task at most is of a kind, and it goes on, then the others are not. -/
theorem eq_false_of_countP_le_one {p : Task → Bool} (h : (before ++ t :: after).countP p ≤ 1)
    (ht : p t = true) : ∀ x ∈ before ++ after, p x = false := by
  rw [List.countP_append, List.countP_cons_of_pos ht] at h
  have hzero : (before ++ after).countP p = 0 := by
    rw [List.countP_append]
    omega
  exact fun x hx => eq_false_of_ne_true (List.countP_eq_zero.1 hzero x hx)

theorem countP_go_le_one {p : Task → Bool} (h : ∀ x ∈ before ++ after, p x = false) :
    (before ++ (t'.toList ++ after)).countP p ≤ 1 := by
  have hzero : (before ++ after).countP p = 0 :=
    List.countP_eq_zero.2 fun x hx => ne_true_of_eq_false (h x hx)
  have hone : t'.toList.countP p ≤ 1 := by
    cases t' with
    | none => exact Nat.zero_le 1
    | some t => exact List.countP_le_length
  rw [List.countP_append] at hzero
  rw [List.countP_append, List.countP_append]
  omega

end Tasks

/-- A run through scenes of a kind. -/
def Run (P : Scene → Prop) : Scene → Scene → Prop :=
  ReflTransGen fun s s' => Step s s' ∧ P s'

/-- No step closes a manager. -/
theorem Step.closed {s s' : Scene} (h : Step s s') : s'.manager.closed = s.manager.closed := by
  cases h with
  | start h => cases h <;> rfl
  | go _ _ h =>
    cases h with
    | take | pass | settle => exact closed_adapterFor ..
    | _ => rfl
  | serve h => exact h.closed

theorem Run.closed {P : Scene → Prop} {s s' : Scene} (h : Run P s s') :
    s'.manager.closed = s.manager.closed := by
  induction h with
  | refl => rfl
  | tail _ hstep ih => exact hstep.1.closed.trans ih

end Scene

end Manager

end TaggedRpc
