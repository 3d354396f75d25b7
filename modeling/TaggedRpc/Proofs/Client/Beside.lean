import Mathlib.Order.Defs.Unbundled
import TaggedRpc.Client.Call
import TaggedRpc.Proofs.Manager.Wiring

/-!
# Programs along a relation

What a program does to a client is told by a relation between the client before and the client after
(`Client.Moves`). If the relation is reflexive and transitive, then whatever is put together of
programs that go along it goes along it too.

Most of what calls and time do to a client is *quiet* (`Client.Quiet`): nobody pushes anything, the
servants keep their managers and callbacks, and the managers stay what they are, each with the
callbacks for the pushes of its endpoints (`Manager.Beside`).
-/

namespace TaggedRpc.Client

/-! ## Programs -/

theorem bind_apply {α β : Type} (x : StateM Client α) (f : α → StateM Client β) (c : Client) :
    (x >>= f) c = f (x c).1 (x c).2 := rfl

theorem draw_apply (c : Client) : draw c = (c.draws, { c with draws := c.draws + 1 }) := rfl

theorem get_apply (c : Client) : (get : StateM Client Client) c = (c, c) := rfl

theorem modify_apply (f : Client → Client) (c : Client) :
    (modify f : StateM Client PUnit) c = ((), f c) := rfl

theorem modifyGet_apply {α : Type} (f : Client → α × Client) (c : Client) :
    (modifyGet f : StateM Client α) c = f c := rfl

theorem onManager_of_getElem? {α : Type} {c : Client} {n : Nat} {m : Manager}
    (hm : c.managers[n]? = some m) (default : α) (f : Manager → α × Manager) :
    onManager n default f c = ((f m).1, { c with managers := c.managers.set n (f m).2 }) := by
  rw [onManager, modifyGet_apply, hm]

theorem onManager_of_none {α : Type} {c : Client} {n : Nat} (hm : c.managers[n]? = none)
    (default : α) (f : Manager → α × Manager) : onManager n default f c = (default, c) := by
  rw [onManager, modifyGet_apply, hm]

theorem onAdapter_of_adapter? {α : Type} {c : Client} {n : Nat} {m : Manager} {key : String}
    {a : Adapter} (hm : c.managers[n]? = some m) (ha : m.adapter? key = some a) (default : α)
    (f : Adapter → α × Adapter) : onAdapter n key default f c =
      ((f a).1, { c with managers := c.managers.set n (m.onAdapter? key f).2 }) := by
  rw [onAdapter, bind_apply, onManager_of_getElem? hm, Manager.onAdapter?, ha]
  rfl

/-- A program moves every client along a relation. -/
def Moves {α : Type} (R : Client → Client → Prop) (x : StateM Client α) : Prop :=
  ∀ c : Client, R c (x c).2

section Moves

variable {R : Client → Client → Prop} {α β : Type}

theorem Moves.mono {R' : Client → Client → Prop} {x : StateM Client α} (h : Moves R x)
    (hR : ∀ c c', R c c' → R' c c') : Moves R' x :=
  fun c => hR _ _ (h c)

/-- A program that goes on with what it has found. -/
theorem moves_get_bind {f : Client → StateM Client β} (hf : ∀ c, R c (f c c).2) :
    Moves R (get >>= f) := hf

theorem moves_pure [Std.Refl R] {a : α} : Moves R (pure a : StateM Client α) := refl_of R

theorem Moves.bind [IsTrans Client R] {x : StateM Client α} {f : α → StateM Client β}
    (hx : Moves R x) (hf : ∀ a, Moves R (f a)) : Moves R (x >>= f) := fun c =>
  trans_of R (hx c) (hf (x c).1 (x c).2)

variable [Std.Refl R] [IsTrans Client R]

theorem moves_forIn {xs : List α} {f : α → StateM Client PUnit} (hf : ∀ a, Moves R (f a)) :
    Moves R (forIn xs PUnit.unit fun a _ => do
      f a
      pure (ForInStep.yield PUnit.unit)) := by
  induction xs with
  | nil => exact moves_pure
  | cons a xs ih =>
    rw [List.forIn_cons]
    exact fun c => trans_of R (hf a c) (ih (f a c).2)

end Moves

/-! ## Staying the same -/

/-- A client with the same servants and the same managers, in which pushes go where they did. -/
structure Beside (c c' : Client) : Prop where
  config : c'.config = c.config
  closed : c'.closed = c.closed
  table : c'.table = c.table
  managers (n : Nat) : Option.Rel Manager.Beside c.managers[n]? c'.managers[n]?
  servants : c'.servants.map (fun s => (s.manager, s.pushCallback)) =
    c.servants.map fun s => (s.manager, s.pushCallback)

theorem rel_refl {α : Type} {r : α → α → Prop} (hr : ∀ a, r a a) (a : Option α) :
    Option.Rel r a a := by
  cases a with
  | none => exact .none
  | some a => exact .some (hr a)

theorem rel_trans {α : Type} {r : α → α → Prop} (hr : ∀ a b c, r a b → r b c → r a c)
    {a b c : Option α} (hab : Option.Rel r a b) (hbc : Option.Rel r b c) : Option.Rel r a c := by
  cases hab with
  | none => exact hbc
  | some hab =>
    cases hbc with
    | some hbc => exact .some (hr _ _ _ hab hbc)

theorem rel_mono {α : Type} {r r' : α → α → Prop} (hr : ∀ a b, r a b → r' a b) {a b : Option α}
    (h : Option.Rel r a b) : Option.Rel r' a b := by
  cases h with
  | none => exact .none
  | some h => exact .some (hr _ _ h)

/-- What is the same on both sides of a relation. -/
theorem rel_bind {α β : Type} {r : α → α → Prop} {f : α → Option β} (hr : ∀ a b, r a b → f b = f a)
    {a b : Option α} (h : Option.Rel r a b) : b.bind f = a.bind f := by
  cases h with
  | none => rfl
  | some h => exact hr _ _ h

/-- One manager changes. -/
theorem rel_set {r : Manager → Manager → Prop} (hr : ∀ m, r m m) {ms : List Manager} {n : Nat}
    {m m' : Manager} (hm : ms[n]? = some m) (h : r m m') (k : Nat) :
    Option.Rel r ms[k]? (ms.set n m')[k]? := by
  by_cases hk : n = k
  · subst hk
    rw [List.getElem?_set_self (List.getElem?_eq_some_iff.1 hm).1, hm]
    exact .some h
  · rw [List.getElem?_set_ne hk]
    exact rel_refl hr _

theorem Beside.of_eq {c c' : Client} (hconfig : c'.config = c.config)
    (hclosed : c'.closed = c.closed) (htable : c'.table = c.table)
    (hmanagers : c'.managers = c.managers) (hservants : c'.servants = c.servants) :
    c.Beside c' where
  config := hconfig
  closed := hclosed
  table := htable
  managers n := hmanagers ▸ rel_refl Manager.Beside.refl _
  servants := by rw [hservants]

/-- And nobody has pushed anything. -/
structure Quiet (c c' : Client) : Prop extends Beside c c' where
  pushes : c'.pushes = c.pushes

theorem Beside.refl (c : Client) : c.Beside c := .of_eq rfl rfl rfl rfl rfl

theorem Beside.trans {c c' c'' : Client} (h : c.Beside c') (h' : c'.Beside c'') : c.Beside c'' where
  config := h'.config.trans h.config
  closed := h'.closed.trans h.closed
  table := h'.table.trans h.table
  managers n := rel_trans (fun _ _ _ hab hbc => hab.trans hbc) (h.managers n) (h'.managers n)
  servants := h'.servants.trans h.servants

instance : Std.Refl Quiet := ⟨fun c => ⟨.refl c, rfl⟩⟩

instance : IsTrans Client Quiet :=
  ⟨fun _ _ _ h h' => ⟨h.toBeside.trans h'.toBeside, h'.pushes.trans h.pushes⟩⟩

section Programs

variable {α : Type} {out : Outside} {number : Nat} {e : Expected} {t : Target}

theorem quiet_of_eq {f : Client → Client} (h : ∀ c, (f c).config = c.config ∧
    (f c).closed = c.closed ∧ (f c).table = c.table ∧ (f c).managers = c.managers ∧
    (f c).servants = c.servants ∧ (f c).pushes = c.pushes) :
    Moves Quiet (modify f : StateM Client PUnit) := fun c => by
  obtain ⟨hconfig, hclosed, htable, hmanagers, hservants, hpushes⟩ := h c
  exact ⟨.of_eq hconfig hclosed htable hmanagers hservants, hpushes⟩

theorem quiet_draw : Moves Quiet draw := fun _ => ⟨.of_eq rfl rfl rfl rfl rfl, rfl⟩

/-- A change that does not show in what is looked at. -/
theorem map_modify_eq {β γ : Type} {f : β → β} {g : β → γ} (h : ∀ b, g (f b) = g b) (bs : List β)
    (n : Nat) : (bs.modify n f).map g = bs.map g := by
  refine List.ext_getElem? fun k => ?_
  rw [List.getElem?_map, List.getElem?_map, List.getElem?_modify]
  cases bs[k]? with
  | none => rfl
  | some b => by_cases hn : n = k <;> simp [hn, h]

theorem quiet_modifyServant {f : Servant → Servant}
    (hf : ∀ s, (f s).manager = s.manager ∧ (f s).pushCallback = s.pushCallback) :
    Moves Quiet (modifyServant number f) := fun c => by
  refine ⟨⟨rfl, rfl, rfl, fun n => rel_refl Manager.Beside.refl _, ?_⟩, rfl⟩
  exact map_modify_eq (fun s => Prod.ext (hf s).1 (hf s).2) c.servants number

theorem quiet_onManager {f : Manager → α × Manager} {default : α}
    (hf : ∀ m : Manager, m.Beside (f m).2) : Moves Quiet (onManager number default f) := fun c => by
  cases hm : c.managers[number]? with
  | none =>
    rw [onManager_of_none hm]
    exact refl_of Quiet c
  | some m =>
    rw [onManager_of_getElem? hm]
    exact ⟨⟨rfl, rfl, rfl, rel_set Manager.Beside.refl hm (hf m), rfl⟩, rfl⟩

theorem quiet_modifyManager {f : Manager → Manager} (hf : ∀ m : Manager, m.Beside (f m)) :
    Moves Quiet (modifyManager number f) := fun c => by
  refine ⟨⟨rfl, rfl, rfl, fun n => ?_, rfl⟩, rfl⟩
  show Option.Rel _ _ (c.managers.modify number f)[n]?
  rw [List.getElem?_modify]
  cases c.managers[n]? with
  | none => exact .none
  | some m =>
    refine .some ?_
    split
    · exact hf m
    · exact .refl m

theorem quiet_onAdapter {f : Adapter → α × Adapter} {key : String} {default : α}
    (hf : ∀ a : Adapter, a.Beside (f a).2) : Moves Quiet (onAdapter number key default f) :=
  (quiet_onManager fun m => m.beside_onAdapter? key hf).bind fun _ => moves_pure

theorem quiet_onTarget {default : α} {f : Adapter → Nat → α × Adapter}
    (hf : ∀ (a : Adapter) now, a.Beside (f a now).2) : Moves Quiet (onTarget t default f) :=
  moves_get_bind fun c => quiet_onAdapter (fun a => hf a c.clock) c

/-! ## What is quiet -/

theorem quiet_fire {outcome : Outcome} : Moves Quiet (fire e outcome) := by
  refine .bind (quiet_modifyServant ?_) fun _ => quiet_of_eq ?_
  · exact fun _ => ⟨rfl, rfl⟩
  · exact fun _ => ⟨rfl, rfl, rfl, rfl, rfl, rfl⟩

theorem quiet_failWaiters {ws : List Waiter} : Moves Quiet (failWaiters number ws) :=
  moves_get_bind fun c => (moves_forIn fun _ => quiet_fire).bind (fun _ => moves_pure) c

theorem quiet_expire : Moves Quiet (expire e) := by
  refine moves_get_bind fun c => ?_
  refine Moves.bind (quiet_onManager fun m => ?_) (fun ended => ?_) c
  · exact m.beside_onCall? e.id fun a => (a.beside_cancel e.id).trans (Adapter.beside_finishCall ..)
  · split
    · exact quiet_fire
    · exact moves_pure

theorem quiet_checkStatus {keepAlive : Option Nat} :
    Moves Quiet (checkStatus out keepAlive number) := by
  refine quiet_draw.bind fun draw => moves_get_bind fun c => ?_
  refine Moves.bind (quiet_onManager fun m => ?_) (fun lastId => ?_) c
  · exact m.beside_checkStatus ..
  · exact quiet_of_eq fun _ => ⟨rfl, rfl, rfl, rfl, rfl, rfl⟩

theorem quiet_poll {now : Nat} :
    Moves Quiet (onManager number [] (·.poll now) >>= failWaiters number) :=
  (quiet_onManager fun m => m.beside_poll now).bind fun _ => quiet_failWaiters

theorem quiet_send {r : Request} : Moves Quiet (send out t r) :=
  quiet_onTarget fun a now => a.beside_send out.dial r now

theorem quiet_revive {e : Endpoint} {degraded : Bool} :
    Moves Quiet (revive number e degraded) := by
  rw [revive]
  split
  · refine quiet_draw.bind fun draw => moves_get_bind fun c => ?_
    exact ((quiet_onAdapter fun _ => ⟨rfl, rfl⟩).bind fun _ =>
      quiet_modifyManager fun m => m.beside_addAlive e draw) c
  · exact moves_pure

theorem quiet_release : Moves Quiet (release number) := quiet_modifyServant fun _ => ⟨rfl, rfl⟩

theorem quiet_acquire : Moves Quiet (acquire number) := by
  refine moves_get_bind fun c => ?_
  cases c.servants[number]? with
  | none => exact refl_of Quiet c
  | some s =>
    dsimp only
    generalize s.inFlight.acquire = acquired
    obtain ⟨admitted, inFlight⟩ := acquired
    refine Moves.bind (quiet_modifyServant ?_) (fun _ => ?_) c
    · exact fun _ => ⟨rfl, rfl⟩
    · cases admitted <;> exact moves_pure

theorem quiet_start {func : String} {buffer : Bytes} {packetType : Int8} {o : CallOptions}
    {timeout : Duration} : Moves Quiet (start number func buffer packetType o timeout) := fun _ =>
  ⟨.of_eq rfl rfl rfl rfl rfl, rfl⟩

/-- An answer is taken in. -/
theorem quiet_takeIn {w : Waiter} {r : Response} : Moves Quiet (takeIn t (.answered w r)) := by
  cases w with
  | caller => exact moves_pure
  | callback =>
    refine moves_get_bind fun c => ?_
    cases c.expected.find? fun e => e.id == r.requestId with
    | none => exact refl_of Quiet c
    | some e =>
      exact ((quiet_onTarget fun a now => a.beside_finishCall e.connection true now).bind fun _ =>
        quiet_revive.bind fun _ => quiet_fire.bind fun _ => moves_pure) c

end Programs

end TaggedRpc.Client
