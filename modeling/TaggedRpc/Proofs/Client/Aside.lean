import TaggedRpc.Proofs.Client.Events

/-!
# What calls and time leave alone

A call and a moment of time change much in a client: adapters come and go, callbacks run, health is
checked, rosters are replaced. But they do not shut it down, they make no manager and no servant,
and they open no manager that is closed (`Client.Aside`).

That is so of every program for calls and time (`Client.keeps_of_traces`).
-/

namespace TaggedRpc.Client

/-- What is in use stays in use, and a manager that is closed stays so. -/
structure Aside (c c' : Client) : Prop where
  closed : c'.closed = c.closed
  table : c'.table = c.table
  managers : ∀ n : Nat, Option.Rel (fun m m' : Manager => m.closed = true → m'.closed = true)
    c.managers[n]? c'.managers[n]?
  servants : c'.servants.map Servant.manager = c.servants.map Servant.manager

namespace Aside

variable {c c' : Client}

theorem of_eq (hclosed : c'.closed = c.closed) (htable : c'.table = c.table)
    (hmanagers : c'.managers = c.managers)
    (hservants : c'.servants.map Servant.manager = c.servants.map Servant.manager) :
    c.Aside c' where
  closed := hclosed
  table := htable
  managers _ := hmanagers ▸ rel_refl (fun _ => id) _
  servants := hservants

theorem length_managers (h : c.Aside c') : c'.managers.length = c.managers.length := by
  have hnone (n : Nat) : c.managers[n]? = none ↔ c'.managers[n]? = none := by
    have hn := h.managers n
    generalize c.managers[n]? = a, c'.managers[n]? = b at hn ⊢
    cases hn with
    | none => rfl
    | some => exact ⟨nofun, nofun⟩
  simp only [List.getElem?_eq_none_iff] at hnone
  exact Nat.le_antisymm ((hnone _).1 (Nat.le_refl _)) ((hnone _).2 (Nat.le_refl _))

end Aside

theorem Onward.aside {c c' : Client} (h : c.Onward c') : c.Aside c' where
  closed := h.closed
  table := h.table
  managers n := rel_mono (fun _ _ honward => honward.closed) (h.managers n)
  servants := h.servants

/-- A program that leaves alone what is in use. -/
def Keeps {α : Type} (x : StateM Client α) : Prop := ∀ c : Client, c.Aside (x c).2

/-- A program for calls or time leaves alone what is in use. -/
theorem keeps_of_traces {α : Type} {x : StateM Client α} (h : Moves Traces x) :
    Keeps x := fun c => by
  obtain ⟨_, htrace⟩ := h c
  exact htrace.onward.aside

variable {out : Outside} {number : Nat}

theorem keeps_acquire : Keeps (acquire number) := keeps_of_traces quiet_acquire.traces

theorem keeps_start {func : String} {buffer : Bytes} {packetType : Int8} {o : CallOptions}
    {timeout : Duration} : Keeps (start number func buffer packetType o timeout) :=
  keeps_of_traces quiet_start.traces

/-- Time goes by until everything has drained. -/
theorem keeps_settleAll {numbers : List Nat} {ms : Nat} : Keeps (do
    for number in numbers do
      maintain out number
    settle out ms) :=
  keeps_of_traces ((moves_forIn fun _ => traces_maintain).bind fun _ => traces_settle)

end TaggedRpc.Client
