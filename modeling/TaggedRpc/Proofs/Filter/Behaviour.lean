import TaggedRpc.Filter.Stock

/-!
# What filters do

A filter is any map from calls to calls. What a real one can do with the rest of its chain is to go
on, with some invocation and time, look at how that went, and then go on again or end. Such a *way*
is a tree (`Way`): it is *done* with a completion, or it goes on and has a way for every completion
that may come back. A *behaviour* chooses a way for an invocation and a time. What a filter chooses
by other means is what one of its behaviours does.

The behaviours of a chain make one behaviour (`Way.chain`), in which every filter goes on by the
behaviour of the filters behind it. Its ways are those of the whole chain around the last step
(`FilterChain.run_filter`).

A behaviour is *faithful* if it goes on once, and then says that it went well exactly if it did. A
chain of faithful behaviours is faithful (`Way.faithful_chain`).
-/

namespace TaggedRpc

/-- What is done with the rest of a chain. -/
inductive Way where
  | done (c : Completion)
  /-- It goes on, and does something with what comes back. -/
  | next (v : Invocation) (timeout : Duration) (after : Completion → Way)

/-- What a filter does with an invocation within a time. -/
abbrev Behaviour := Invocation → Duration → Way

namespace Way

variable {σ : Type}

/-- Does one thing after another. -/
def bind : Way → (Completion → Way) → Way
  | done c, f => f c
  | next v timeout after, f => next v timeout fun c => (after c).bind f

/-- Goes on by a behaviour. -/
def through (rest : Behaviour) : Way → Way
  | done c => done c
  | next v timeout after => (rest v timeout).bind fun c => (after c).through rest

/-- The behaviour of a chain, the outermost filter first. -/
def chain : List Behaviour → Behaviour
  | [] => fun v timeout => next v timeout done
  | b :: bs => fun v timeout => (b v timeout).through (chain bs)

/-- The way, when it goes on by a call. -/
def run (rest : Call σ) : Way → StateM σ Completion
  | done c => pure c
  | next v timeout after => do
    let c ← rest v timeout
    (after c).run rest

/-- The filter that behaves in a way. -/
def filter (b : Behaviour) : Filter σ := fun rest v timeout => (b v timeout).run rest

/-- What comes back from the rest decides what is done next. -/
theorem run_next (rest : Call σ) (v : Invocation) (timeout : Duration) (after : Completion → Way)
    (s : σ) : (next v timeout after).run rest s =
      (after (rest v timeout s).1).run rest (rest v timeout s).2 := rfl

theorem run_bind (rest : Call σ) (w : Way) (f : Completion → Way) :
    (w.bind f).run rest = w.run rest >>= fun c => (f c).run rest := by
  induction w with
  | done c => rfl
  | next v timeout after ih =>
    rw [bind, run, run, bind_assoc]
    exact bind_congr fun c => ih c

theorem run_through (rest : Call σ) (b : Behaviour) (w : Way) :
    (w.through b).run rest = w.run (filter b rest) := by
  induction w with
  | done c => rfl
  | next v timeout after ih =>
    rw [through, run_bind, run]
    exact bind_congr fun c => ih c

/-- Goes on once, and then says that it went well exactly if it did. -/
inductive Faithful : Way → Prop
  | intro {v : Invocation} {timeout : Duration} {after : Completion → Way} :
      (∀ c, ∃ c', after c = done c' ∧ c'.1.isOk = c.1.isOk) → Faithful (next v timeout after)

theorem Faithful.through {w : Way} {b : Behaviour} (hw : w.Faithful)
    (hb : ∀ v timeout, (b v timeout).Faithful) : (w.through b).Faithful := by
  obtain @⟨v, timeout, after, hafter⟩ := hw
  rw [Way.through]
  cases hrest : b v timeout with
  | done c =>
    have hfaithful := hb v timeout
    rw [hrest] at hfaithful
    exact nomatch hfaithful
  | next v' timeout' after' =>
    have hfaithful := hb v timeout
    rw [hrest] at hfaithful
    obtain ⟨hafter'⟩ := hfaithful
    refine .intro fun c => ?_
    obtain ⟨c', hc', hsame'⟩ := hafter' c
    obtain ⟨c'', hc'', hsame''⟩ := hafter c'
    refine ⟨c'', ?_, hsame''.trans hsame'⟩
    rw [hc', bind, hc'', Way.through]

/-- A chain of faithful behaviours goes on to the last step once, and says whether that went
    well. -/
theorem faithful_chain {bs : List Behaviour} (h : ∀ b ∈ bs, ∀ v timeout, (b v timeout).Faithful)
    (v : Invocation) (timeout : Duration) : (chain bs v timeout).Faithful := by
  induction bs generalizing v timeout with
  | nil => exact .intro fun c => ⟨c, rfl, rfl⟩
  | cons b bs ih =>
    have hall := List.forall_mem_cons.1 h
    exact (hall.1 v timeout).through fun v timeout => ih hall.2 v timeout

end Way

/-- Filters that behave in some ways behave together as their chain does. -/
theorem FilterChain.wrap_filter {σ : Type} (bs : List Behaviour) (last : Call σ) (v : Invocation)
    (timeout : Duration) :
    wrap (bs.map Way.filter) last v timeout = (Way.chain bs v timeout).run last := by
  induction bs generalizing v timeout with
  | nil => exact (bind_pure _).symm
  | cons b bs ih =>
    rw [List.map_cons, wrap_cons, Way.chain, Way.run_through]
    have hrest : wrap (bs.map Way.filter) last = Way.filter (Way.chain bs) last :=
      funext fun v => funext fun timeout => ih v timeout
    rw [hrest]
    rfl

/-- So does a chain of such filters, wherever it has them. -/
theorem FilterChain.run_filter {σ : Type} {c : FilterChain σ} {bs : List Behaviour}
    (h : c.ordered = bs.map Way.filter) (last : Call σ) (v : Invocation) (timeout : Duration) :
    c.run last v timeout = (Way.chain bs v timeout).run last := by
  rw [run, h, wrap_filter]

namespace Behaviour

/-- Succeeds without going on. -/
def skip : Behaviour := fun v _ => .done (.ok (), v)

/-- Goes on, and fails afterwards. -/
def failAfter (e : RpcError) : Behaviour :=
  fun v timeout => .next v timeout fun c => .done (.error e, c.2)

/-- Goes on. -/
def pass : Behaviour := fun v timeout => .next v timeout .done

end Behaviour

example {σ : Type} : Way.filter .skip = (Filter.skip : Filter σ) := rfl

example {σ : Type} (e : RpcError) : Way.filter (.failAfter e) =
    (Filter.mapExit fun c => (.error e, c.2) : Filter σ) := rfl

end TaggedRpc
