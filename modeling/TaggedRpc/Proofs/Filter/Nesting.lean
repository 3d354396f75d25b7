import Mathlib.Data.List.Induction
import TaggedRpc.Proofs.Filter.Behaviour

/-!
# The order of a chain

Filters are put before, in the middle of and after a chain in any sequence (`Placement`). In the
chain stand those before in the sequence of their placements, then the last one that was put in the
middle, and then those after in theirs (`FilterChain.ordered_assemble`).

What a filter does depends on its *situation*: the invocation, the time and the state. It is done,
or it goes on in some situation and does something with what comes back, any number of times
(`Conduct`). A filter of a chain with a name is a *link*. To see a run, each link notes when it is
entered and when it is left, and the last step when it is reached (`Link.watch`, `Call.watch`);
apart from the trace this changes nothing (`Link.watched_at`).

* Whatever filters do, the trace is nested: what happens between the way in and the way back of a
  filter is any number of runs of the filters behind it (`Link.nested_seen`).
* If filters go on once each, down to one that does not go on or to the last step (`Link.TurnsAt`),
  each of them is entered once, in their order, and left once, in reverse. On the way in, each one
  hands on what it makes of its situation, and on the way back what it makes of what comes back
  (`Link.TurnsAt.exists_straight`).

`FilterChain.run_assemble` says this of every sequence of placements.
-/

namespace TaggedRpc

variable {σ τ : Type}

/-! ## Placements -/

/-- Something that is put in one of the three places of a chain. -/
inductive Placement (α : Type) where
  | before (a : α)
  | middle (a : α)
  | after (a : α)

namespace Placement

variable {α β : Type}

def map (g : α → β) : Placement α → Placement β
  | before a => before (g a)
  | middle a => middle (g a)
  | after a => after (g a)

def before? : Placement α → Option α
  | before a => some a
  | _ => none

def middle? : Placement α → Option α
  | middle a => some a
  | _ => none

def after? : Placement α → Option α
  | after a => some a
  | _ => none

@[simp] theorem before?_map (g : α → β) (p : Placement α) :
    (p.map g).before? = p.before?.map g := by
  cases p <;> rfl

@[simp] theorem middle?_map (g : α → β) (p : Placement α) :
    (p.map g).middle? = p.middle?.map g := by
  cases p <;> rfl

@[simp] theorem after?_map (g : α → β) (p : Placement α) :
    (p.map g).after? = p.after?.map g := by
  cases p <;> rfl

/-- Those before in their sequence, the last one in the middle, and those after in theirs. -/
def arrangement (ps : List (Placement α)) : List α :=
  ps.filterMap before? ++ (ps.filterMap middle?).getLast?.toList ++ ps.filterMap after?

theorem arrangement_map (g : α → β) (ps : List (Placement α)) :
    arrangement (ps.map (map g)) = (arrangement ps).map g := by
  simp only [arrangement, List.filterMap_map, Function.comp_def, before?_map, middle?_map,
    after?_map, ← List.map_filterMap, List.getLast?_map, Option.toList_map, List.map_append]

end Placement

namespace FilterChain

/-- A chain with one more filter. -/
def place (c : FilterChain σ) : Placement (Filter σ) → FilterChain σ
  | .before f => c.withBefore f
  | .middle f => c.withMiddle f
  | .after f => c.withAfter f

/-- The chain that placements make, the first one first. -/
def assemble (ps : List (Placement (Filter σ))) : FilterChain σ := ps.foldl place {}

theorem assemble_concat (ps : List (Placement (Filter σ))) (p : Placement (Filter σ)) :
    assemble (ps ++ [p]) = (assemble ps).place p := by
  rw [assemble, List.foldl_append, List.foldl_cons, List.foldl_nil, assemble]

theorem assemble_eq (ps : List (Placement (Filter σ))) :
    assemble ps =
      { before := ps.filterMap Placement.before?
        middle := (ps.filterMap Placement.middle?).getLast?
        after := ps.filterMap Placement.after? } := by
  induction ps using List.reverseRecOn with
  | nil => rfl
  | append_singleton ps p ih =>
    rw [assemble_concat, ih]
    cases p <;> simp [place, withBefore, withMiddle, withAfter, Placement.before?,
      Placement.middle?, Placement.after?]

theorem ordered_assemble (ps : List (Placement (Filter σ))) :
    (assemble ps).ordered = Placement.arrangement ps := by
  rw [assemble_eq]
  rfl

end FilterChain

/-! ## Filters and what they do -/

/-- An invocation on its way within a time, and the state that it meets. -/
structure Situation (σ : Type) where
  invocation : Invocation
  timeout : Duration
  state : σ

/-- The situation in a state with one more part. -/
def Situation.beside (x : Situation σ) (t : τ) : Situation (σ × τ) :=
  ⟨x.invocation, x.timeout, (x.state, t)⟩

/-- How a call goes, and the state that it leaves. -/
abbrev Ending (σ : Type) := Completion × σ

/-- The ending in a state with one more part. -/
def Ending.beside (r : Ending σ) (t : τ) : Ending (σ × τ) := (r.1, (r.2, t))

/-- How a call goes from a situation. -/
def Call.at (call : Call σ) (x : Situation σ) : Ending σ :=
  call x.invocation x.timeout x.state

/-- What is done with the rest of a chain. -/
inductive Conduct (σ : Type) where
  | done (r : Ending σ)
  /-- It goes on, and does something with what comes back. -/
  | next (x : Situation σ) (after : Ending σ → Conduct σ)

namespace Conduct

/-- How it ends when it goes on by a call. -/
def run (rest : Call σ) : Conduct σ → Ending σ
  | done r => r
  | next x after => (after (rest.at x)).run rest

/-- The same in a state with one more part, which it leaves alone. -/
def beside (t : τ) : Conduct σ → Conduct (σ × τ)
  | done r => done (Ending.beside r t)
  | next x after => next (x.beside t) fun r => (after (r.1, r.2.1)).beside r.2.2

/-- It goes on once, whatever comes back. -/
def GoesOnce (c : Conduct σ) : Prop :=
  ∃ x after, c = next x after ∧ ∀ r, ∃ r', after r = done r'

end Conduct

/-- A filter of a chain: its name, and what it does in every situation. -/
structure Link (σ : Type) where
  name : String
  conduct : Situation σ → Conduct σ

/-- Keeps a trace beside a state. -/
def Filter.Note.beside : Filter.Note (σ × List TraceEvent) :=
  fun e => modify fun s => (s.1, s.2 ++ [e])

namespace Link

def filter (f : Link σ) : Filter σ := fun rest v timeout s => (f.conduct ⟨v, timeout, s⟩).run rest

/-- The link in a state with one more part, which it leaves alone. -/
def beside (f : Link σ) : Link (σ × τ) where
  name := f.name
  conduct x := (f.conduct ⟨x.invocation, x.timeout, x.state.1⟩).beside x.state.2

/-- The filter, noting when it is entered and when it is left. -/
def watch (f : Link σ) : Filter (σ × List TraceEvent) :=
  fun rest => Filter.record .beside f.name (f.beside.filter rest)

end Link

/-- The last step, noting when it is reached. -/
def Call.watch (last : Call σ) : Call (σ × List TraceEvent) := fun v timeout => do
  Filter.Note.beside (.entered none v timeout)
  fun s => Ending.beside (last v timeout s.1) s.2

/-- A behaviour is what a filter does that leaves the state alone. -/
def Way.conduct : Way → σ → Conduct σ
  | done c, s => .done (c, s)
  | next v timeout after, s => .next ⟨v, timeout, s⟩ fun r => (after r.1).conduct r.2

theorem Way.run_conduct (rest : Call σ) (w : Way) (s : σ) :
    (w.conduct s).run rest = w.run rest s := by
  induction w generalizing s with
  | done c => rfl
  | next v timeout after ih => exact ih _ _

theorem Way.filter_conduct (name : String) (b : Behaviour) :
    (Link.mk name fun x => (b x.invocation x.timeout).conduct x.state).filter =
      (Way.filter b : Filter σ) :=
  funext fun rest => funext fun v => funext fun timeout => funext fun s =>
    run_conduct rest (b v timeout) s

/-- A filter that goes on twice, with a note in between. -/
example : (Link.mk "twice" fun x => .next x fun r =>
      .next ⟨x.invocation, x.timeout, r.2 ++ [.first r.1.1]⟩ .done).filter =
    Filter.twice fun e => modify (· ++ [e]) := rfl

/-! ## Traces -/

/-- What is seen of the runs of the rest, where `seenRest` is seen of one from a situation. -/
def Conduct.seen (rest : Call σ) (seenRest : Situation σ → List TraceEvent) :
    Conduct σ → List TraceEvent
  | done _ => []
  | next x after => seenRest x ++ (after (rest.at x)).seen rest seenRest

namespace Link

/-- Links around a last step. -/
def around (fs : List (Link σ)) (last : Call σ) : Call σ :=
  FilterChain.wrap (fs.map filter) last

theorem around_cons_at (f : Link σ) (fs : List (Link σ)) (last : Call σ) (x : Situation σ) :
    (around (f :: fs) last).at x = (f.conduct x).run (around fs last) := rfl

/-- What is seen of a run. -/
def seen (last : Call σ) : List (Link σ) → Situation σ → List TraceEvent
  | [], x => [.entered none x.invocation x.timeout]
  | f :: fs, x =>
    .entered (some f.name) x.invocation x.timeout ::
      ((f.conduct x).seen (around fs last) (seen last fs) ++
        [.left f.name ((around (f :: fs) last).at x).1.1])

theorem watch_last_at (last : Call σ) (x : Situation σ) (trace : List TraceEvent) :
    last.watch.at (x.beside trace) =
      Ending.beside (last.at x) (trace ++ [.entered none x.invocation x.timeout]) := rfl

theorem watch_at (f : Link σ) (rest : Call (σ × List TraceEvent)) (x : Situation σ)
    (trace : List TraceEvent) :
    (f.watch rest).at (x.beside trace) =
      let r := ((f.conduct x).beside
        (trace ++ [.entered (some f.name) x.invocation x.timeout])).run rest
      (r.1, (r.2.1, r.2.2 ++ [.left f.name r.1.1])) := rfl

/-- If runs of the rest are only watched, so is what is done with it. -/
theorem run_beside {rest : Call σ} {watched : Call (σ × List TraceEvent)}
    {seenRest : Situation σ → List TraceEvent}
    (h : ∀ x trace, watched.at (x.beside trace) = Ending.beside (rest.at x) (trace ++ seenRest x))
    (c : Conduct σ) (trace : List TraceEvent) :
    (c.beside trace).run watched = Ending.beside (c.run rest) (trace ++ c.seen rest seenRest) := by
  induction c generalizing trace with
  | done r =>
    rw [Conduct.seen, List.append_nil]
    rfl
  | next x after ih =>
    rw [Conduct.beside, Conduct.run, h, Conduct.run, Conduct.seen, ← List.append_assoc]
    exact ih _ _

/-- Watching a chain changes nothing but the trace. -/
theorem watched_at (fs : List (Link σ)) (last : Call σ) (x : Situation σ)
    (trace : List TraceEvent) :
    (FilterChain.wrap (fs.map watch) last.watch).at (x.beside trace) =
      Ending.beside ((around fs last).at x) (trace ++ seen last fs x) := by
  induction fs generalizing x trace with
  | nil => exact watch_last_at last x trace
  | cons f fs ih =>
    rw [List.map_cons, FilterChain.wrap_cons, watch_at, run_beside ih, ← around_cons_at]
    simp [Ending.beside, seen]

/-- A trace of a chain with filters of the given names: what is between the way in and the way back
    of a filter is any number of traces of the filters behind it. -/
inductive Nested : List String → List TraceEvent → Prop
  | call (v : Invocation) (timeout : Duration) : Nested [] [.entered none v timeout]
  | filter {names : List String} {inner : List (List TraceEvent)} (name : String) (v : Invocation)
      (timeout : Duration) (verdict : Verdict) : (∀ events ∈ inner, Nested names events) →
      Nested (name :: names)
        (.entered (some name) v timeout :: (inner.flatten ++ [.left name verdict]))

theorem exists_seen_eq_flatten {p : List TraceEvent → Prop}
    {seenRest : Situation σ → List TraceEvent} (rest : Call σ) (h : ∀ x, p (seenRest x))
    (c : Conduct σ) :
    ∃ inner : List (List TraceEvent), c.seen rest seenRest = inner.flatten ∧
      ∀ events ∈ inner, p events := by
  induction c with
  | done r => exact ⟨[], rfl, fun _ hmem => absurd hmem List.not_mem_nil⟩
  | next x after ih =>
    obtain ⟨inner, hinner, hall⟩ := ih (rest.at x)
    refine ⟨seenRest x :: inner, ?_, List.forall_mem_cons.2 ⟨h x, hall⟩⟩
    rw [Conduct.seen, hinner, List.flatten_cons]

theorem nested_seen (last : Call σ) (fs : List (Link σ)) (x : Situation σ) :
    Nested (fs.map name) (seen last fs x) := by
  induction fs generalizing x with
  | nil => exact .call _ _
  | cons f fs ih =>
    obtain ⟨inner, hinner, hall⟩ := exists_seen_eq_flatten (around fs last) ih (f.conduct x)
    rw [List.map_cons, seen, hinner]
    exact .filter _ _ _ _ hall

/-! ## Runs that turn back once -/

/-- From a situation, each filter goes on exactly once down to a position, and there the run turns
    back: at a filter that does not go on, or at the last step when there are no more filters. -/
inductive TurnsAt (last : Call σ) : Nat → List (Link σ) → Situation σ → Prop
  | call (x : Situation σ) : TurnsAt last 0 [] x
  | done {f : Link σ} {fs : List (Link σ)} {x : Situation σ} {r : Ending σ} :
      f.conduct x = .done r → TurnsAt last 0 (f :: fs) x
  | next {p : Nat} {f : Link σ} {fs : List (Link σ)} {x y : Situation σ}
      {after : Ending σ → Conduct σ} {r : Ending σ} :
      f.conduct x = .next y after → TurnsAt last p fs y → after ((around fs last).at y) = .done r →
      TurnsAt last (p + 1) (f :: fs) x

/-- The situations in which filters are entered, and how they end, of a run that turns back at a
    position. -/
structure Straight (last : Call σ) (p : Nat) (fs : List (Link σ)) (entries : Nat → Situation σ)
    (exits : Nat → Ending σ) : Prop where
  /-- A filter before the position hands on the situation in which the next one is entered, and ends
      with what it makes of the end of that. -/
  onward : ∀ i < p, ∃ f after, fs[i]? = some f ∧
    f.conduct (entries i) = .next (entries (i + 1)) after ∧ after (exits (i + 1)) = .done (exits i)
  /-- At the position, a filter ends without going on, or the last step does. -/
  turn : (∃ f, fs[p]? = some f ∧ f.conduct (entries p) = .done (exits p)) ∨
    p = fs.length ∧ last.at (entries p) = exits p

/-- The trace of such a run: filters are entered in their order, then the last step if the run gets
    there, and left in reverse. -/
def passage (p : Nat) (fs : List (Link σ)) (entries : Nat → Situation σ)
    (exits : Nat → Ending σ) : List TraceEvent :=
  (fs.take (p + 1)).mapIdx (fun i f =>
      .entered (some f.name) (entries i).invocation (entries i).timeout) ++
    ((if p = fs.length then [.entered none (entries p).invocation (entries p).timeout] else []) ++
    ((fs.take (p + 1)).mapIdx fun i f => .left f.name (exits i).1.1).reverse)

/-- Prepending `a` to the sequence `s`. -/
def seqCons {α : Type} (a : α) (s : Nat → α) : Nat → α
  | 0 => a
  | i + 1 => s i

variable {last : Call σ} {p : Nat} {f : Link σ} {fs : List (Link σ)} {x : Situation σ}
  {r : Ending σ} {entries : Nat → Situation σ} {exits : Nat → Ending σ}

theorem Straight.cons {after : Ending σ → Conduct σ} (h : Straight last p fs entries exits)
    (hnext : f.conduct x = .next (entries 0) after) (hdone : after (exits 0) = .done r) :
    Straight last (p + 1) (f :: fs) (seqCons x entries) (seqCons r exits) where
  onward i hi := by
    cases i with
    | zero => exact ⟨f, after, rfl, hnext, hdone⟩
    | succ i => exact h.onward i (Nat.lt_of_succ_lt_succ hi)
  turn := h.turn.imp id fun hturn => ⟨congrArg (· + 1) hturn.1, hturn.2⟩

theorem passage_cons : passage (p + 1) (f :: fs) (seqCons x entries) (seqCons r exits) =
    .entered (some f.name) x.invocation x.timeout ::
      (passage p fs entries exits ++ [.left f.name r.1.1]) := by
  simp [passage, List.mapIdx_cons, seqCons]

/-- A run that turns back once is straight, and that is its trace. -/
theorem TurnsAt.exists_straight (h : TurnsAt last p fs x) : ∃ entries exits,
    Straight last p fs entries exits ∧ entries 0 = x ∧ exits 0 = (around fs last).at x ∧
      seen last fs x = passage p fs entries exits := by
  induction h with
  | call x =>
    exact ⟨fun _ => x, fun _ => last.at x, ⟨fun _ hi => absurd hi (Nat.not_lt_zero _),
      .inr ⟨rfl, rfl⟩⟩, rfl, rfl, rfl⟩
  | @done f fs x r hdone =>
    refine ⟨fun _ => x, fun _ => r, ⟨fun _ hi => absurd hi (Nat.not_lt_zero _),
      .inl ⟨f, rfl, hdone⟩⟩, rfl, ?_, ?_⟩
    · rw [around_cons_at, hdone, Conduct.run]
    · rw [seen, around_cons_at, hdone]
      simp [Conduct.seen, Conduct.run, passage]
  | @next p f fs x y after r hnext _ hdone ih =>
    obtain ⟨entries, exits, hstraight, rfl, hexit, hseen⟩ := ih
    rw [← hexit] at hdone
    refine ⟨seqCons x entries, seqCons r exits, hstraight.cons hnext hdone, rfl, ?_, ?_⟩
    · rw [around_cons_at, hnext, Conduct.run, ← hexit, hdone, Conduct.run]
      rfl
    · rw [passage_cons, seen, around_cons_at, hnext, Conduct.seen, Conduct.run, ← hexit, hdone,
        Conduct.seen, Conduct.run, List.append_nil, hseen]

/-- Filters that go on once, whatever the situation, lead to the last step. -/
theorem turnsAt_length (h : ∀ f ∈ fs, ∀ y, (f.conduct y).GoesOnce) (x : Situation σ) :
    TurnsAt last fs.length fs x := by
  induction fs generalizing x with
  | nil => exact .call x
  | cons f fs ih =>
    have hall := List.forall_mem_cons.1 h
    obtain ⟨y, after, hnext, hdone⟩ := hall.1 x
    obtain ⟨r, hr⟩ := hdone ((around fs last).at y)
    exact .next hnext (ih hall.2 y) hr

/-- If no filter goes on more than once, whatever the situation, a run turns back somewhere. -/
theorem exists_turnsAt
    (h : ∀ f ∈ fs, ∀ y, (∃ r, f.conduct y = .done r) ∨ (f.conduct y).GoesOnce)
    (x : Situation σ) : ∃ p, TurnsAt last p fs x := by
  induction fs generalizing x with
  | nil => exact ⟨0, .call x⟩
  | cons f fs ih =>
    have hall := List.forall_mem_cons.1 h
    rcases hall.1 x with ⟨r, hr⟩ | ⟨y, after, hnext, hdone⟩
    · exact ⟨0, .done hr⟩
    · obtain ⟨p, hp⟩ := ih hall.2 y
      obtain ⟨r, hr⟩ := hdone ((around fs last).at y)
      exact ⟨p + 1, .next hnext hp hr⟩

/-- What is behind a filter that never goes on does not matter. -/
theorem watch_eq_of_done (h : ∀ y, ∃ r, f.conduct y = .done r)
    (rest rest' : Call (σ × List TraceEvent)) : f.watch rest = f.watch rest' := by
  have hrun (y : Situation (σ × List TraceEvent)) :
      (f.beside.conduct y).run rest = (f.beside.conduct y).run rest' := by
    obtain ⟨r, hr⟩ := h ⟨y.invocation, y.timeout, y.state.1⟩
    have hbeside : f.beside.conduct y = .done (Ending.beside r y.state.2) := by
      simp only [beside, hr, Conduct.beside]
    rw [hbeside, Conduct.run, Conduct.run]
  have hfilter : f.beside.filter rest = f.beside.filter rest' :=
    funext fun v => funext fun timeout => funext fun s => hrun ⟨v, timeout, s⟩
  rw [watch, watch, hfilter]

end Link

namespace FilterChain

/-- However filters were put into a chain, it puts them around the last step as they are arranged,
    and its runs are nested in that order, whatever the filters do. A run that turns back once is
    straight, down to the filter that does not go on or to the last step. It gets to the last step
    if all filters go on once, and it turns back somewhere if none goes on more than once. And what
    is behind a filter that never goes on does not matter, whatever those before it do. -/
theorem run_assemble (ps : List (Placement (Link σ))) (last : Call σ) (x : Situation σ) :
    let fs := Placement.arrangement ps
    let plain := (assemble (ps.map (.map Link.filter))).run last
    let watched := (assemble (ps.map (.map Link.watch))).run last.watch
    plain = Link.around fs last ∧
    (∃ trace, watched.at (x.beside []) = Ending.beside (plain.at x) trace ∧
      Link.Nested (fs.map Link.name) trace ∧
      ∀ p, Link.TurnsAt last p fs x → ∃ entries exits, Link.Straight last p fs entries exits ∧
        entries 0 = x ∧ exits 0 = plain.at x ∧ trace = Link.passage p fs entries exits) ∧
    ((∀ f ∈ fs, ∀ y, (f.conduct y).GoesOnce) → Link.TurnsAt last fs.length fs x) ∧
    ((∀ f ∈ fs, ∀ y, (∃ r, f.conduct y = .done r) ∨ (f.conduct y).GoesOnce) →
      ∃ p, Link.TurnsAt last p fs x) ∧
    ∀ outer f inner, fs = outer ++ f :: inner → (∀ y, ∃ r, f.conduct y = .done r) →
      ∀ rest, watched = wrap (outer.map Link.watch) (f.watch rest) := by
  intro fs plain watched
  have hplain : plain = Link.around fs last := by
    rw [Link.around, ← Placement.arrangement_map, ← ordered_assemble]
    rfl
  have hwatched : watched = wrap (fs.map Link.watch) last.watch := by
    rw [← Placement.arrangement_map, ← ordered_assemble]
    rfl
  refine ⟨hplain, ⟨Link.seen last fs x, ?_, Link.nested_seen last fs x, fun p hturns => ?_⟩,
    fun h => Link.turnsAt_length h x, fun h => Link.exists_turnsAt h x,
    fun outer f inner hfs hdone rest => ?_⟩
  · rw [hwatched, hplain, Link.watched_at, List.nil_append]
  · rw [hplain]
    exact hturns.exists_straight
  · rw [hwatched, hfs, List.map_append, List.map_cons, wrap_append, wrap_cons,
      Link.watch_eq_of_done hdone _ rest]

/-- A filter that goes on with half the time. -/
def halving (name : String) : Link σ where
  name
  conduct x := .next { x with timeout := ⟨x.timeout.nanos / 2⟩ } .done

/-- A filter that refuses every call. -/
def refusing (name : String) : Link σ where
  name
  conduct x := .done ((.error (.filter "refused"), x.invocation), x.state)

/-- A last step that counts how often it is reached. -/
def counting : Call Nat := fun v _ n => ((.ok (), v), n + 1)

/-- Two filters before a last step, another in the middle instead of one that refused, and one after
    it. -/
def replaced : List (Placement (Link Nat)) :=
  [.after (halving "d"), .middle (refusing "x"), .before (halving "a"), .middle (halving "c"),
    .before (halving "b")]

/-- The same, but it is the later one in the middle that refuses. -/
def blocked : List (Placement (Link Nat)) := replaced ++ [.middle (refusing "x")]

/-- Where all filters go on once, a run gets to the last step, behind the fourth filter. Where the
    third one refuses, it turns back there, whatever is behind it. -/
theorem run_assemble_blocked :
    let x : Situation Nat := ⟨default, ⟨16⟩, 0⟩
    let watched := (assemble (blocked.map (.map Link.watch))).run counting.watch
    ((∀ f ∈ Placement.arrangement replaced, ∀ y, (f.conduct y).GoesOnce) ∧
      Link.TurnsAt counting 4 (Placement.arrangement replaced) x) ∧
    ((∀ f ∈ Placement.arrangement blocked, ∀ y,
        (∃ r, f.conduct y = .done r) ∨ (f.conduct y).GoesOnce) ∧
      ∃ p, Link.TurnsAt counting p (Placement.arrangement blocked) x) ∧
    (Link.TurnsAt counting 2 (Placement.arrangement blocked) x ∧
      ∃ entries exits, Link.Straight counting 2 (Placement.arrangement blocked) entries exits ∧
        entries 0 = x ∧
        (watched.at (x.beside [])).2.2 =
          Link.passage 2 (Placement.arrangement blocked) entries exits) ∧
    (Placement.arrangement blocked =
        [halving "a", halving "b"] ++ refusing "x" :: [halving "d"] ∧
      (∀ y, ∃ r, (refusing "x" : Link Nat).conduct y = .done r) ∧
      watched = wrap ([halving "a", halving "b"].map Link.watch)
        ((refusing "x").watch counting.watch)) := by
  intro x watched
  have honce (name : String) (y : Situation Nat) : ((halving name).conduct y).GoesOnce :=
    ⟨_, _, rfl, fun r => ⟨r, rfl⟩⟩
  have hall : ∀ f ∈ Placement.arrangement replaced, ∀ y, (f.conduct y).GoesOnce := by
    change ∀ f ∈ [halving "a", halving "b", halving "c", halving "d"], _
    simpa using ⟨honce "a", honce "b", honce "c", honce "d"⟩
  have hrefuses (y : Situation Nat) : ∃ r, (refusing "x").conduct y = .done r := ⟨_, rfl⟩
  have hblocked : ∀ f ∈ Placement.arrangement blocked, ∀ y,
      (∃ r, f.conduct y = .done r) ∨ (f.conduct y).GoesOnce := by
    change ∀ f ∈ [halving "a", halving "b", refusing "x", halving "d"], _
    simp only [List.mem_cons, List.not_mem_nil, or_false, forall_eq_or_imp, forall_eq]
    exact ⟨fun y => .inr (honce "a" y), fun y => .inr (honce "b" y), fun y => .inl (hrefuses y),
      fun y => .inr (honce "d" y)⟩
  have hturns : Link.TurnsAt counting 2 (Placement.arrangement blocked) x :=
    .next rfl (.next rfl (.done rfl) rfl) rfl
  obtain ⟨-, -, hlast, -⟩ := run_assemble replaced counting x
  obtain ⟨-, ⟨trace, hwatched, -, hstraight⟩, -, hsome, hbehind⟩ := run_assemble blocked counting x
  obtain ⟨entries, exits, hpath, hentry, -, htrace⟩ := hstraight 2 hturns
  refine ⟨⟨hall, hlast hall⟩, ⟨hblocked, hsome hblocked⟩,
    ⟨hturns, entries, exits, hpath, hentry, ?_⟩, rfl, hrefuses,
    hbehind [halving "a", halving "b"] (refusing "x") [halving "d"] rfl hrefuses counting.watch⟩
  rw [hwatched, ← htrace]
  rfl

end FilterChain

end TaggedRpc
