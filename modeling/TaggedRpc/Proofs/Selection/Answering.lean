import TaggedRpc.Proofs.Selection.Layout
import TaggedRpc.Proofs.Selection.Supply

/-!
# When a selector selects

A selector with endpoints in it selects one of them, for every code, and one without any
fails, in every history of changes and selections (`Selector.select_after`). It selects from
something that it made of its endpoints, a weight list or the points of a ring, so what is
made must not be empty while there are endpoints. Weight lists see to that: an endpoint that
gets no share is listed all the same. A ring does not: where weights count, an endpoint whose
weight is not positive owns no point, and a ring of such endpoints alone has members and
selects none of them (`Selector.weightless_not_selected`).
-/

namespace TaggedRpc.Selection

/-! ## Members after changes -/

namespace Members

/-- Members are some endpoints, in their order. -/
structure Lists (m : Members) (es : List Endpoint) : Prop where
  endpoints : m.endpoints = es
  listing : Listing m.keys es

/-- Members to pick from: the weight list holds positions of theirs. -/
structure Holds (m : Members) (es : List Endpoint) : Prop extends m.Lists es where
  positions : ∀ i ∈ m.weightList, i < m.endpoints.length

variable {m : Members} {es : List Endpoint}

theorem Lists.reweigh (h : m.Lists es) (weighted : Bool) : (m.reweigh weighted).Holds es :=
  ⟨⟨h.endpoints, h.listing⟩, fun _ => lt_length_of_mem_reweigh⟩

theorem Lists.concat (h : m.Lists es) {e : Endpoint} (hkey : e.key ∉ m.keys) :
    Lists { m with endpoints := m.endpoints ++ [e], keys := e.key :: m.keys }
      (Change.join es e) := by
  rw [h.listing.join_of_not_mem hkey]
  exact ⟨congrArg (· ++ [e]) h.endpoints, h.listing.concat hkey⟩

/-- What comes of a change of members: those of the new list, or a failure that means that the
    list stays the same. -/
inductive Outcome (es es' : List Endpoint) : Except SelectError Members → Prop
  | ok {m : Members} : m.Lists es' → Outcome es es' (.ok m)
  | error {err : SelectError} : es' = es → Outcome es es' (.error err)

theorem Lists.add (h : m.Lists es) (selector : String) (e : Endpoint) :
    Outcome es (Change.join es e) (m.add selector e) := by
  rw [Members.add]
  by_cases hkey : e.key ∈ m.keys
  · rw [if_pos (List.contains_iff_mem.2 hkey)]
    exact .error (h.listing.join_of_mem hkey)
  · rw [if_neg (mt List.contains_iff_mem.1 hkey)]
    exact .ok (h.concat hkey)

theorem Lists.remove (h : m.Lists es) (selector : String) (e : Endpoint) :
    Outcome es (Change.leave es e) (m.remove selector e) := by
  rw [Members.remove]
  by_cases hkey : e.key ∈ m.keys
  · rw [if_pos (List.contains_iff_mem.2 hkey)]
    exact .ok ⟨congrArg (Change.leave · e) h.endpoints, h.listing.leave e⟩
  · rw [if_neg (mt List.contains_iff_mem.1 hkey)]
    exact .error (h.listing.leave_of_not_mem hkey)

theorem lists_ofList (new : List Endpoint) : (ofList new).Lists (new.foldl Change.join []) := by
  suffices ∀ (m : Members) (es : List Endpoint), m.Lists es →
      (new.foldl (fun m e => (m.add "refresh" e).toOption.getD m) m).Lists
        (new.foldl Change.join es) from this {} [] ⟨rfl, .nil⟩
  induction new with
  | nil => exact fun _ _ h => h
  | cons e new ih =>
    refine fun m es h => ih _ _ ?_
    have hadd := h.add "refresh" e
    dsimp only
    generalize m.add "refresh" e = r at hadd ⊢
    cases hadd with
    | ok h' => exact h'
    | error hsame =>
      rw [hsame]
      exact h

theorem Holds.ready (h : m.Holds es) (hne : es ≠ []) : m.Ready :=
  ⟨h.endpoints ▸ hne, h.positions⟩

theorem pick_of_endpoints_eq_nil (h : m.endpoints = []) (selector : String) (position : Nat) :
    m.pick selector position = .error (.empty selector) := by
  rw [pick, h]
  simp

end Members

/-! ## Selectors in use -/

namespace Selector

/-- The kinds of selectors. -/
inductive Kind where
  | roundRobin
  | random
  | modulo
  | ring (rule : PointRule)
  deriving DecidableEq, Repr

/-- The name of the selectors of a kind in their failures. -/
def Kind.name : Kind → String
  | roundRobin => RoundRobin.name
  | random => Uniform.name
  | modulo => ModHash.name
  | ring _ => Ring.name

/-- A selector without endpoints. -/
def Kind.new (weighted : Bool) : Kind → Selector
  | roundRobin => .roundRobin { weighted }
  | random => .random { weighted }
  | modulo => .modulo { weighted }
  | ring rule => .ring { weighted, rule }

/-- What a selector is used for, with the random number that comes with it. -/
inductive Operation where
  | change (c : Change) (draw : Nat)
  | select (code : UInt32) (draw : Nat)
  deriving DecidableEq, Repr

/-- The change that an operation asks for. -/
def Operation.change? : Operation → Option Change
  | change c _ => some c
  | select _ _ => none

/-- A selector after an operation. -/
def operate (s : Selector) : Operation → Selector
  | .change (.add e) draw => (s.add e draw).toOption.getD s
  | .change (.remove e) draw => (s.remove e draw).toOption.getD s
  | .change (.refresh es) draw => s.refresh es draw
  | .select code draw => (s.select code draw).2

/-- A selector of a kind after operations, one after another, of a new one. -/
def after (kind : Kind) (weighted : Bool) (ops : List Operation) : Selector :=
  ops.foldl operate (kind.new weighted)

/-- The endpoints in a selector after operations. -/
def membersAfter (ops : List Operation) : List Endpoint :=
  Change.membersAfter (ops.filterMap Operation.change?)

/-- Endpoints that a ring has no points for: the weights count, and none is positive. -/
def Weightless (kind : Kind) (weighted : Bool) (es : List Endpoint) : Prop :=
  (∃ rule, kind = .ring rule) ∧ weighted = true ∧ ∀ e ∈ es, e.weight.toInt ≤ 0

/-- A selector of a kind holds endpoints. -/
inductive Holds (weighted : Bool) (es : List Endpoint) : Kind → Selector → Prop
  | roundRobin {s : RoundRobin} : s.members.Holds es → Holds weighted es .roundRobin (.roundRobin s)
  | random {s : Uniform} : s.members.Holds es → Holds weighted es .random (.random s)
  | modulo {s : ModHash} : s.members.Holds es → Holds weighted es .modulo (.modulo s)
  | ring {rule : PointRule} {s : Ring} : Ring.Holds Ring.md5 { weighted, rule } s es →
    Holds weighted es (.ring rule) (.ring s)

variable {weighted : Bool} {es : List Endpoint} {kind : Kind} {s : Selector}

theorem holds_new (kind : Kind) : Holds weighted [] kind (kind.new weighted) := by
  have hmembers : Members.Holds {} [] := ⟨⟨rfl, .nil⟩, List.forall_mem_nil _⟩
  cases kind with
  | roundRobin => exact .roundRobin hmembers
  | random => exact .random hmembers
  | modulo => exact .modulo hmembers
  | ring rule => exact .ring (.empty rfl rfl)

section Outcome

variable {es' : List Endpoint} {r : Except SelectError Members}

theorem holds_roundRobin {s : RoundRobin} (h : s.members.Holds es) (hr : Members.Outcome es es' r)
    (draw : Nat) : Holds weighted es' .roundRobin
      ((roundRobin <$> do pure (s.rebuild (← r) draw)).toOption.getD (.roundRobin s)) := by
  cases hr with
  | ok h' => exact .roundRobin (h'.reweigh _)
  | error hsame => exact hsame ▸ .roundRobin h

theorem holds_random {s : Uniform} (h : s.members.Holds es) (hr : Members.Outcome es es' r) :
    Holds weighted es' .random
      ((random <$> do pure { s with members := (← r).reweigh s.weighted }).toOption.getD
        (.random s)) := by
  cases hr with
  | ok h' => exact .random (h'.reweigh _)
  | error hsame => exact hsame ▸ .random h

theorem holds_modulo {s : ModHash} (h : s.members.Holds es) (hr : Members.Outcome es es' r) :
    Holds weighted es' .modulo
      ((modulo <$> do pure { s with members := (← r).reweigh s.weighted }).toOption.getD
        (.modulo s)) := by
  cases hr with
  | ok h' => exact .modulo (h'.reweigh _)
  | error hsame => exact hsame ▸ .modulo h

theorem holds_ring {rule : PointRule} {t : Ring} {r : Except SelectError Ring}
    (h : Ring.Holds Ring.md5 { weighted, rule } (r.toOption.getD t) es) :
    Holds weighted es (.ring rule) ((ring <$> r).toOption.getD (.ring t)) := by
  cases r with
  | ok t' => exact .ring h
  | error => exact .ring h

end Outcome

theorem Holds.add (h : Holds weighted es kind s) (e : Endpoint) (draw : Nat) :
    Holds weighted (Change.join es e) kind ((s.add e draw).toOption.getD s) := by
  cases h with
  | roundRobin h => exact holds_roundRobin h (h.add RoundRobin.name e) draw
  | random h => exact holds_random h (h.add Uniform.name e)
  | modulo h => exact holds_modulo h (h.add ModHash.name e)
  | ring h => exact holds_ring (h.add e)

theorem Holds.remove (h : Holds weighted es kind s) (e : Endpoint) (draw : Nat) :
    Holds weighted (Change.leave es e) kind ((s.remove e draw).toOption.getD s) := by
  cases h with
  | roundRobin h => exact holds_roundRobin h (h.remove RoundRobin.name e) draw
  | random h => exact holds_random h (h.remove Uniform.name e)
  | modulo h => exact holds_modulo h (h.remove ModHash.name e)
  | ring h => exact holds_ring (h.remove e)

theorem Holds.refresh (h : Holds weighted es kind s) (new : List Endpoint) (draw : Nat) :
    Holds weighted (new.foldl Change.join []) kind (s.refresh new draw) := by
  have hmembers := Members.lists_ofList new
  cases h with
  | roundRobin => exact .roundRobin (hmembers.reweigh _)
  | random => exact .random (hmembers.reweigh _)
  | modulo => exact .modulo (hmembers.reweigh _)
  | ring h => exact .ring (h.refresh new)

/-- A selection leaves the endpoints as they are. -/
theorem Holds.select (h : Holds weighted es kind s) (code : UInt32) (draw : Nat) :
    Holds weighted es kind (s.select code draw).2 := by
  cases h with
  | @roundRobin s h =>
    show Holds weighted es .roundRobin (Selector.roundRobin s.select.2)
    rw [RoundRobin.select]
    split
    · exact .roundRobin h
    · split <;> exact .roundRobin h
  | random h => exact .random h
  | modulo h => exact .modulo h
  | ring h => exact .ring h

theorem holds_after (kind : Kind) (weighted : Bool) (ops : List Operation) :
    Holds weighted (membersAfter ops) kind (after kind weighted ops) := by
  suffices ∀ es s, Holds weighted es kind s →
      Holds weighted ((ops.filterMap Operation.change?).foldl Change.apply es) kind
        (ops.foldl operate s) from this _ _ (holds_new kind)
  induction ops with
  | nil => exact fun _ _ h => h
  | cons op ops ih =>
    intro es s h
    cases op with
    | change c draw =>
      refine ih (c.apply es) _ ?_
      cases c with
      | add e => exact h.add e draw
      | remove e => exact h.remove e draw
      | refresh new => exact h.refresh new draw
    | select code draw => exact ih es _ (h.select code draw)

/-! ## Selections -/

theorem Holds.size_eq (h : Holds weighted es kind s) : s.size = es.length := by
  cases h with
  | roundRobin h | random h | modulo h => exact congrArg List.length h.endpoints
  | ring h => exact h.listing.length_eq

theorem Holds.among (h : Holds weighted es kind s) : s.Among es := by
  cases h with
  | roundRobin h | random h | modulo h => exact fun e he => h.endpoints ▸ he
  | ring h =>
    intro p hp
    obtain ⟨e, he, hp⟩ := List.mem_flatMap.1 (h.points.mem_iff.1 hp)
    rwa [Ring.mem_ownPoints hp]

/-- A ring has no points if there are no members or they weigh nothing. -/
theorem points_eq_nil_iff {rule : PointRule} {r : Ring}
    (h : Ring.Holds Ring.md5 { weighted, rule } r es) :
    r.points = [] ↔ es = [] ∨ Weightless (.ring rule) weighted es := by
  have hpoints : r.points = [] ↔ ∀ e ∈ es, weighted = true ∧ e.weight.toInt ≤ 0 := by
    rw [← List.length_eq_zero_iff, h.points.length_eq, List.length_eq_zero_iff,
      List.flatMap_eq_nil_iff]
    simp only [Ring.ownPoints_eq_nil_iff, Ring.virtualNodes_eq_zero_iff]
  rw [hpoints]
  constructor
  · intro hall
    rcases List.eq_nil_or_concat es with hnil | ⟨others, e, hconcat⟩
    · exact .inl hnil
    · exact .inr ⟨⟨rule, rfl⟩, (hall e (by simp [hconcat])).1, fun x hx => (hall x hx).2⟩
  · rintro (rfl | ⟨-, hweighted, hall⟩)
    · exact List.forall_mem_nil _
    · exact fun e he => ⟨hweighted, hall e he⟩

theorem Holds.ready (h : Holds weighted es kind s) (hne : es ≠ [])
    (hweight : ¬Weightless kind weighted es) : s.Ready := by
  cases h with
  | roundRobin h | random h | modulo h => exact h.ready hne
  | ring h => exact mt (points_eq_nil_iff h).1 (not_or_intro hne hweight)

/-- Only a ring fails with endpoints in it. -/
theorem eq_nil_of_ne_ring (hkind : ∀ rule, kind ≠ .ring rule)
    (h : es = [] ∨ Weightless kind weighted es) : es = [] := by
  rcases h with hnil | ⟨⟨rule, hring⟩, -⟩
  · exact hnil
  · exact absurd hring (hkind rule)

theorem Holds.select_eq_error (h : Holds weighted es kind s)
    (hempty : es = [] ∨ Weightless kind weighted es) (code : UInt32) (draw : Nat) :
    (s.select code draw).1 = .error (.empty kind.name) := by
  cases h with
  | @roundRobin s h =>
    obtain rfl := eq_nil_of_ne_ring (by simp) hempty
    show s.select.1 = _
    rw [RoundRobin.select, if_pos (List.isEmpty_iff.2 h.endpoints)]
    rfl
  | random h | modulo h =>
    obtain rfl := eq_nil_of_ne_ring (by simp) hempty
    exact Members.pick_of_endpoints_eq_nil h.endpoints ..
  | ring h => exact Ring.select_of_points_eq_nil ((points_eq_nil_iff h).2 hempty) code

/-- A selector with endpoints selects one of them, whatever the code, and one without any fails;
    so does a ring whose endpoints weigh nothing. -/
theorem select_after (kind : Kind) (weighted : Bool) (ops : List Operation) :
    let s := after kind weighted ops
    let members := membersAfter ops
    s.size = members.length ∧
    (0 < s.size ∧ ¬Weightless kind weighted members →
      ∀ code draw, ∃ e ∈ members, (s.select code draw).1 = .ok e) ∧
    (¬(0 < s.size ∧ ¬Weightless kind weighted members) →
      ∀ code draw, (s.select code draw).1 = .error (.empty kind.name)) := by
  intro s members
  have hholds := holds_after kind weighted ops
  have hpos : 0 < s.size ↔ members ≠ [] := by
    rw [hholds.size_eq, List.length_pos_iff]
  refine ⟨hholds.size_eq, fun ⟨hsize, hweight⟩ code draw => ?_, fun hnot => ?_⟩
  · obtain ⟨e, he⟩ := (hholds.ready (hpos.1 hsize) hweight).exists_select
    exact ⟨e, hholds.among.mem_of_select he, he⟩
  · refine hholds.select_eq_error ?_
    rwa [hpos, not_and_or, not_not, not_not] at hnot

/-- A ring with weights and one endpoint of static weight zero. -/
theorem weightless_not_selected :
    ¬∀ (kind : Kind) (weighted : Bool) (ops : List Operation),
      (∀ code draw, ∃ e, ((after kind weighted ops).select code draw).1 = .ok e) ↔
        0 < (after kind weighted ops).size := by
  intro h
  let e : Endpoint := { host := "a", port := 1, weightType := .static, weight := 0 }
  have hholds := holds_after (.ring .four) true [.change (.add e) 0]
  have hmembers : membersAfter [.change (.add e) 0] = [e] := by decide
  have hsize : 0 < (after (.ring .four) true [.change (.add e) 0]).size := by
    rw [hholds.size_eq, hmembers]
    decide
  obtain ⟨x, hx⟩ := (h _ _ _).2 hsize 5 0
  have hweightless : Weightless (.ring .four) true (membersAfter [.change (.add e) 0]) := by
    rw [hmembers]
    exact ⟨⟨.four, rfl⟩, rfl, by decide⟩
  rw [hholds.select_eq_error (.inr hweightless)] at hx
  cases hx

end Selector

end TaggedRpc.Selection
