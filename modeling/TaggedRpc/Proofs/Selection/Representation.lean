import TaggedRpc.Proofs.Selection.Answering
import TaggedRpc.Proofs.Selection.MixedWeights

/-!
# What selectors from a list keep in step

A selector from a list holds its endpoints in three forms: the endpoints, the set of their keys, and
where weights count the positions of a weight list. It is changed in place, one form after another,
and a change may fail in the middle, when the key turns out to be there already, or not to be there
(`Members.enter`, `Members.withdraw`). What has been written by then stays written. The weight list
is not laid out by the change itself but after it, by the selector (`Listed.edit`).

All the same a change that fails has written nothing: to put a key in where it is, or to take one
out where it is not, does nothing to a set. So a change in place writes the new state that the
change of values gives, or fails with it and writes nothing (`Listed.run_add`, `Listed.run_remove`),
and operations in place leave what they leave otherwise (`Listed.toSelector_after`). After any of
them the three forms agree (`Listed.represented_after`): no endpoint is there twice, the keys are
those of the endpoints, so that whoever asks for a key finds out about an endpoint, and a weight
list that is not empty has every position of an endpoint, and no other, so that a selection always
finds one.
-/

namespace TaggedRpc.Selection

/-! ## Every endpoint is listed -/

namespace WeightList

variable {es : List Endpoint} {list : List Nat}

theorem build_of_forall_nonpos (hne : es ≠ []) (hstatic : ∀ e ∈ es, e.isStatic = true)
    (hnonpos : ∀ e ∈ es, e.weight.toInt ≤ 0) : build es = some (List.range es.length) := by
  have hany : (es.any fun e => !e.isStatic) = false := by
    simpa using hstatic
  obtain ⟨least, greatest, hbounds⟩ := exists_bounds hne
  obtain ⟨x, hx, rfl⟩ := hbounds.exists_eq_greatest
  have hgreatest := hbounds.greatest
  cases es with
  | nil => exact absurd rfl hne
  | cons e rest =>
    rw [List.map_cons, List.max?_cons', Option.some.injEq] at hgreatest
    simp [build, hany, hgreatest, hnonpos x hx]

/-- A weight list has the positions of all endpoints, whatever their weights are, and no others. -/
theorem mem_build_iff (h : build es = some list) (i : Nat) : i ∈ list ↔ i < es.length := by
  refine ⟨lt_length_of_mem_build h, fun hi => ?_⟩
  have hne : es ≠ [] := List.ne_nil_of_length_pos (Nat.zero_lt_of_lt hi)
  have hstatic : ∀ e ∈ es, e.isStatic = true := by
    by_contra hnot
    rw [build, if_pos (by simpa using hnot)] at h
    cases h
  by_cases hpos : ∃ e ∈ es, 0 < e.weight.toInt
  · by_cases hnonpos : ∃ e ∈ es, e.weight.toInt ≤ 0
    · obtain ⟨list', top, hbuild, -, hperm⟩ := build_of_nonpos hstatic hpos hnonpos
      obtain rfl := Option.some.inj (h.symm.trans hbuild)
      exact hperm.mem_iff.2 (List.mem_cons_of_mem _ (List.mem_range.2 hi))
    · -- Every share is listed at least once.
      push Not at hnonpos
      obtain ⟨least, greatest, hbounds⟩ := exists_bounds hne
      obtain ⟨list', hbuild, hproportional⟩ := hbounds.exists_build hstatic hnonpos
      obtain rfl := Option.some.inj (h.symm.trans hbuild)
      have hcount := hproportional.count i (by simpa [shares] using hi)
      exact List.count_pos_iff.1 (by omega)
  · push Not at hpos
    rw [build_of_forall_nonpos hne hstatic hpos] at h
    obtain rfl := Option.some.inj h
    exact List.mem_range.2 hi

end WeightList

/-! ## Changes in place -/

/-- An operation on a state, which it changes in place, and that may fail. What it has written by
    then stays written. -/
abbrev Edit := EStateM SelectError

namespace Edit

variable {σ α : Type}

/-- The state that an operation leaves, whether it fails or not. -/
def left : EStateM.Result SelectError σ α → σ
  | .ok _ s => s
  | .error _ s => s

/-- Writes a new state, or fails and writes nothing. -/
def commit (r : Except SelectError σ) : Edit σ Unit := fun s =>
  match r with
  | .ok s' => .ok () s'
  | .error err => .error err s

/-- Gives what an operation on values gives, and writes its new state. -/
def give (f : σ → Except SelectError α × σ) : Edit σ α := fun s =>
  match f s with
  | (.ok a, s') => .ok a s'
  | (.error err, s') => .error err s'

/-- Goes on although an operation may have failed. -/
def ignore (f : Edit σ Unit) : Edit σ Unit := tryCatch f fun _ => pure ()

@[simp] theorem run_commit_ok (s s' : σ) : (commit (.ok s')).run s = .ok () s' := rfl

@[simp] theorem run_commit_error (err : SelectError) (s : σ) :
    (commit (.error err)).run s = .error err s := rfl

/-- What a change leaves is the new state, or the old one. -/
theorem left_run_commit (r : Except SelectError σ) (s : σ) :
    left ((commit r).run s) = r.toOption.getD s := by
  cases r <;> rfl

theorem run_ignore (f : Edit σ Unit) (s : σ) : (ignore f).run s = .ok () (left (f.run s)) := by
  show EStateM.tryCatch f (fun _ => pure ()) s = .ok () (left (f s))
  rw [EStateM.tryCatch]
  cases f s <;> rfl

theorem run_give_ok {f : σ → Except SelectError α × σ} {s s' : σ} {a : α}
    (h : f s = (.ok a, s')) : (give f).run s = .ok a s' := by
  rw [EStateM.run, give, h]

theorem run_give_error {f : σ → Except SelectError α × σ} {s s' : σ} {err : SelectError}
    (h : f s = (.error err, s')) : (give f).run s = .error err s' := by
  rw [EStateM.run, give, h]

theorem left_run_give (f : σ → Except SelectError α × σ) (s : σ) :
    left ((give f).run s) = (f s).2 := by
  show left (match f s with | (.ok a, s') => .ok a s' | (.error err, s') => .error err s') = _
  rcases f s with ⟨_ | _, s'⟩ <;> rfl

end Edit

namespace Members

/-- Adds an endpoint in place: its key first. -/
def enter (selector : String) (e : Endpoint) : Edit Members Unit := do
  let m ← get
  set { m with keys := m.keys.insert e.key }
  if m.keys.contains e.key then
    throw (.alreadyExists selector e.key)
  modify fun m => { m with endpoints := m.endpoints ++ [e] }

/-- Removes an endpoint in place: its key first. -/
def withdraw (selector : String) (e : Endpoint) : Edit Members Unit := do
  let m ← get
  set { m with keys := m.keys.filter (· != e.key) }
  unless m.keys.contains e.key do
    throw (.notFound selector e.key)
  modify fun m => { m with endpoints := m.endpoints.filter fun x => !decide (x.Same e) }

/-- Replaces the endpoints in place. A failure means that an endpoint is repeated, and is
    ignored. -/
def reset (es : List Endpoint) : Edit Members Unit := do
  modify fun m => { m with endpoints := [], keys := [] }
  forM es fun e => Edit.ignore (enter "refresh" e)

/-- Changes the endpoints in place. -/
def edit (selector : String) : Change → Edit Members Unit
  | .add e => enter selector e
  | .remove e => withdraw selector e
  | .refresh es => reset es

/-- The members that a change gives. Whatever it is, the weight list stays as it was. -/
def change (m : Members) (selector : String) : Change → Except SelectError Members
  | .add e => m.add selector e
  | .remove e => m.remove selector e
  | .refresh es => .ok { ofList es with weightList := m.weightList }

theorem run_enter (m : Members) (selector : String) (e : Endpoint) :
    (enter selector e).run m = (Edit.commit (m.add selector e)).run m := by
  by_cases hkey : e.key ∈ m.keys <;> simp [enter, Members.add, hkey]

theorem run_withdraw (m : Members) (selector : String) (e : Endpoint) :
    (withdraw selector e).run m = (Edit.commit (m.remove selector e)).run m := by
  by_cases hkey : e.key ∈ m.keys
  · simp [withdraw, Members.remove, hkey]
  · have hkeys : m.keys.filter (· != e.key) = m.keys := by
      refine List.filter_eq_self.2 fun key hmem => ?_
      simpa using ne_of_mem_of_not_mem hmem hkey
    simp [withdraw, Members.remove, hkey, hkeys]

theorem run_forM_enter (es : List Endpoint) (m : Members) :
    (forM es fun e => Edit.ignore (enter "refresh" e)).run m =
      .ok () (es.foldl (fun m e => (m.add "refresh" e).toOption.getD m) m) := by
  induction es generalizing m with
  | nil => rfl
  | cons e es ih =>
    rw [List.forM_cons, EStateM.run_bind, Edit.run_ignore, run_enter, Edit.left_run_commit]
    exact ih _

theorem run_reset (m : Members) (es : List Endpoint) :
    (reset es).run m = .ok () { ofList es with weightList := m.weightList } := by
  have hkeep : ∀ (m' : Members) (e : Endpoint),
      (Members.add { m' with weightList := m.weightList } "refresh" e).toOption.getD
        { m' with weightList := m.weightList } =
        { (m'.add "refresh" e).toOption.getD m' with weightList := m.weightList } := by
    intro m' e
    rw [Members.add, Members.add]
    split <;> rfl
  have hfold : es.foldl (fun m e => (m.add "refresh" e).toOption.getD m)
      { m with endpoints := [], keys := [] } = { ofList es with weightList := m.weightList } :=
    @List.foldl_hom _ _ _ (fun m' : Members => { m' with weightList := m.weightList }) _ _ es {}
      hkeep
  rw [reset, EStateM.run_bind, EStateM.run_modify]
  dsimp only
  rw [run_forM_enter, hfold]

/-- A change in place writes new members, or fails and writes nothing. -/
theorem run_edit (m : Members) (selector : String) (c : Change) :
    (edit selector c).run m = (Edit.commit (m.change selector c)).run m := by
  cases c with
  | add e => exact run_enter ..
  | remove e => exact run_withdraw ..
  | refresh es => exact run_reset ..

theorem Lists.change {m : Members} {es : List Endpoint} (h : m.Lists es) (selector : String)
    (c : Change) : Outcome es (c.apply es) (m.change selector c) := by
  cases c with
  | add e => exact h.add selector e
  | remove e => exact h.remove selector e
  | refresh new =>
    have hnew := lists_ofList new
    exact .ok ⟨hnew.endpoints, hnew.listing⟩

/-! ## Members whose three forms agree -/

/-- The keys are those of the endpoints, and a weight list that is not empty has all positions. -/
structure Kept (m : Members) : Prop where
  listing : Listing m.keys m.endpoints
  weights : m.weightList = [] ∨ ∀ i, i ∈ m.weightList ↔ i < m.endpoints.length

theorem Lists.kept_reweigh {m : Members} {es : List Endpoint} (h : m.Lists es) (weighted : Bool) :
    Kept (m.reweigh weighted) where
  listing := h.endpoints ▸ h.listing
  weights := by
    rw [Members.reweigh]
    dsimp only
    split
    · cases hbuild : WeightList.build m.endpoints with
      | none => exact .inl rfl
      | some list => exact .inr (WeightList.mem_build_iff hbuild)
    · exact .inl rfl

theorem Kept.ready {m : Members} (h : m.Kept) (hne : m.endpoints ≠ []) : m.Ready := by
  refine ⟨hne, fun i hi => ?_⟩
  rcases h.weights with hnil | hmem
  · exact absurd hi (hnil ▸ List.not_mem_nil)
  · exact (hmem i).1 hi

end Members

/-! ## Selectors from a list -/

/-- A selector from a list. -/
inductive Listed where
  | roundRobin (s : RoundRobin)
  | random (s : Uniform)
  | modulo (s : ModHash)
  deriving DecidableEq, Repr

namespace Listed

/-- The kinds of selectors from a list. -/
inductive Kind where
  | roundRobin
  | random
  | modulo
  deriving DecidableEq, Repr

def Kind.toSelector : Kind → Selector.Kind
  | roundRobin => .roundRobin
  | random => .random
  | modulo => .modulo

/-- A selector without endpoints. -/
def Kind.new (weighted : Bool) : Kind → Listed
  | roundRobin => .roundRobin { weighted }
  | random => .random { weighted }
  | modulo => .modulo { weighted }

def kind : Listed → Kind
  | roundRobin _ => .roundRobin
  | random _ => .random
  | modulo _ => .modulo

def toSelector : Listed → Selector
  | roundRobin s => .roundRobin s
  | random s => .random s
  | modulo s => .modulo s

/-- The name in failures. -/
def name (s : Listed) : String := s.kind.toSelector.name

def members : Listed → Members
  | roundRobin s => s.members
  | random s => s.members
  | modulo s => s.members

/-- Writes the members, and nothing else. -/
def write (s : Listed) (m : Members) : Listed :=
  match s with
  | roundRobin s => roundRobin { s with members := m }
  | random s => random { s with members := m }
  | modulo s => modulo { s with members := m }

/-- Lays out the weight list anew. A rotation starts again, at random places. -/
def rebuild (s : Listed) (draw : Nat) : Listed :=
  match s with
  | roundRobin s => roundRobin (s.rebuild s.members draw)
  | random s => random { s with members := s.members.reweigh s.weighted }
  | modulo s => modulo { s with members := s.members.reweigh s.weighted }

/-- Edits the members. -/
def within (f : Edit Members Unit) : Edit Listed Unit := fun s =>
  match f.run s.members with
  | .ok () m => .ok () (s.write m)
  | .error err m => .error err (s.write m)

/-- Changes the members in place, and lays the rest out for them. If the change fails, the rest
    stays as it was. -/
def change (c : Change) (draw : Nat) : Edit Listed Unit := do
  within (Members.edit (← get).name c)
  modify fun s => s.rebuild draw

/-- Selects an endpoint. -/
def select (code : UInt32) (draw : Nat) : Edit Listed Endpoint :=
  Edit.give fun
    | roundRobin s => s.select.map id roundRobin
    | random s => (s.select draw, random s)
    | modulo s => (s.select code, modulo s)

/-- The state that an operation leaves. -/
def operate (s : Listed) : Selector.Operation → Listed
  | .change c draw => Edit.left ((change c draw).run s)
  | .select code draw => Edit.left ((select code draw).run s)

/-- A selector of a kind after operations, one after another, of a new one. -/
def after (kind : Kind) (weighted : Bool) (ops : List Selector.Operation) : Listed :=
  ops.foldl operate (kind.new weighted)

variable {s : Listed} {m : Members} {e : Endpoint} {draw : Nat}

@[simp] theorem members_write (s : Listed) (m : Members) : (s.write m).members = m := by
  cases s <;> rfl

@[simp] theorem write_members (s : Listed) : s.write s.members = s := by
  cases s <;> rfl

theorem exists_members_rebuild (s : Listed) (draw : Nat) :
    ∃ weighted, (s.rebuild draw).members = s.members.reweigh weighted := by
  cases s <;> exact ⟨_, rfl⟩

/-- What a change in place does to a selector is what it does to its members. -/
theorem run_change (s : Listed) (c : Change) (draw : Nat) : (change c draw).run s =
    (Edit.commit ((fun m => (s.write m).rebuild draw) <$> s.members.change s.name c)).run s := by
  have hwithin : (within (Members.edit s.name c)).run s =
      (Edit.commit (s.write <$> s.members.change s.name c)).run s := by
    show (match (Members.edit s.name c).run s.members with
      | .ok () m => EStateM.Result.ok () (s.write m)
      | .error err m => .error err (s.write m)) = _
    rw [Members.run_edit]
    rcases s.members.change s.name c with err | m
    · exact congrArg _ s.write_members
    · rfl
  rw [change, EStateM.run_bind, EStateM.run_get]
  dsimp only
  rw [EStateM.run_bind, hwithin]
  rcases s.members.change s.name c with err | m <;> rfl

/-! ### The same selectors -/

theorem toSelector_getD (r : Except SelectError Listed) (s : Listed) :
    (r.toOption.getD s).toSelector = (toSelector <$> r).toOption.getD s.toSelector := by
  cases r <;> rfl

theorem toSelector_rebuild (s : Listed) (r : Except SelectError Members) (draw : Nat) :
    toSelector <$> (fun m => (s.write m).rebuild draw) <$> r =
      match s with
      | roundRobin s => .roundRobin <$> (do pure (s.rebuild (← r) draw))
      | random s => .random <$> (do pure { s with members := (← r).reweigh s.weighted })
      | modulo s => .modulo <$> (do pure { s with members := (← r).reweigh s.weighted }) := by
  cases s <;> cases r <;> rfl

/-- An operation in place leaves the state that it leaves otherwise. -/
theorem toSelector_operate (s : Listed) (op : Selector.Operation) :
    (s.operate op).toSelector = s.toSelector.operate op := by
  cases op with
  | change c draw =>
    rw [operate, run_change, Edit.left_run_commit, toSelector_getD, toSelector_rebuild]
    cases c <;> cases s <;> rfl
  | select code draw =>
    rw [operate, select, Edit.left_run_give]
    cases s <;> rfl

theorem toSelector_after (kind : Kind) (weighted : Bool) (ops : List Selector.Operation) :
    (after kind weighted ops).toSelector = Selector.after kind.toSelector weighted ops := by
  have hnew : (kind.new weighted).toSelector = kind.toSelector.new weighted := by
    cases kind <;> rfl
  rw [Selector.after, after, ← hnew]
  exact (List.foldl_hom toSelector fun s op => (s.toSelector_operate op).symm).symm

/-! ### The three forms -/

theorem kept_rebuild {es : List Endpoint} (h : m.Lists es) (s : Listed) (draw : Nat) :
    ((s.write m).rebuild draw).members.Kept := by
  obtain ⟨weighted, hmembers⟩ := (s.write m).exists_members_rebuild draw
  rw [hmembers, members_write]
  exact h.kept_reweigh weighted

/-- A change that fails leaves the members as they were. -/
theorem kept_change (h : s.members.Kept) {es' : List Endpoint} {r : Except SelectError Members}
    (hr : Members.Outcome s.members.endpoints es' r) (draw : Nat) :
    (Edit.left ((Edit.commit ((fun m => (s.write m).rebuild draw) <$> r)).run s)).members.Kept := by
  cases hr with
  | ok hlists => exact kept_rebuild hlists s draw
  | error => exact h

/-- A selection leaves the members as they are. -/
theorem members_select (s : Listed) (code : UInt32) (draw : Nat) :
    (Edit.left ((select code draw).run s)).members = s.members := by
  rw [select, Edit.left_run_give]
  cases s with
  | roundRobin s =>
    show s.select.2.members = s.members
    rw [RoundRobin.select]
    split
    · rfl
    · split <;> rfl
  | random | modulo => rfl

theorem kept_operate (h : s.members.Kept) (op : Selector.Operation) :
    (s.operate op).members.Kept := by
  have hlists : s.members.Lists s.members.endpoints := ⟨rfl, h.listing⟩
  cases op with
  | change c draw =>
    rw [operate, run_change]
    exact kept_change h (hlists.change s.name c) draw
  | select code draw =>
    rw [operate, members_select]
    exact h

theorem kept_after (kind : Kind) (weighted : Bool) (ops : List Selector.Operation) :
    (after kind weighted ops).members.Kept := by
  refine List.foldlRecOn ops operate (motive := fun s : Listed => s.members.Kept) ?_
    fun s h op _ => kept_operate h op
  cases kind <;> exact ⟨.nil, .inl rfl⟩

/-- A selector with endpoints selects one of them. -/
theorem exists_select (h : s.members.Kept) (hne : s.members.endpoints ≠ []) (code : UInt32)
    (draw : Nat) :
    ∃ e ∈ s.members.endpoints, ∃ s', (select code draw).run s = .ok e s' := by
  have hready : s.toSelector.Ready := by
    cases s <;> exact h.ready hne
  have hamong : s.toSelector.Among s.members.endpoints := by
    cases s <;> exact fun _ => id
  obtain ⟨e, he⟩ : ∃ e, (s.toSelector.select code draw).1 = .ok e := hready.exists_select
  refine ⟨e, hamong.mem_of_select he, _, Edit.run_give_ok (Prod.ext ?_ rfl)⟩
  rw [← he]
  cases s <;> rfl

theorem run_select_of_endpoints_eq_nil (hnil : s.members.endpoints = []) (code : UInt32)
    (draw : Nat) : (select code draw).run s = .error (.empty s.name) s := by
  refine Edit.run_give_error ?_
  cases s with
  | roundRobin s =>
    change s.members.endpoints = [] at hnil
    show s.select.map id roundRobin = _
    rw [RoundRobin.select, if_pos (List.isEmpty_iff.2 hnil)]
    rfl
  | random | modulo => exact Prod.ext (Members.pick_of_endpoints_eq_nil hnil ..) rfl

theorem run_add_of_mem (h : s.members.Kept) (hmem : ∃ x ∈ s.members.endpoints, x.Same e)
    (draw : Nat) : (change (.add e) draw).run s = .error (.alreadyExists s.name e.key) s := by
  rw [run_change, Members.change, Members.add,
    if_pos (List.contains_iff_mem.2 (h.listing.key_mem_iff.2 hmem))]
  rfl

theorem run_add_of_not_mem (h : s.members.Kept)
    (hnew : ¬∃ x ∈ s.members.endpoints, x.Same e) (draw : Nat) :
    ∃ s', (change (.add e) draw).run s = .ok () s' ∧
      s'.members.endpoints = s.members.endpoints ++ [e] := by
  rw [run_change, Members.change, Members.add,
    if_neg (mt List.contains_iff_mem.1 (mt h.listing.key_mem_iff.1 hnew))]
  exact ⟨_, rfl, by cases s <;> rfl⟩

theorem run_remove_of_not_mem (h : s.members.Kept)
    (hnew : ¬∃ x ∈ s.members.endpoints, x.Same e) (draw : Nat) :
    (change (.remove e) draw).run s = .error (.notFound s.name e.key) s := by
  rw [run_change, Members.change, Members.remove,
    if_neg (mt List.contains_iff_mem.1 (mt h.listing.key_mem_iff.1 hnew))]
  rfl

theorem run_remove_of_mem (h : s.members.Kept) (hmem : ∃ x ∈ s.members.endpoints, x.Same e)
    (draw : Nat) : ∃ s', (change (.remove e) draw).run s = .ok () s' ∧
      s'.members.endpoints = s.members.endpoints.filter fun x => !decide (x.Same e) := by
  rw [run_change, Members.change, Members.remove,
    if_pos (List.contains_iff_mem.2 (h.listing.key_mem_iff.2 hmem))]
  exact ⟨_, rfl, by cases s <;> rfl⟩

/-- After any operations in place no two endpoints are the same, the keys are those of the
    endpoints, each once, and a weight list that is not empty has all positions of endpoints and no
    others. A selection finds one of the endpoints if there are any. An endpoint can be added if and
    only if it is not there, and removed if and only if it is, and what fails changes nothing. -/
theorem represented_after (kind : Kind) (weighted : Bool) (ops : List Selector.Operation) :
    let s := after kind weighted ops
    let m := s.members
    s.toSelector = Selector.after kind.toSelector weighted ops ∧
    m.endpoints.Pairwise (fun a b => ¬a.Same b) ∧
    m.keys.Nodup ∧ (∀ key, key ∈ m.keys ↔ ∃ e ∈ m.endpoints, e.key = key) ∧
    (m.weightList = [] ∨ ∀ i, i ∈ m.weightList ↔ i < m.endpoints.length) ∧
    (∀ code draw, if m.endpoints = [] then (select code draw).run s = .error (.empty s.name) s
      else ∃ e ∈ m.endpoints, ∃ s', (select code draw).run s = .ok e s') ∧
    (∀ e draw, if ∃ x ∈ m.endpoints, x.Same e
      then (change (.add e) draw).run s = .error (.alreadyExists s.name e.key) s
      else ∃ s', (change (.add e) draw).run s = .ok () s' ∧
        s'.members.endpoints = m.endpoints ++ [e]) ∧
    ∀ e draw, if ∃ x ∈ m.endpoints, x.Same e
      then ∃ s', (change (.remove e) draw).run s = .ok () s' ∧
        s'.members.endpoints = m.endpoints.filter fun x => !decide (x.Same e)
      else (change (.remove e) draw).run s = .error (.notFound s.name e.key) s := by
  intro s m
  have hkept : m.Kept := kept_after kind weighted ops
  have hkeys := hkept.listing.keys
  refine ⟨toSelector_after kind weighted ops, hkept.listing.distinct, ?_, fun key => ?_,
    hkept.weights, fun code draw => ?_, fun e draw => ?_, fun e draw => ?_⟩
  · rw [hkeys.nodup_iff, List.Nodup, List.pairwise_map]
    exact hkept.listing.distinct.imp fun hother heq => hother (Endpoint.key_eq_iff.1 heq)
  · rw [hkeys.mem_iff, List.mem_map]
  · split
    · exact run_select_of_endpoints_eq_nil ‹_› code draw
    · exact exists_select hkept ‹_› code draw
  · split
    · exact run_add_of_mem hkept ‹_› draw
    · exact run_add_of_not_mem hkept ‹_› draw
  · split
    · exact run_remove_of_mem hkept ‹_› draw
    · exact run_remove_of_not_mem hkept ‹_› draw

end Listed

end TaggedRpc.Selection
