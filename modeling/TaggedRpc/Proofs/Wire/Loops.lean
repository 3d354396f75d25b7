import TaggedRpc.Proofs.Wire.Operations

/-!
# Loops that end

Seeking a field and skipping to the end of a struct are loops, and skipping a field
recurses into the containers that it finds. Their definitions count the turns and
the levels that are left, but neither count ever decides anything: both loops do
what a loop without a count does (`loop_seek`, `loop_skipToStructEnd`), and
skipping a payload skips the payloads inside it as it does any other
(`skipField_eq`).

The reason is that a turn after which a loop goes on has consumed a byte at least,
and that a container takes a level. So the bytes ahead bound the turns, and nothing
but the loop satisfies its equation (`Loop.ends`).
-/

namespace TaggedRpc.Wire.Read

variable {α β : Type} {r s : Reader} {n : Nat}

/-! ## Consuming -/

/-- A computation that succeeds has consumed a byte at least. -/
def Consumes (x : Read α) : Prop := ∀ ⦃r a s⦄, x r = .ok a s → r.pos < s.pos

/-- Two computations one after another succeed both if they succeed. -/
theorem exists_of_bind_eq_ok {x : Read α} {f : α → Read β} {b : β}
    (h : (x >>= f) r = .ok b s) : ∃ a t, x r = .ok a t ∧ f a t = .ok b s := by
  cases hx : x r with
  | ok a t =>
    rw [bind_of_ok hx] at h
    exact ⟨a, t, rfl, h⟩
  | error e t =>
    rw [bind_of_error hx] at h
    cases h

/-- A value that is made from another succeeds where that does. -/
theorem exists_of_map_eq_ok {x : Read α} {f : α → β} {b : β} (h : (f <$> x) r = .ok b s) :
    ∃ a, x r = .ok a s ∧ f a = b := by
  rw [map_eq_pure_bind] at h
  obtain ⟨a, t, hx, hpure⟩ := exists_of_bind_eq_ok h
  cases hpure
  exact ⟨a, hx, rfl⟩

theorem Consumes.bind {x : Read α} {f : α → Read β} (hx : Consumes x) (hf : ∀ a, Made (f a)) :
    Consumes (x >>= f) := by
  intro r b s h
  obtain ⟨a, t, hx', hf'⟩ := exists_of_bind_eq_ok h
  exact Nat.lt_of_lt_of_le (hx hx') ((hf a).ahead_of_ok hf').pos_le

theorem pos_skip (h : skip n r = .ok () s) : s.pos = r.pos + n := by
  obtain ⟨bs, t, htake, hpure⟩ := exists_of_bind_eq_ok h
  cases hpure
  rw [take_eq] at htake
  split at htake
  · cases htake
  · cases htake
    rfl

theorem consumes_head : Consumes head := by
  intro r h s heq
  obtain ⟨h', t, hpeek, hrest⟩ := exists_of_bind_eq_ok heq
  obtain ⟨rfl, hsize, -⟩ := peekHead_eq_ok hpeek
  obtain ⟨_, u, hskip, hpure⟩ := exists_of_bind_eq_ok hrest
  cases hpure
  have := pos_skip hskip
  omega

theorem consumes_skipAny : Consumes skipAny :=
  consumes_head.bind fun h => made_skipField h.type

/-! ## Loops -/

/-- Takes a turn, and goes on with `x` if it gave no outcome. -/
def turnThen (turn : Read (Option α)) (x : Read α) : Read α := do
  match ← turn with
  | some a => pure a
  | none => x

/-- A computation takes turns until one gives an outcome. -/
structure Loop (turn : Read (Option α)) (x : Read α) : Prop where
  /-- After a turn without an outcome the same begins again. -/
  turns : x = turnThen turn x
  /-- Such a turn has consumed a byte at least. -/
  consumes : ∀ ⦃r s⦄, turn r = .ok none s → r.pos < s.pos
  /-- So the turns end: nothing else does the same. -/
  ends : ∀ y, y = turnThen turn y → y = x

section

variable {turn : Read (Option α)} {x y : Read α}

/-- Only a turn without an outcome leads on. -/
theorem turnThen_congr (h : ∀ s, turn r = .ok none s → x s = y s) :
    turnThen turn x r = turnThen turn y r := by
  cases ht : turn r with
  | ok a s =>
    rw [turnThen, turnThen, bind_of_ok ht, bind_of_ok ht]
    cases a with
    | some a => rfl
    | none => exact h s ht
  | error e s => rw [turnThen, turnThen, bind_of_error ht, bind_of_error ht]

variable (hmade : Made turn) (hconsumes : ∀ ⦃r s⦄, turn r = .ok none s → r.pos < s.pos)

include hmade hconsumes

/-- After a turn without an outcome, fewer bytes are ahead. -/
theorem length_rest_lt (h : turn r = .ok none s) : s.rest.length < r.rest.length := by
  have := (hmade.ahead_of_ok h).pos_add_length
  have := hconsumes h
  omega

/-- What takes the same turns is the same, as each of them brings the end nearer. -/
theorem eq_of_turnThen (hx : x = turnThen turn x) (hy : y = turnThen turn y) : y = x := by
  funext r
  induction hn : r.rest.length using Nat.strongRecOn generalizing r with
  | ind n ih =>
    rw [hx, hy]
    exact turnThen_congr fun s hs => ih _ (hn ▸ length_rest_lt hmade hconsumes hs) s rfl

/-- As many turns as there are bytes ahead are enough, so that counting them that
    way is a loop. -/
theorem loop_of_bounded {x : Nat → Read α} (hsucc : ∀ n, x (n + 1) = turnThen turn (x n))
    (hzero : ∀ r, r.rest.length = 0 → x 0 r = turnThen turn (x 0) r) :
    Loop turn (do x (← get).rest.length) := by
  have hstep : ∀ n r, r.rest.length ≤ n → x n r = turnThen turn (x (n - 1)) r := by
    intro n r hn
    cases n with
    | zero => exact hzero r (Nat.le_zero.1 hn)
    | succ n => rw [hsucc, Nat.add_sub_cancel]
  -- More turns than bytes ahead do the same.
  have henough : ∀ n r, r.rest.length ≤ n → x n r = x r.rest.length r := by
    intro n
    induction n using Nat.strongRecOn with
    | ind n ih =>
      intro r hn
      rw [hstep n r hn, hstep _ r (Nat.le_refl _)]
      refine turnThen_congr fun s hs => ?_
      have hlt := length_rest_lt hmade hconsumes hs
      rw [ih (n - 1) (by omega) s (by omega)]
      by_cases heq : r.rest.length = n
      · rw [heq, ih (n - 1) (by omega) s (by omega)]
      · rw [ih (r.rest.length - 1) (by omega) s (by omega)]
  have hturns : (do x (← get).rest.length : Read α) = turnThen turn (do x (← get).rest.length) := by
    funext r
    rw [get_bind, hstep _ r (Nat.le_refl _)]
    refine turnThen_congr fun s hs => ?_
    have hlt := length_rest_lt hmade hconsumes hs
    exact henough _ s (by omega)
  exact ⟨hturns, hconsumes, fun y hy => eq_of_turnThen hmade hconsumes hturns hy⟩

end

/-! ### Skipping to the end of a struct -/

/-- One turn of skipping to the end of a struct. -/
def structTurn : Read (Option Unit) := do
  let h ← head
  if h.type = .structEnd then pure (some ())
  else do
    skipField h.type
    pure none

theorem made_structTurn : Made structTurn :=
  made_head.bind fun h => (made_pure _).ite ((made_skipField h.type).bind fun _ => made_pure _)

theorem consumes_structTurn : Consumes structTurn :=
  consumes_head.bind fun h => (made_pure _).ite ((made_skipField h.type).bind fun _ => made_pure _)

theorem untilStructEnd_succ (turns : Nat) :
    untilStructEnd skipField (turns + 1) = turnThen structTurn (untilStructEnd skipField turns) := by
  rw [turnThen, structTurn, bind_assoc, untilStructEnd]
  congr 1
  funext h
  split
  · rfl
  · rw [bind_assoc]
    rfl

/-- Skipping to the end of a struct is a loop without a bound. -/
theorem loop_skipToStructEnd : Loop structTurn skipToStructEnd := by
  refine loop_of_bounded made_structTurn (fun r s h => consumes_structTurn h) untilStructEnd_succ ?_
  -- At the end of the bytes both fail to find a head.
  intro r hr
  obtain ⟨rest, pos, depth⟩ := r
  obtain rfl : rest = [] := List.length_eq_zero_iff.1 hr
  rfl

/-! ### Seeking a field -/

/-- The field at a tag is absent. -/
def absent (tag : Tag) (required : Bool) : Read (Option WireType) :=
  if required then throw (.missingTag tag) else pure none

/-- One turn of seeking the field at a tag. -/
def seekTurn (tag : Tag) (required : Bool) : Read (Option (Option WireType)) := do
  if (← get).rest.isEmpty then some <$> absent tag required
  else do
    let h ← peekHead
    if h.type = .structEnd ∨ tag < h.tag then some <$> absent tag required
    else do
      skip h.size
      if h.tag = tag then pure (some (some h.type))
      else do
        skipField h.type
        pure none

theorem made_absent (tag : Tag) (required : Bool) : Made (absent tag required) :=
  (made_throw _).ite (made_pure none)

theorem made_seekTurn (tag : Tag) (required : Bool) : Made (seekTurn tag required) :=
  made_get.bind fun _ => ((made_absent tag required).map some).ite <| made_peekHead.bind fun h =>
    ((made_absent tag required).map some).ite <| (made_skip h.size).bind fun _ =>
      (made_pure _).ite <| (made_skipField h.type).bind fun _ => made_pure none

theorem absent_eq_ok {tag : Tag} {required : Bool} {o : Option (Option WireType)}
    (h : (some <$> absent tag required : Read _) r = .ok o s) : required = false ∧ o = some none := by
  obtain ⟨ty, habsent, rfl⟩ := exists_of_map_eq_ok h
  cases required
  · cases habsent
    exact ⟨rfl, rfl⟩
  · cases habsent

/-- A turn of seeking that finds a field, or passes over one, has passed over a head.
    Only where no field is required it may find that none is there. -/
theorem seekTurn_eq_ok {tag : Tag} {required : Bool} {o : Option (Option WireType)}
    (h : seekTurn tag required r = .ok o s) :
    r.pos < s.pos ∧ o ≠ some none ∨ required = false ∧ o = some none := by
  rw [seekTurn, get_bind] at h
  split at h
  · exact .inr (absent_eq_ok h)
  obtain ⟨head, t, hpeek, hhead⟩ := exists_of_bind_eq_ok h
  obtain ⟨rfl, hsize, -⟩ := peekHead_eq_ok hpeek
  split at hhead
  · exact .inr (absent_eq_ok hhead)
  obtain ⟨_, u, hskip, hfield⟩ := exists_of_bind_eq_ok hhead
  have hpos := pos_skip hskip
  refine .inl ?_
  split at hfield
  · cases hfield
    exact ⟨by omega, nofun⟩
  · obtain ⟨_, v, hpayload, hpure⟩ := exists_of_bind_eq_ok hfield
    cases hpure
    have hle := ((made_skipField head.type).ahead_of_ok hpayload).pos_le
    exact ⟨by omega, nofun⟩

/-- Seeking a field with some turns left. -/
def seekBounded (tag : Tag) (required : Bool) (turns : Nat) : Read (Option WireType) := do
  match ← seekWithin tag turns with
  | some type => pure (some type)
  | none => absent tag required

theorem seek_eq_seekBounded (tag : Tag) (required : Bool) :
    seek tag required = (do seekBounded tag required (← get).rest.length) := rfl

theorem seekBounded_succ (tag : Tag) (required : Bool) (turns : Nat) :
    seekBounded tag required (turns + 1) =
      turnThen (seekTurn tag required) (seekBounded tag required turns) := by
  have hstop : turnThen (some <$> absent tag required) (seekBounded tag required turns) =
      absent tag required := by
    rw [turnThen, bind_map_left, bind_pure]
  -- Both sides do the same up to the first branch, and then in each branch.
  rw [seekBounded, seekWithin, seekTurn, turnThen, bind_assoc, bind_assoc]
  congr 1
  funext r
  split
  · exact hstop.symm
  rw [bind_assoc, bind_assoc]
  congr 1
  funext head
  split
  · exact hstop.symm
  rw [bind_assoc, bind_assoc]
  congr 1
  funext _
  split
  · rfl
  · rw [bind_assoc, bind_assoc]
    rfl

/-- Seeking a field is a loop without a bound. -/
theorem loop_seek (tag : Tag) (required : Bool) :
    Loop (seekTurn tag required) (seek tag required) := by
  rw [seek_eq_seekBounded]
  have hconsumes : ∀ ⦃r s⦄, seekTurn tag required r = .ok none s → r.pos < s.pos :=
    fun r s h => (seekTurn_eq_ok h).elim And.left nofun
  refine loop_of_bounded (made_seekTurn tag required) hconsumes (seekBounded_succ tag required) ?_
  -- At the end of the bytes the field is absent.
  intro r hr
  obtain ⟨rest, pos, depth⟩ := r
  obtain rfl : rest = [] := List.length_eq_zero_iff.1 hr
  show absent tag required ⟨[], pos, depth⟩ = turnThen (some <$> absent tag required) _ _
  rw [turnThen, bind_map_left, bind_pure]

/-! ### Counted loops -/

/-- A field that is found is behind its head, and one that is required is found. -/
theorem seek_eq_ok {tag : Tag} {required : Bool} {o : Option WireType}
    (h : seek tag required r = .ok o s) : r.pos < s.pos ∨ required = false ∧ o = none := by
  rw [(loop_seek tag required).turns] at h
  obtain ⟨o', t, hturn, hrest⟩ := exists_of_bind_eq_ok h
  cases o' with
  | none =>
    have hle := ((made_seek tag required).ahead_of_ok hrest).pos_le
    exact .inl (Nat.lt_of_lt_of_le ((loop_seek tag required).consumes hturn) hle)
  | some o' =>
    cases hrest
    rcases seekTurn_eq_ok hturn with ⟨hlt, -⟩ | ⟨hreq, heq⟩
    · exact .inl hlt
    · exact .inr ⟨hreq, Option.some_inj.1 heq⟩

/-- A field that is required has been passed over at least by its head. -/
theorem consumes_field {payload : WireType → Read α} (h : ∀ ty, Made (payload ty)) (tag : Tag) :
    Consumes (field tag true payload) := by
  intro r a s heq
  obtain ⟨o, t, hseek, hrest⟩ := exists_of_bind_eq_ok heq
  have hmade : Made (match o with
      | some type => some <$> payload type
      | none => pure none) := by
    cases o with
    | some ty => exact (h ty).map some
    | none => exact made_pure none
  rcases seek_eq_ok hseek with hlt | ⟨hreq, -⟩
  · exact Nat.lt_of_lt_of_le hlt (hmade.ahead_of_ok hrest).pos_le
  · cases hreq

theorem consumes_int8 (tag : Tag) : Consumes (int8 tag true) :=
  consumes_field (fun ty => (made_intPayload ty tag _ _).map _) tag

/-! ## Skipping what is inside a container -/

/-- At a depth, two computations do the same. -/
def SameAt (depth : Nat) (x y : Read α) : Prop := ∀ ⦃r⦄, r.depth = depth → x r = y r

section

variable {depth : Nat} {x y : Read α} {inner inner' : WireType → Read Unit}

theorem SameAt.refl (x : Read α) : SameAt depth x x := fun _ _ => rfl

theorem SameAt.bind {f g : α → Read β} (hxy : SameAt depth x y) (hx : Made x)
    (hfg : ∀ a, SameAt depth (f a) (g a)) : SameAt depth (x >>= f) (y >>= g) := by
  intro r hr
  cases h : x r with
  | ok a s =>
    rw [bind_of_ok h, bind_of_ok (hxy hr ▸ h)]
    exact hfg a ((hx.ahead_of_ok h).depth_eq.trans hr)
  | error e s => rw [bind_of_error h, bind_of_error (hxy hr ▸ h)]

theorem SameAt.deeper (h : depth < maxNesting → SameAt (depth + 1) x y) :
    SameAt depth (deeper x) (deeper y) := by
  intro r hr
  by_cases hd : r.depth < maxNesting
  · unfold Read.deeper
    rw [if_pos hd, if_pos hd, h (hr ▸ hd) (congrArg (· + 1) hr)]
  · unfold Read.deeper
    rw [if_neg hd, if_neg hd]

theorem SameAt.times {x y : Read Unit} (h : SameAt depth x y) (hx : Made x) :
    ∀ n, SameAt depth (times x n) (times y n)
  | 0 => .refl _
  | n + 1 => h.bind hx fun _ => SameAt.times h hx n

theorem sameAt_untilStructEnd (h : ∀ ty, SameAt depth (inner ty) (inner' ty))
    (hmade : ∀ ty, Made (inner ty)) :
    ∀ turns, SameAt depth (untilStructEnd inner turns) (untilStructEnd inner' turns)
  | 0 => .refl _
  | turns + 1 => by
    refine (SameAt.refl head).bind made_head fun h' => ?_
    split
    · exact .refl _
    · exact (h _).bind (hmade _) fun _ => sameAt_untilStructEnd h hmade turns

/-- Skipping a payload depends only on how the payloads are skipped one container
    deeper, if that is not too deep. -/
theorem sameAt_skipPayload (hmade : ∀ ty, Made (inner ty))
    (h : depth < maxNesting → ∀ ty, SameAt (depth + 1) (inner ty) (inner' ty)) (ty : WireType) :
    SameAt depth (skipPayload inner ty) (skipPayload inner' ty) := by
  have hfield : Made (do inner (← head).type) := made_head.bind fun head => hmade head.type
  have hsame : depth < maxNesting →
      SameAt (depth + 1) (do inner (← head).type) (do inner' (← head).type) := fun hd =>
    (SameAt.refl head).bind made_head fun head => h hd head.type
  cases ty
  case map | list =>
    exact (SameAt.refl length).bind made_length fun n =>
      .deeper fun hd => (hsame hd).times hfield _
  case structBegin =>
    exact .deeper fun hd => (SameAt.refl get).bind made_get fun r =>
      sameAt_untilStructEnd (h hd) hmade _
  all_goals exact .refl _

end

/-- Skipping a payload skips those inside it in the same way: the levels that are
    left are the containers that may still be entered. -/
theorem skipField_eq (ty : WireType) : skipField ty = skipPayload skipField ty := by
  funext r
  show skipWithin (maxNesting - r.depth) ty r = _
  by_cases hd : r.depth < maxNesting
  · obtain ⟨levels, hlevels⟩ : ∃ levels, maxNesting - r.depth = levels + 1 :=
      ⟨maxNesting - r.depth - 1, by omega⟩
    rw [hlevels]
    refine sameAt_skipPayload (made_skipWithin levels) (fun _ ty s hs => ?_) ty rfl
    show skipWithin levels ty s = skipWithin (maxNesting - s.depth) ty s
    rw [show maxNesting - s.depth = levels by omega]
  · rw [show maxNesting - r.depth = 0 by omega]
    exact sameAt_skipPayload (fun _ => made_throw _) (fun h => absurd h hd) ty rfl

theorem skipField_list : skipField .list = (do deeper (times skipAny (← length))) :=
  skipField_eq .list

theorem skipField_map : skipField .map = (do deeper (times skipAny (2 * (← length)))) :=
  skipField_eq .map

theorem skipField_structBegin : skipField .structBegin = deeper skipToStructEnd :=
  skipField_eq .structBegin

end TaggedRpc.Wire.Read
