import TaggedRpc.Wire.Tree
import TaggedRpc.Proofs.Wire.Loops

/-!
# Trees and skipping

Reading a field into a tree and skipping it are two walks of the same bytes, each with
its own count of the containers around. Where neither refuses, they take the same steps
(`Mirrors`): they pass over the same fields, and fail for the same reason.

They refuse differently. Skipping refuses a container inside `maxNesting` others,
reading refuses any value there, scalars too, and looks at no count before it does. So
reading is one level short: it may refuse what skipping passes over, but only where
skipping, inside one more container, is refused as well (`ofBytes_passage`).

The fields that a reader passes over, one by one, make a *passage*.
-/

namespace TaggedRpc.Wire

namespace Read

variable {α β : Type} {d e : Nat} {x y : Read α} {inner inner' : WireType → Read Unit}

/-! ## The same at two depths -/

/-- Two computations have come to the same, each at its own depth, or the second one has
    refused what nests too deep. -/
inductive Agree (d e : Nat) :
    EStateM.Result DecodeError Reader α → EStateM.Result DecodeError Reader α → Prop
  /-- The same answer, and the same bytes ahead and behind. -/
  | ok (a : α) (rest : Bytes) (pos : Nat) :
    Agree d e (.ok a ⟨rest, pos, d⟩) (.ok a ⟨rest, pos, e⟩)
  /-- The same failure. -/
  | error (c : DecodeError) (s t : Reader) : Agree d e (.error c s) (.error c t)
  /-- Whatever the first one has come to. -/
  | tooDeep (u : EStateM.Result DecodeError Reader α) (t : Reader) :
    Agree d e u (.error (.tooDeep maxNesting) t)

/-- From the same bytes ahead, `y` at depth `e` comes to the same as `x` at depth `d`,
    unless it refuses. -/
def Mirrors (d e : Nat) (x y : Read α) : Prop :=
  ∀ rest pos, Agree d e (x ⟨rest, pos, d⟩) (y ⟨rest, pos, e⟩)

theorem mirrors_pure (a : α) : Mirrors d e (pure a) (pure a) := fun rest pos => .ok a rest pos

theorem mirrors_throw (c : DecodeError) : Mirrors d e (throw c : Read α) (throw c) :=
  fun _ _ => .error c _ _

theorem mirrors_refuse (x : Read α) : Mirrors d e x (throw (.tooDeep maxNesting)) :=
  fun _ _ => .tooDeep _ _

theorem Mirrors.bind {f g : α → Read β} (hxy : Mirrors d e x y)
    (hfg : ∀ a, Mirrors d e (f a) (g a)) : Mirrors d e (x >>= f) (y >>= g) := by
  intro rest pos
  show Agree d e (EStateM.bind x f _) (EStateM.bind y g _)
  unfold EStateM.bind
  have h := hxy rest pos
  generalize x ⟨rest, pos, d⟩ = u at h ⊢
  generalize y ⟨rest, pos, e⟩ = v at h ⊢
  cases h with
  | ok a rest pos => exact hfg a rest pos
  | error c s t => exact .error c s t
  | tooDeep u t => exact .tooDeep _ t

theorem Mirrors.map (hxy : Mirrors d e x y) (f : α → β) : Mirrors d e (f <$> x) (f <$> y) := by
  rw [map_eq_pure_bind, map_eq_pure_bind]
  exact hxy.bind fun a => mirrors_pure (f a)

theorem Mirrors.ite {x' y' : Read α} {c : Prop} [Decidable c] (hxy : Mirrors d e x y)
    (hxy' : Mirrors d e x' y') : Mirrors d e (if c then x else x') (if c then y else y') := by
  split
  · exact hxy
  · exact hxy'

/-- A check in front of what follows. -/
theorem Mirrors.check {c : Prop} [Decidable c] {err : DecodeError} {f g : Unit → Read α}
    (hfg : ∀ u, Mirrors d e (f u) (g u)) :
    Mirrors d e (if c then throw err >>= f else f ()) (if c then throw err >>= g else g ()) :=
  ((mirrors_throw err).bind hfg).ite (hfg ())

/-- A look at the bytes ahead. -/
theorem mirrors_get_bind {f g : Reader → Read α}
    (h : ∀ rest pos, Mirrors d e (f ⟨rest, pos, d⟩) (g ⟨rest, pos, e⟩)) :
    Mirrors d e (get >>= f) (get >>= g) :=
  fun rest pos => h rest pos rest pos

theorem Mirrors.times {x y : Read Unit} (h : Mirrors d e x y) :
    ∀ n, Mirrors d e (times x n) (times y n)
  | 0 => mirrors_pure ()
  | n + 1 => h.bind fun _ => h.times n

/-- One container more, for the first. -/
theorem Mirrors.deeper_left (hd : d < maxNesting) (h : Mirrors (d + 1) e x y) :
    Mirrors d e (deeper x) y := by
  intro rest pos
  unfold deeper
  rw [if_pos hd]
  have h := h rest pos
  simp only
  generalize x ⟨rest, pos, d + 1⟩ = u at h ⊢
  generalize y ⟨rest, pos, e⟩ = v at h ⊢
  cases h with
  | ok a rest pos => exact .ok a rest pos
  | error c s t => exact .error c _ t
  | tooDeep u t => exact .tooDeep _ t

/-- One container more, for the second, which may refuse it. -/
theorem Mirrors.deeper_right (h : e < maxNesting → Mirrors d (e + 1) x y) :
    Mirrors d e x (deeper y) := by
  intro rest pos
  unfold deeper
  by_cases he : e < maxNesting
  · rw [if_pos he]
    have h := h he rest pos
    simp only
    generalize x ⟨rest, pos, d⟩ = u at h ⊢
    generalize y ⟨rest, pos, e + 1⟩ = v at h ⊢
    cases h with
    | ok a rest pos => exact .ok a rest pos
    | error c s t => exact .error c s _
    | tooDeep u t => exact .tooDeep u _
  · rw [if_neg he]
    exact .tooDeep _ _

/-! ### Where the depth does not matter -/

theorem mirrors_take (n : Nat) : Mirrors d e (take n) (take n) := by
  intro rest pos
  simp only [take]
  split
  · exact .error _ _ _
  · exact .ok _ _ _

theorem mirrors_skip (n : Nat) : Mirrors d e (skip n) (skip n) :=
  (mirrors_take n).bind fun _ => mirrors_pure ()

theorem mirrors_rawNat (width : Nat) : Mirrors d e (rawNat width) (rawNat width) :=
  (mirrors_take width).map _

theorem mirrors_rawInt (width : Nat) : Mirrors d e (rawInt width) (rawInt width) :=
  (mirrors_take width).map _

theorem mirrors_peekHead : Mirrors d e peekHead peekHead := by
  intro rest pos
  cases rest with
  | nil => exact .error _ _ _
  | cons first more =>
    simp only [peekHead]
    cases WireType.ofCode? (first.toNat % 16) with
    | none => exact .error _ _ _
    | some type =>
      by_cases hshort : first.toNat / 16 < tagSentinel
      · simp only [if_pos hshort]
        exact .ok _ _ _
      · simp only [if_neg hshort]
        cases more with
        | nil => exact .error _ _ _
        | cons tag more => exact .ok _ _ _

theorem mirrors_head : Mirrors d e head head :=
  mirrors_peekHead.bind fun h => (mirrors_skip h.size).bind fun _ => mirrors_pure h

theorem mirrors_intPayload (type : WireType) (tag : Tag) (widest : WireType) (expected : String) :
    Mirrors d e (intPayload type tag widest expected) (intPayload type tag widest expected) :=
  (mirrors_pure 0).ite <| (mirrors_rawInt 1).ite <| (mirrors_rawInt 2).ite <|
    (mirrors_rawInt 4).ite <| (mirrors_rawInt 8).ite <| mirrors_throw _

theorem mirrors_length : Mirrors d e length length :=
  mirrors_get_bind fun _ _ => .check fun _ => mirrors_peekHead.bind fun h => .check fun _ =>
    (mirrors_skip h.size).bind fun _ => (mirrors_intPayload _ _ _ _).bind fun _ =>
      mirrors_get_bind fun _ _ => .check fun _ => mirrors_pure _

theorem mirrors_simpleListPayload (tag : Tag) :
    Mirrors d e (simpleListPayload tag) (simpleListPayload tag) :=
  mirrors_head.bind fun _ => .check fun _ => mirrors_length.bind mirrors_take

/-! ### Fields inside a container -/

theorem mirrors_inner (h : ∀ ty, Mirrors d e (inner ty) (inner' ty)) :
    Mirrors d e (do inner (← head).type) (do inner' (← head).type) :=
  mirrors_head.bind fun head => h head.type

theorem mirrors_untilStructEnd (h : ∀ ty, Mirrors d e (inner ty) (inner' ty)) :
    ∀ turns, Mirrors d e (untilStructEnd inner turns) (untilStructEnd inner' turns)
  | 0 => mirrors_head.bind fun _ => mirrors_pure ()
  | turns + 1 => mirrors_head.bind fun head =>
    (mirrors_pure ()).ite ((h head.type).bind fun _ => mirrors_untilStructEnd h turns)

/-! ## Reading without the answer -/

/-- A computation whose answer is not wanted. -/
def forget (x : Read α) : Read Unit := do
  let _ ← x

theorem forget_map (f : β → α) (x : Read β) : forget (f <$> x) = forget x := by
  rw [forget, map_eq_pure_bind, bind_assoc]
  rfl

theorem forget_bind (x : Read β) (f : β → Read α) :
    forget (x >>= f) = (do forget (f (← x))) :=
  bind_assoc x f _

theorem forget_replicate (x : Read α) : ∀ n, forget (replicate x n) = times (forget x) n
  | 0 => rfl
  | n + 1 => by
    rw [replicate, forget_bind, times, ← forget_replicate x n, forget, bind_assoc]
    congr 1
    funext a
    rw [forget_bind]
    rfl

theorem forget_pair (x y : Read α) :
    forget (do
      let a ← x
      let b ← y
      pure (a, b)) = (do forget x; forget y) := by
  rw [forget_bind, forget, bind_assoc]
  congr 1
  funext a
  rw [forget_bind]
  rfl

/-- A step that is two of another. -/
theorem times_twice (x : Read Unit) : ∀ n, times (do x; x) n = times x (2 * n)
  | 0 => rfl
  | n + 1 => by
    rw [Nat.mul_succ, times, times_twice x n, bind_assoc]
    rfl

end Read

/-! ## Values -/

namespace Tree

open Read

/-- Passes over the payload of a field whose head is behind, the payloads inside containers
    with `inner`, after entering the container with `enter`. -/
def walk (enter : Read Unit → Read Unit) (inner : WireType → Read Unit) : WireType → Read Unit
  | .map => do
    let n ← length
    enter (times (do inner (← head).type) (2 * n))
  | .list => do
    let n ← length
    enter (times (do inner (← head).type) n)
  | .structBegin => enter do untilStructEnd inner (← get).rest.length
  | scalar => skipPayload inner scalar

/-- Skipping counts the containers that it enters. -/
theorem walk_deeper (inner : WireType → Read Unit) : walk deeper inner = skipPayload inner := by
  funext ty
  cases ty <;> rfl

theorem forget_structFields (payload : WireType → Read Tree) :
    ∀ turns, forget (structFields payload turns) =
      untilStructEnd (fun ty => forget (payload ty)) turns
  | 0 => by rw [structFields, forget_bind]; rfl
  | turns + 1 => by
    rw [structFields, forget_bind, untilStructEnd]
    congr 1
    funext h
    split
    · rfl
    · rw [forget_bind, forget, bind_assoc]
      congr 1
      funext v
      rw [forget_bind, ← forget_structFields payload turns]
      rfl

/-- Reading a payload into a tree takes the steps of passing over it. -/
theorem forget_payloadWithin_succ (levels : Nat) (ty : WireType) :
    forget (payloadWithin (levels + 1) ty) =
      walk id (fun ty => forget (payloadWithin levels ty)) ty := by
  have hfield : forget (do payloadWithin levels (← head).type) =
      (do forget (payloadWithin levels (← head).type)) :=
    forget_bind _ _
  cases ty
  case list =>
    rw [payloadWithin, forget_bind, walk]
    congr 1
    funext n
    rw [forget_bind, ← hfield, ← forget_replicate]
    rfl
  case map =>
    have hpair : forget (do
        let key ← (do payloadWithin levels (← head).type : Read Tree)
        let value ← (do payloadWithin levels (← head).type : Read Tree)
        pure (key, value)) = _ := forget_pair _ _
    rw [hfield] at hpair
    show forget (do
        let n ← length
        let ps ← replicate (do
          let key ← payloadWithin levels (← head).type
          let value ← payloadWithin levels (← head).type
          pure (key, value)) n
        pure (Tree.map ps)) = _
    rw [forget_bind, walk]
    congr 1
    funext n
    rw [forget_bind, ← times_twice, ← hpair, ← forget_replicate]
    simp only [bind_assoc]
    rfl
  case structBegin =>
    rw [payloadWithin, forget_bind, walk]
    congr 1
    funext r
    rw [forget_bind, ← forget_structFields]
    rfl
  case string1 | string4 =>
    rw [payloadWithin, forget_bind, stringPayload, bind_assoc]
    rfl
  all_goals rw [payloadWithin]
  case byte | short | int | long =>
    rw [forget_map, intPayload]
    exact forget_map Bytes.toInt (take _)
  case float | double =>
    rw [forget_map]
    exact forget_map Bytes.toNat (take _)
  case simpleList =>
    rw [forget_map]
    rfl
  case zero | structEnd =>
    rfl

/-- Two walks mirror each other where entering a container does, and what they do inside. -/
theorem mirrors_walk {d e d' e' : Nat} {room : Prop} {enter enter' : Read Unit → Read Unit}
    {inner inner' : WireType → Read Unit}
    (henter : ∀ {x y : Read Unit}, (room → Mirrors d' e' x y) → Mirrors d e (enter x) (enter' y))
    (h : room → ∀ ty, Mirrors d' e' (inner ty) (inner' ty)) (ty : WireType) :
    Mirrors d e (walk enter inner ty) (walk enter' inner' ty) := by
  cases ty
  case map | list =>
    exact mirrors_length.bind fun n => henter fun hroom => (mirrors_inner (h hroom)).times _
  case structBegin =>
    exact henter fun hroom => mirrors_get_bind fun _ _ => mirrors_untilStructEnd (h hroom) _
  case simpleList => exact (mirrors_simpleListPayload 0).bind fun _ => mirrors_pure ()
  case string1 | string4 => exact (mirrors_rawNat _).bind mirrors_skip
  case structEnd | zero => exact mirrors_pure ()
  all_goals exact mirrors_skip _

/-- Reading with some levels left comes to the same as skipping at the depth that leaves as
    many, unless it refuses. -/
theorem mirrors_payloadWithin : ∀ {levels depth : Nat}, levels + depth = maxNesting → ∀ ty,
    Mirrors depth 0 (skipField ty) (forget (payloadWithin levels ty))
  | 0, _, _, ty => mirrors_refuse (skipField ty)
  | levels + 1, depth, h, ty => by
    rw [skipField_eq, ← walk_deeper, forget_payloadWithin_succ]
    have hd : depth < maxNesting := by omega
    exact mirrors_walk (fun hinner => .deeper_left hd (hinner hd))
      (fun _ => mirrors_payloadWithin (by omega)) ty

/-- Skipping at the depth that leaves one level less comes to the same as reading, unless it
    refuses. -/
theorem mirrors_skipField : ∀ {levels depth : Nat}, levels + depth = maxNesting → ∀ ty,
    Mirrors 0 depth (forget (payloadWithin (levels + 1) ty)) (skipField ty)
  | 0, depth, h, ty => by
    rw [skipField_eq, ← walk_deeper, forget_payloadWithin_succ]
    have hd : ¬depth < maxNesting := by omega
    exact mirrors_walk .deeper_right (fun hroom => absurd hroom hd) ty
  | levels + 1, depth, h, ty => by
    rw [skipField_eq, ← walk_deeper, forget_payloadWithin_succ]
    exact mirrors_walk .deeper_right (fun _ => mirrors_skipField (by omega)) ty

end Tree

/-! ## Fields one by one -/

open Read

/-- No field is ahead: the bytes end, or a struct does. -/
def Reader.stops (r : Reader) : Bool :=
  r.rest.isEmpty ||
    match peekHead r with
    | .ok h _ => h.type == .structEnd
    | .error _ _ => false

/-- What has been passed over, field by field. -/
structure Passage where
  /-- The positions behind the fields. -/
  ends : List Nat
  /-- Why the next field could not be passed over, if that was the end. -/
  failure : Option DecodeError
  deriving DecidableEq, Repr

namespace Passage

/-- The passage that goes past a field first. -/
def past (pos : Nat) (p : Passage) : Passage := { p with ends := pos :: p.ends }

/-- How many fields have been passed over, if none failed. -/
def count (p : Passage) : Except DecodeError Nat :=
  match p.failure with
  | none => .ok p.ends.length
  | some e => .error e

theorem count_past (pos : Nat) (p : Passage) : (p.past pos).count = p.count.map (· + 1) := by
  obtain ⟨ends, _ | e⟩ := p <;> rfl

/-- Passes over fields with `field`, up to a number of them. -/
def within (field : Read Unit) : (turns : Nat) → Reader → Passage
  | 0, _ => ⟨[], none⟩
  | turns + 1, r =>
    if r.stops then ⟨[], none⟩
    else
      match field r with
      | .ok _ s => (within field turns s).past s.pos
      | .error e _ => ⟨[], some e⟩

end Passage

/-- Passes over fields until none is ahead or one fails. Every field takes a byte at least. -/
def Reader.passage (r : Reader) (field : Read Unit) : Passage :=
  Passage.within field r.rest.length r

namespace Passage

variable {d e : Nat} {field x y : Read Unit} {r : Reader}

theorem within_of_length_eq_zero (h : r.rest.length = 0) :
    ∀ turns, within field turns r = ⟨[], none⟩
  | 0 => rfl
  | turns + 1 => by
    have hstops : r.stops = true := by rw [Reader.stops, List.length_eq_zero_iff.1 h]; rfl
    rw [within, if_pos hstops]

section

variable (hmade : Made field) (hconsumes : Consumes field)

include hmade hconsumes

/-- With as many turns as there are bytes ahead, their number does not matter. -/
theorem within_eq_within : ∀ {m n : Nat} {r : Reader}, r.rest.length ≤ m → r.rest.length ≤ n →
    within field m r = within field n r
  | 0, n, r, hm, _ => by
    rw [within_of_length_eq_zero (Nat.le_zero.1 hm), within_of_length_eq_zero (Nat.le_zero.1 hm)]
  | m + 1, 0, r, _, hn => by
    rw [within_of_length_eq_zero (Nat.le_zero.1 hn), within_of_length_eq_zero (Nat.le_zero.1 hn)]
  | m + 1, n + 1, r, hm, hn => by
    rw [within, within]
    cases h : field r with
    | error e s => rfl
    | ok u s =>
      have := (hmade.ahead_of_ok h).pos_add_length
      have := hconsumes h
      dsimp only
      rw [within_eq_within (show s.rest.length ≤ m by omega) (show s.rest.length ≤ n by omega)]

/-- A passage goes past the field ahead, and on from there: how many turns were allowed does
    not show. -/
theorem passage_eq (r : Reader) :
    r.passage field =
      if r.stops then ⟨[], none⟩
      else
        match field r with
        | .ok _ s => (s.passage field).past s.pos
        | .error e _ => ⟨[], some e⟩ := by
  rw [Reader.passage, within_eq_within hmade hconsumes (Nat.le_refl _) (Nat.le_succ _), within]
  cases h : field r with
  | error e s => rfl
  | ok u s =>
    have := (hmade.ahead_of_ok h).pos_add_length
    have := hconsumes h
    dsimp only
    rw [within_eq_within hmade hconsumes (show s.rest.length ≤ r.rest.length by omega)
      (Nat.le_refl _), Reader.passage]

end

/-! ### Passages at two depths -/

/-- A passage is another one, or ends before it does as something nests too deep. -/
def UpTo (q p : Passage) : Prop :=
  q = p ∨ q.failure = some (.tooDeep maxNesting) ∧ q.ends <+: p.ends

theorem UpTo.past {p q : Passage} (h : q.UpTo p) (pos : Nat) : (q.past pos).UpTo (p.past pos) := by
  rcases h with rfl | ⟨hdeep, hends⟩
  · exact .inl rfl
  · exact .inr ⟨hdeep, (List.prefix_cons_inj pos).2 hends⟩

theorem stops_eq (rest : Bytes) (pos d e : Nat) :
    (⟨rest, pos, d⟩ : Reader).stops = (⟨rest, pos, e⟩ : Reader).stops := by
  cases rest with
  | nil => rfl
  | cons first more =>
    simp only [Reader.stops, peekHead]
    cases WireType.ofCode? (first.toNat % 16) with
    | none => rfl
    | some type =>
      by_cases hshort : first.toNat / 16 < tagSentinel
      · simp only [if_pos hshort]
      · simp only [if_neg hshort]
        cases more <;> rfl

/-- What mirrors the passing of a field makes the same passage, unless it refuses. -/
theorem upTo_within (h : Mirrors d e x y) : ∀ turns rest pos,
    (within y turns ⟨rest, pos, e⟩).UpTo (within x turns ⟨rest, pos, d⟩)
  | 0, _, _ => .inl rfl
  | turns + 1, rest, pos => by
    rw [within, within, stops_eq rest pos d e]
    split
    · exact .inl rfl
    have hagree := h rest pos
    generalize x ⟨rest, pos, d⟩ = u at hagree ⊢
    generalize y ⟨rest, pos, e⟩ = v at hagree ⊢
    cases hagree with
    | ok a rest pos => exact (upTo_within h turns rest pos).past pos
    | error c s t => exact .inl rfl
    | tooDeep u t => exact .inr ⟨rfl, List.nil_prefix⟩

theorem upTo_passage (h : Mirrors d e x y) (rest : Bytes) (pos : Nat) :
    ((⟨rest, pos, e⟩ : Reader).passage y).UpTo ((⟨rest, pos, d⟩ : Reader).passage x) :=
  upTo_within h rest.length rest pos

end Passage

/-! ## Trees -/

namespace Tree

open Passage

/-- Reads a field, and forgets the tree. -/
def pass : Read Unit := do
  forget (payloadWithin maxNesting (← head).type)

theorem mirrors_pass : Mirrors 0 0 skipAny pass :=
  mirrors_inner (mirrors_payloadWithin rfl)

theorem mirrors_skipAny : Mirrors 0 1 pass skipAny :=
  mirrors_inner (mirrors_skipField rfl)

/-- Reading fields into trees is a passage: as many trees as fields, or its failure. -/
theorem count_within_pass : ∀ turns r,
    (within pass turns r).count =
      match fieldsWithin turns r with
      | .ok fs _ => .ok fs.length
      | .error e _ => .error e
  | 0, _ => rfl
  | turns + 1, r => by
    rw [within, fieldsWithin, get_bind]
    by_cases hrest : r.rest.isEmpty
    · rw [if_pos hrest, if_pos (by rw [Reader.stops, hrest, Bool.true_or])]
      rfl
    rw [if_neg hrest]
    cases hpeek : peekHead r with
    | error e s =>
      have hstops : r.stops = false := by simp [Reader.stops, hrest, hpeek]
      have hhead : head r = .error e s := bind_of_error hpeek
      rw [hstops, if_neg Bool.false_ne_true, pass, bind_of_error hhead, bind_of_error hhead]
      rfl
    | ok h s =>
      obtain ⟨rfl, -⟩ := peekHead_eq_ok hpeek
      have hstops : s.stops = (h.type == .structEnd) := by simp [Reader.stops, hrest, hpeek]
      rw [hstops, pass, bind_of_ok (head_of_peekHead hpeek), bind_of_ok (head_of_peekHead hpeek)]
      by_cases hend : h.type = .structEnd
      · rw [if_pos hend, hend]
        rfl
      rw [if_neg hend, if_neg (by simpa using hend), forget]
      cases hpayload : payloadWithin maxNesting h.type _ with
      | error e t =>
        rw [bind_of_error hpayload, bind_of_error hpayload]
        rfl
      | ok v t =>
        have ih := count_within_pass turns t
        rw [bind_of_ok hpayload, bind_of_ok hpayload]
        show ((within pass turns t).past t.pos).count = _
        rw [count_past, ih]
        cases hfields : fieldsWithin turns t with
        | error e u =>
          rw [bind_of_error hfields]
          rfl
        | ok fs u =>
          rw [bind_of_ok hfields]
          rfl

/-- The fields of a byte string are those of a passage. -/
theorem map_length_ofBytes (bs : Bytes) :
    (Tree.ofBytes bs).map List.length = ((Reader.ofBytes bs).passage pass).count := by
  rw [Reader.passage, count_within_pass, Tree.ofBytes, Read.runOn, readFields, get_bind]
  cases fieldsWithin (Reader.ofBytes bs).rest.length (Reader.ofBytes bs) <;> rfl

/-- Reading a byte string into trees passes over the same fields, with the same ends, as
    skipping them one by one, and fails as skipping does, unless it refuses what nests too
    deep. Then it has passed over some of these fields, and skipping is refused as well if
    one container more is around. -/
theorem ofBytes_passage (bs : Bytes) :
    (Tree.ofBytes bs).map List.length = ((Reader.ofBytes bs).passage pass).count ∧
      ((Reader.ofBytes bs).passage pass = (Reader.ofBytes bs).passage skipAny ∨
        ((Reader.ofBytes bs).passage pass).failure = some (.tooDeep maxNesting) ∧
          ((Reader.ofBytes bs).passage pass).ends <+: ((Reader.ofBytes bs).passage skipAny).ends ∧
          ((⟨bs, 0, 1⟩ : Reader).passage skipAny).failure = some (.tooDeep maxNesting)) := by
  refine ⟨map_length_ofBytes bs, ?_⟩
  rcases upTo_passage mirrors_pass bs 0 with heq | ⟨hdeep, hends⟩
  · exact .inl heq
  refine .inr ⟨hdeep, hends, ?_⟩
  rcases upTo_passage mirrors_skipAny bs 0 with heq | ⟨hskip, -⟩
  · rw [heq]
    exact hdeep
  · exact hskip

/-- The number zero inside so many lists. -/
def zeroInLists (n : Nat) : Bytes := (List.replicate n [0x09, 0x00, 0x01]).flatten ++ [0x0C]

/-- Skipping passes over a number inside 64 lists, and reading refuses it. -/
theorem zeroInLists_not_alike :
    (Reader.ofBytes (zeroInLists 64)).passage skipAny = ⟨[193], none⟩ ∧
      Tree.ofBytes (zeroInLists 64) = .error (.tooDeep 64) := by
  refine ⟨by decide +kernel, ?_⟩
  have hpass : (Reader.ofBytes (zeroInLists 64)).passage pass = ⟨[], some (.tooDeep 64)⟩ := by
    decide +kernel
  have hcount := map_length_ofBytes (zeroInLists 64)
  rw [hpass] at hcount
  cases hread : Tree.ofBytes (zeroInLists 64) with
  | ok fs => rw [hread] at hcount; cases hcount
  | error e => rw [hread] at hcount; cases hcount; rfl

end Tree

end TaggedRpc.Wire
