import TaggedRpc.Wire.Script
import TaggedRpc.Proofs.Wire.Yields

/-!
# What a computation does to its reader

A reader is touched in few ways: a head is looked at, bytes are taken, and a body
runs one container deeper. Whatever else moves a reader is put together from these,
and how it is put together is its *anatomy*. From the anatomy alone follows what no
computation does to a reader, whether it succeeds or fails, and on whatever bytes:

* `Anatomy.ahead`: it never takes the reader back, and leaves it as deep as it was;
* `Anatomy.within`: whenever it looks at bytes, these are within the byte string,
  and no more than `maxNesting` containers are around.

Every operation of a reader has an anatomy (`made_exec`), and so have all
computations that are made of operations, also those that go on after a failure.
-/

namespace TaggedRpc.Wire

/-! ## Readers and byte strings -/

namespace Reader

/-- A reader stands in a byte string: at a position up to its end, with the bytes
    from there on ahead, and not too deep. -/
structure In (r : Reader) (bs : Bytes) : Prop where
  /-- The bytes ahead are those from the position on. -/
  rest : r.rest = bs.drop r.pos
  /-- The position is not beyond the end. -/
  pos : r.pos ≤ bs.length
  /-- The containers around are not too many. -/
  depth : r.depth ≤ maxNesting

/-- From `r` to `s` a reader has passed over some bytes, and has come back to the
    depth at which it was. -/
def Ahead (r s : Reader) : Prop :=
  ∃ passed : Bytes, r.rest = passed ++ s.rest ∧ s.pos = r.pos + passed.length ∧ s.depth = r.depth

variable {r s t : Reader} {bs : Bytes}

theorem in_ofBytes (bs : Bytes) : (ofBytes bs).In bs :=
  ⟨rfl, Nat.zero_le _, Nat.zero_le _⟩

theorem Ahead.refl (r : Reader) : r.Ahead r := ⟨[], rfl, rfl, rfl⟩

theorem Ahead.trans (hrs : r.Ahead s) (hst : s.Ahead t) : r.Ahead t := by
  obtain ⟨bs, hrest, hpos, hdepth⟩ := hrs
  obtain ⟨cs, hrest', hpos', hdepth'⟩ := hst
  refine ⟨bs ++ cs, ?_, ?_, hdepth'.trans hdepth⟩
  · rw [hrest, hrest', List.append_assoc]
  · rw [hpos', hpos, List.length_append, Nat.add_assoc]

theorem Ahead.pos_le (h : r.Ahead s) : r.pos ≤ s.pos := by
  obtain ⟨bs, -, hpos, -⟩ := h
  omega

theorem Ahead.depth_eq (h : r.Ahead s) : s.depth = r.depth := h.choose_spec.2.2

/-- What is passed over is no longer ahead. -/
theorem Ahead.pos_add_length (h : r.Ahead s) :
    s.pos + s.rest.length = r.pos + r.rest.length := by
  obtain ⟨bs, hrest, hpos, -⟩ := h
  rw [hrest, hpos, List.length_append, Nat.add_assoc]

theorem In.ahead (hr : r.In bs) (h : r.Ahead s) : s.In bs := by
  obtain ⟨passed, hrest, hpos, hdepth⟩ := h
  have hlength : passed.length + s.rest.length = bs.length - r.pos := by
    rw [← List.length_append, ← hrest, hr.rest, List.length_drop]
  have hle := hr.pos
  refine ⟨?_, by omega, hdepth ▸ hr.depth⟩
  rw [hpos, ← List.drop_drop, ← hr.rest, hrest, List.drop_left]

/-- One container deeper, if that is not too deep. -/
theorem In.deeper (hr : r.In bs) (h : r.depth < maxNesting) :
    In { r with depth := r.depth + 1 } bs :=
  ⟨hr.rest, hr.pos, h⟩

end Reader

namespace Read

variable {α β : Type}

/-! ## Outcomes -/

/-- The reader after a computation, also after one that failed. -/
def after (x : Read α) (r : Reader) : Reader :=
  match x r with
  | .ok _ s | .error _ s => s

/-- The answer of a computation, or its failure. -/
def outcome (x : Read α) (r : Reader) : Except DecodeError α :=
  match x r with
  | .ok a _ => .ok a
  | .error e _ => .error e

/-- Runs a computation and tells its outcome. A failure leaves the reader where it
    was found, and does not end what follows. -/
def attempt (x : Read α) : Read (Except DecodeError α) := fun r =>
  .ok (x.outcome r) (x.after r)

theorem after_of_ok {x : Read α} {r s : Reader} {a : α} (h : x r = .ok a s) : x.after r = s := by
  rw [after, h]

theorem after_of_error {x : Read α} {r s : Reader} {e : DecodeError} (h : x r = .error e s) :
    x.after r = s := by
  rw [after, h]

/-- What comes after a computation that fails. -/
theorem bind_of_error {x : Read α} {f : α → Read β} {r s : Reader} {e : DecodeError}
    (h : x r = .error e s) : (x >>= f) r = .error e s := by
  show EStateM.bind x f r = _
  rw [EStateM.bind, h]

/-! ## Anatomies -/

/-- A moment at which a computation looks at bytes. -/
structure Touch where
  /-- The reader at that moment. -/
  reader : Reader
  /-- How many of the bytes ahead are looked at. -/
  size : Nat

/-- The bytes that are looked at are bytes of a byte string, at a permitted depth. -/
structure Touch.Within (t : Touch) (bs : Bytes) : Prop where
  /-- The reader stands in the byte string. -/
  reader : t.reader.In bs
  /-- The bytes end where the byte string does, or before. -/
  size : t.reader.pos + t.size ≤ bs.length

/-- How a computation is put together from those that touch the reader. -/
inductive Anatomy : {α : Type} → Read α → Type 1
  | pure {α : Type} (a : α) : Anatomy (pure a : Read α)
  | throw {α : Type} (e : DecodeError) : Anatomy (throw e : Read α)
  | get : Anatomy (get : Read Reader)
  | peek : Anatomy peekHead
  | take (n : Nat) : Anatomy (take n)
  | bind {α β : Type} {x : Read α} {f : α → Read β} :
    Anatomy x → (∀ a, Anatomy (f a)) → Anatomy (x >>= f)
  | attempt {α : Type} {x : Read α} : Anatomy x → Anatomy (attempt x)
  | deeper {α : Type} {x : Read α} : Anatomy x → Anatomy (deeper x)

/-- Every moment at which a computation looks at bytes, one after another. -/
def Anatomy.touches {α : Type} {x : Read α} : Anatomy x → Reader → List Touch
  | .pure _, _ | .throw _, _ | .get, _ => []
  | .peek, r =>
    match peekHead r with
    | .ok h _ => [⟨r, h.size⟩]
    | .error _ _ => []
  | .take n, r => if r.rest.length < n then [] else [⟨r, n⟩]
  | .bind (x := x) c d, r =>
    c.touches r ++
      match x r with
      | .ok a s => (d a).touches s
      | .error _ _ => []
  | .attempt c, r => c.touches r
  | .deeper c, r =>
    if r.depth < maxNesting then c.touches { r with depth := r.depth + 1 } else []


variable {x : Read α} {r s : Reader} {bs : Bytes}

/-! ### The places where a reader is touched -/

/-- A head that is seen is one byte or two of those ahead. -/
theorem peekHead_eq_ok {h : Head} (heq : peekHead r = .ok h s) :
    s = r ∧ 0 < h.size ∧ h.size ≤ r.rest.length := by
  unfold peekHead at heq
  split at heq
  · cases heq
  · rename_i first more hrest
    rw [hrest]
    split at heq
    · cases heq
    · split at heq
      · cases heq
        exact ⟨rfl, Nat.one_pos, Nat.le_add_left _ _⟩
      · split at heq
        · cases heq
        · cases heq
          exact ⟨rfl, Nat.two_pos, Nat.le_add_left _ _⟩

theorem after_peekHead (r : Reader) : peekHead.after r = r := by
  unfold after
  split
  · rename_i h s heq
    exact (peekHead_eq_ok heq).1
  · rename_i e s heq
    unfold peekHead at heq
    split at heq
    · cases heq; rfl
    · split at heq
      · cases heq; rfl
      · split at heq
        · cases heq
        · split at heq
          · cases heq; rfl
          · cases heq

theorem take_eq (n : Nat) (r : Reader) :
    take n r = if r.rest.length < n then .error (.unexpectedEnd r.pos n) r
      else .ok (r.rest.take n) ⟨r.rest.drop n, r.pos + n, r.depth⟩ := by
  have hmin : (r.rest.take n).length < n ↔ r.rest.length < n := by
    rw [List.length_take]
    omega
  simp only [take, hmin]

theorem head_of_peekHead {h : Head} (hpeek : peekHead r = .ok h r) :
    head r = .ok h ⟨r.rest.drop h.size, r.pos + h.size, r.depth⟩ := by
  obtain ⟨-, -, hsize⟩ := peekHead_eq_ok hpeek
  have htake := (take_eq h.size r).trans (if_neg (Nat.not_lt.2 hsize))
  have hskip : skip h.size r = .ok () ⟨r.rest.drop h.size, r.pos + h.size, r.depth⟩ :=
    bind_of_ok htake
  rw [head, bind_of_ok hpeek, bind_of_ok hskip]
  rfl

theorem ahead_take (n : Nat) (r : Reader) : r.Ahead ((take n).after r) := by
  by_cases h : r.rest.length < n
  · rw [after_of_error ((take_eq n r).trans (if_pos h))]
    exact .refl r
  · rw [after_of_ok ((take_eq n r).trans (if_neg h))]
    refine ⟨r.rest.take n, (List.take_append_drop n r.rest).symm, ?_, rfl⟩
    rw [List.length_take, Nat.min_eq_left (by omega)]

theorem after_deeper (x : Read α) (r : Reader) :
    (deeper x).after r =
      if r.depth < maxNesting then
        { x.after { r with depth := r.depth + 1 } with
          depth := (x.after { r with depth := r.depth + 1 }).depth - 1 }
      else r := by
  unfold after deeper
  by_cases h : r.depth < maxNesting
  · rw [if_pos h, if_pos h]
    cases x { r with depth := r.depth + 1 } <;> rfl
  · rw [if_neg h, if_neg h]

theorem after_bind (x : Read α) (f : α → Read β) (r : Reader) :
    (x >>= f).after r =
      match x r with
      | .ok a s => (f a).after s
      | .error _ s => s := by
  unfold after
  cases h : x r with
  | ok a s => rw [bind_of_ok h]
  | error e s => rw [bind_of_error h]

theorem after_attempt (x : Read α) (r : Reader) : (attempt x).after r = x.after r := rfl

/-! ### What an anatomy excludes -/

/-- No computation takes the reader back or beyond the bytes ahead, or leaves its
    depth changed, whether it succeeds or fails. -/
theorem Anatomy.ahead (c : Anatomy x) (r : Reader) : r.Ahead (x.after r) := by
  induction c generalizing r with
  | pure | throw | get => exact .refl r
  | peek =>
    rw [after_peekHead]
    exact .refl r
  | take n => exact ahead_take n r
  | bind c d ihc ihd =>
    rename_i x f
    have hc := ihc r
    rw [after_bind]
    cases h : x r with
    | ok a s => exact (after_of_ok h ▸ hc).trans (ihd a s)
    | error e s => exact after_of_error h ▸ hc
  | attempt c ih =>
    rw [after_attempt]
    exact ih r
  | deeper c ih =>
    rw [after_deeper]
    split
    · obtain ⟨passed, hrest, hpos, hdepth⟩ := ih { r with depth := r.depth + 1 }
      exact ⟨passed, hrest, hpos, by rw [hdepth]; rfl⟩
    · exact .refl r

/-- Every moment at which a computation looks at bytes lies between its begin and
    its end. -/
theorem Anatomy.pos_touch (c : Anatomy x) (r : Reader) :
    ∀ t ∈ c.touches r, r.pos ≤ t.reader.pos ∧ t.reader.pos ≤ (x.after r).pos := by
  induction c generalizing r with
  | pure | throw | get => exact List.forall_mem_nil _
  | peek =>
    rw [touches, after_peekHead]
    split
    · exact List.forall_mem_singleton.2 ⟨Nat.le_refl _, Nat.le_refl _⟩
    · exact List.forall_mem_nil _
  | take n =>
    rw [touches]
    split
    · exact List.forall_mem_nil _
    · exact List.forall_mem_singleton.2 ⟨Nat.le_refl _, (ahead_take n r).pos_le⟩
  | bind c d ihc ihd =>
    rename_i x f
    have hc := (c.ahead r).pos_le
    rw [touches, after_bind, List.forall_mem_append]
    cases h : x r with
    | ok a s =>
      rw [after_of_ok h] at hc
      have hd := ((d a).ahead s).pos_le
      refine ⟨fun t ht => ?_, fun t ht => ?_⟩
      · have := ihc r t ht
        rw [after_of_ok h] at this
        exact ⟨this.1, Nat.le_trans this.2 hd⟩
      · have := ihd a s t ht
        exact ⟨Nat.le_trans hc this.1, this.2⟩
    | error e s => exact ⟨fun t ht => after_of_error h ▸ ihc r t ht, List.forall_mem_nil _⟩
  | attempt c ih =>
    rw [touches, after_attempt]
    exact ih r
  | deeper c ih =>
    rw [touches, after_deeper]
    split
    · exact ih { r with depth := r.depth + 1 }
    · exact List.forall_mem_nil _

/-- The bytes that a computation looks at come one after another. -/
theorem Anatomy.pairwise_touches (c : Anatomy x) (r : Reader) :
    (c.touches r).Pairwise fun t u => t.reader.pos ≤ u.reader.pos := by
  induction c generalizing r with
  | pure | throw | get => exact .nil
  | peek =>
    rw [touches]
    split
    · exact List.pairwise_singleton _ _
    · exact .nil
  | take n =>
    rw [touches]
    split
    · exact .nil
    · exact List.pairwise_singleton _ _
  | bind c d ihc ihd =>
    rename_i x f
    rw [touches]
    cases h : x r with
    | ok a s =>
      refine List.pairwise_append.2 ⟨ihc r, ihd a s, fun t ht u hu => ?_⟩
      have ht := (c.pos_touch r t ht).2
      rw [after_of_ok h] at ht
      exact Nat.le_trans ht ((d a).pos_touch s u hu).1
    | error e s => exact (List.append_nil (c.touches r)).symm ▸ ihc r
  | attempt c ih => exact ih r
  | deeper c ih =>
    rw [touches]
    split
    · exact ih _
    · exact .nil

/-- In a byte string, a computation looks at its bytes only, and never too deep. -/
theorem Anatomy.within (c : Anatomy x) (hr : r.In bs) : ∀ t ∈ c.touches r, t.Within bs := by
  -- What is looked at are some of the bytes ahead.
  have hroom : ∀ {r : Reader} {n}, r.In bs → n ≤ r.rest.length → Touch.Within ⟨r, n⟩ bs := by
    intro r n hr hn
    refine ⟨hr, ?_⟩
    have hle := hr.pos
    rw [hr.rest, List.length_drop] at hn
    show r.pos + n ≤ bs.length
    omega
  induction c generalizing r with
  | pure | throw | get => exact List.forall_mem_nil _
  | peek =>
    rw [touches]
    split
    · rename_i h s heq
      exact List.forall_mem_singleton.2 (hroom hr (peekHead_eq_ok heq).2.2)
    · exact List.forall_mem_nil _
  | take n =>
    rw [touches]
    split
    · exact List.forall_mem_nil _
    · exact List.forall_mem_singleton.2 (hroom hr (by omega))
  | bind c d ihc ihd =>
    rename_i x f
    rw [touches, List.forall_mem_append]
    refine ⟨ihc hr, ?_⟩
    cases h : x r with
    | ok a s => exact ihd a (hr.ahead (after_of_ok h ▸ c.ahead r))
    | error e s => exact List.forall_mem_nil _
  | attempt c ih => exact ih hr
  | deeper c ih =>
    rw [touches]
    split
    · exact ih (hr.deeper ‹_›)
    · exact List.forall_mem_nil _

end Read

end TaggedRpc.Wire
