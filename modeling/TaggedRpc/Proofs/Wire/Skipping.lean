import TaggedRpc.Proofs.Wire.Erasure

/-!
# Skipping

A reader passes over a field without knowing what it holds. It needs the wire
type only, and ends exactly behind the payload (`Tree.skippedBy_skipField`),
provided that the containers in it, on top of those around the reader, are no
more than `maxNesting`. In particular the end of an inner struct is never taken
for the end of an outer one.

From the law of a payload follow those of the two loops that skip:

* `yields_skipToStructEnd_writeFields`: the fields up to a struct end;
* `seek_writeFields_append`: the fields in front of a tag that is asked for.
-/

namespace TaggedRpc.Wire

open Read

variable {depth : Nat} {rest : Bytes}

namespace Tree

/-- `skip` passes over exactly the payload of a tree, whatever follows. -/
def SkippedBy (skip : WireType → Read Unit) (depth : Nat) (v : Tree) : Prop :=
  ∀ rest, Yields (skip v.wireType) depth v.payload rest ()

/-! ## Payloads without containers -/

variable {inner : WireType → Read Unit}

theorem skippedBy_int (v : Int) : (int v).SkippedBy (skipPayload inner) depth := by
  intro rest
  refine Writer.narrowest_elim (motive := fun p =>
    Yields (skipPayload inner p.1) depth p.2 rest ()) ?_ ?_ ?_ ?_ ?_
  · intro _
    exact yields_pure ()
  · intro _
    exact yields_skip (Bytes.length_ofInt 1 v)
  · intro _ _
    exact yields_skip (Bytes.length_ofInt 2 v)
  · intro _ _
    exact yields_skip (Bytes.length_ofInt 4 v)
  · intro _
    exact yields_skip (Bytes.length_ofInt 8 v)

theorem yields_skip_textLayout {bs : Bytes} (h : bs.length < 2 ^ 32) :
    Yields (skipPayload inner (textLayout bs).1) depth (textLayout bs).2 rest () := by
  unfold textLayout
  split
  · exact yields_rawNat_bind ‹_› (yields_skip rfl)
  · exact yields_rawNat_bind h (yields_skip rfl)

/-! ## Containers -/

theorem length_le_writeFields (fs : List (Tag × Tree)) : fs.length ≤ (writeFields fs).length := by
  induction fs with
  | nil => exact Nat.zero_le _
  | cons f fs ih =>
    have := write_length_pos f.2 f.1
    show _ ≤ (write f.2 f.1 ++ writeFields fs).length
    rw [List.length_cons, List.length_append]
    omega

/-- The bytes ahead give a loop over the fields of a struct a turn for each, and one for the
    end. -/
theorem length_lt_writeFields_end (fs : List (Tag × Tree)) (rest : Bytes) :
    fs.length < (writeFields fs ++ Writer.head .structEnd 0 ++ rest).length := by
  have hroom := length_le_writeFields fs
  have hend := head_length_pos .structEnd 0
  rw [List.length_append, List.length_append]
  omega

/-- The elements of a list, one after another. -/
theorem yields_times_writeElements {vs : List Tree} (h : ∀ v ∈ vs, v.SkippedBy inner depth) :
    Yields (times (do inner (← head).type) vs.length) depth (writeElements vs) rest () := by
  induction vs with
  | nil => exact yields_pure ()
  | cons v vs ih =>
    have hv := h v List.mem_cons_self
    exact ((yields_head _ _).bind (hv _)).times_succ
      (ih fun w hw => h w (List.mem_cons_of_mem _ hw))

/-- The keys and values of a map, one after another. -/
theorem yields_times_writePairs {ps : List (Tree × Tree)}
    (h : ∀ p ∈ ps, p.1.SkippedBy inner depth ∧ p.2.SkippedBy inner depth) :
    Yields (times (do inner (← head).type) (2 * ps.length)) depth (writePairs ps) rest () := by
  induction ps with
  | nil => exact yields_pure ()
  | cons p ps ih =>
    obtain ⟨hk, hv⟩ := h p List.mem_cons_self
    exact ((yields_head _ _).bind (hk _)).times_succ (((yields_head _ _).bind (hv _)).times_succ
      (ih fun q hq => h q (List.mem_cons_of_mem _ hq)))

/-- The fields of a struct and its end. Every turn consumes a field. -/
theorem yields_untilStructEnd_writeFields {fs : List (Tag × Tree)} {turns : Nat}
    (h : ∀ f ∈ fs, f.2.SkippedBy inner depth) (hturns : fs.length < turns) :
    Yields (untilStructEnd inner turns) depth (writeFields fs ++ Writer.head .structEnd 0)
      rest () := by
  intro pos
  induction fs generalizing turns pos with
  | nil =>
    obtain ⟨turns, rfl⟩ := Nat.exists_eq_add_one.2 hturns
    rw [writeFields, List.nil_append, untilStructEnd_succ_head, if_pos rfl]
  | cons f fs ih =>
    obtain ⟨turns, rfl⟩ := Nat.exists_eq_add_one.2 (Nat.zero_lt_of_lt hturns)
    have hf := h f List.mem_cons_self
    rw [List.length_cons] at hturns
    rw [writeFields, List.append_assoc, List.append_assoc, List.append_assoc,
      untilStructEnd_succ_head, if_neg (wireType_ne_structEnd _), bind_of_ok (hf _ _),
      ← List.append_assoc, ih (fun g hg => h g (List.mem_cons_of_mem _ hg)) (by omega)]
    simp only [List.length_append, Nat.add_assoc]

theorem skippedBy_list {vs : List Tree} (hn : vs.length < 2 ^ 31) (hd : depth < maxNesting)
    (h : ∀ v ∈ vs, v.SkippedBy inner (depth + 1)) :
    (list vs).SkippedBy (skipPayload inner) depth :=
  fun _ => (yields_length_append hn (length_le_writeElements vs)).bind
    (yields_deeper hd (yields_times_writeElements h))

theorem skippedBy_map {ps : List (Tree × Tree)} (hn : ps.length < 2 ^ 31) (hd : depth < maxNesting)
    (h : ∀ p ∈ ps, p.1.SkippedBy inner (depth + 1) ∧ p.2.SkippedBy inner (depth + 1)) :
    (map ps).SkippedBy (skipPayload inner) depth := by
  intro rest
  have hroom := length_le_writePairs ps
  exact (yields_length_append hn (by omega)).bind (yields_deeper hd (yields_times_writePairs h))

theorem skippedBy_struct {fs : List (Tag × Tree)} (hd : depth < maxNesting)
    (h : ∀ f ∈ fs, f.2.SkippedBy inner (depth + 1)) :
    (struct fs).SkippedBy (skipPayload inner) depth :=
  fun rest => yields_deeper hd fun pos =>
    yields_untilStructEnd_writeFields h (length_lt_writeFields_end fs rest) pos

/-! ## All payloads -/

mutual

/-- A payload is skipped, where the levels that are left hold its containers. -/
theorem skippedBy_skipWithin : ∀ {v : Tree} {levels depth : Nat}, v.Fits → v.nesting ≤ levels →
    depth + v.nesting ≤ maxNesting → v.SkippedBy (skipWithin levels) depth
  | int v, 0, _, _, _, _ | int v, _ + 1, _, _, _, _ => skippedBy_int v
  | float32 bits, 0, _, _, _, _ | float32 bits, _ + 1, _, _, _, _ =>
    fun _ => yields_skip (Bytes.length_ofNat 4 _)
  | float64 bits, 0, _, _, _, _ | float64 bits, _ + 1, _, _, _, _ =>
    fun _ => yields_skip (Bytes.length_ofNat 8 _)
  | string s, 0, _, h, _, _ | string s, _ + 1, _, h, _, _ =>
    fun _ => yields_skip_textLayout (by rwa [Fits] at h)
  | rawString bs, 0, _, h, _, _ | rawString bs, _ + 1, _, h, _, _ =>
    fun _ => yields_skip_textLayout (by rwa [Fits] at h)
  | bytes bs, 0, _, h, _, _ | bytes bs, _ + 1, _, h, _, _ =>
    fun _ => (yields_simpleListPayload (by rwa [Fits] at h)).bind_pure fun _ => ()
  | list vs, levels + 1, depth, h, hl, hd => by
    rw [Fits] at h
    rw [nesting] at hl hd
    exact skippedBy_list h.1 (by omega) (skippedBy_of_mem h.2 (by omega) (by omega))
  | map ps, levels + 1, depth, h, hl, hd => by
    rw [Fits] at h
    rw [nesting] at hl hd
    exact skippedBy_map h.1 (by omega) (skippedBy_of_mem_pairs h.2 (by omega) (by omega))
  | struct fs, levels + 1, depth, h, hl, hd => by
    rw [Fits] at h
    rw [nesting] at hl hd
    exact skippedBy_struct (by omega) (skippedBy_of_mem_fields h (by omega) (by omega))

theorem skippedBy_of_mem : ∀ {vs : List Tree} {levels depth : Nat}, FitsAll vs →
    nestingAll vs ≤ levels → depth + nestingAll vs ≤ maxNesting →
    ∀ v ∈ vs, v.SkippedBy (skipWithin levels) depth
  | [], _, _, _, _, _ => List.forall_mem_nil _
  | v :: vs, levels, depth, h, hl, hd => by
    rw [FitsAll] at h
    rw [nestingAll, Nat.max_le] at hl
    rw [nestingAll, ← Nat.add_max_add_left, Nat.max_le] at hd
    exact List.forall_mem_cons.2
      ⟨skippedBy_skipWithin h.1 hl.1 hd.1, skippedBy_of_mem h.2 hl.2 hd.2⟩

theorem skippedBy_of_mem_pairs : ∀ {ps : List (Tree × Tree)} {levels depth : Nat}, FitsPairs ps →
    nestingPairs ps ≤ levels → depth + nestingPairs ps ≤ maxNesting →
    ∀ p ∈ ps, p.1.SkippedBy (skipWithin levels) depth ∧ p.2.SkippedBy (skipWithin levels) depth
  | [], _, _, _, _, _ => List.forall_mem_nil _
  | (k, v) :: ps, levels, depth, h, hl, hd => by
    rw [FitsPairs] at h
    rw [nestingPairs, Nat.max_le, Nat.max_le] at hl
    rw [nestingPairs, ← Nat.add_max_add_left, ← Nat.add_max_add_left, Nat.max_le,
      Nat.max_le] at hd
    exact List.forall_mem_cons.2
      ⟨⟨skippedBy_skipWithin h.1 hl.1.1 hd.1.1, skippedBy_skipWithin h.2.1 hl.1.2 hd.1.2⟩,
        skippedBy_of_mem_pairs h.2.2 hl.2 hd.2⟩

theorem skippedBy_of_mem_fields : ∀ {fs : List (Tag × Tree)} {levels depth : Nat}, FitsFields fs →
    nestingFields fs ≤ levels → depth + nestingFields fs ≤ maxNesting →
    ∀ f ∈ fs, f.2.SkippedBy (skipWithin levels) depth
  | [], _, _, _, _, _ => List.forall_mem_nil _
  | (_, v) :: fs, levels, depth, h, hl, hd => by
    rw [FitsFields] at h
    rw [nestingFields, Nat.max_le] at hl
    rw [nestingFields, ← Nat.add_max_add_left, Nat.max_le] at hd
    exact List.forall_mem_cons.2
      ⟨skippedBy_skipWithin h.1 hl.1 hd.1, skippedBy_of_mem_fields h.2 hl.2 hd.2⟩

end

/-- A reader skips the payload of every tree for which there is room. -/
theorem skippedBy_skipField {v : Tree} (h : v.Fits) (hd : depth + v.nesting ≤ maxNesting) :
    v.SkippedBy skipField depth :=
  -- The levels that are left depend on the depth at which the payload is skipped.
  fun rest pos => skippedBy_skipWithin h (show v.nesting ≤ maxNesting - depth by omega) hd rest pos

end Tree

/-! ## Skipping fields -/

namespace Read

open TaggedRpc.Wire.Tree

variable {fs : List (Tag × Tree)}

/-- The fields that are left of a struct, and its end. -/
theorem yields_skipToStructEnd_writeFields (h : ∀ f ∈ fs, f.2.SkippedBy skipField depth) :
    Yields skipToStructEnd depth (writeFields fs ++ Writer.head .structEnd 0) rest () :=
  fun pos => yields_untilStructEnd_writeFields h (length_lt_writeFields_end fs rest) pos

variable {more : Bytes} {tag t : Tag} {ty : WireType} {pos : Nat}

/-- Seeking goes past every field with a lower tag, one turn for each. -/
theorem seekWithin_writeFields_append {turns : Nat} (h : ∀ f ∈ fs, f.2.SkippedBy skipField depth)
    (htag : ∀ f ∈ fs, f.1 < tag) (hturns : fs.length ≤ turns) :
    seekWithin tag turns ⟨writeFields fs ++ more, pos, depth⟩ =
      seekWithin tag (turns - fs.length) ⟨more, pos + (writeFields fs).length, depth⟩ := by
  induction fs generalizing turns pos with
  | nil => rfl
  | cons f fs ih =>
    rw [List.forall_mem_cons] at h htag
    rw [List.length_cons] at hturns
    obtain ⟨turns, rfl⟩ : ∃ n, turns = n + 1 := ⟨turns - 1, by omega⟩
    -- Seeking does not stop at the first field: it is not an end, nor is its tag too high.
    have hlow : ¬(f.2.wireType = .structEnd ∨ tag < f.1) := fun hstop =>
      hstop.elim (wireType_ne_structEnd _) (UInt8.not_lt.2 (UInt8.le_of_lt htag.1))
    rw [writeFields, List.append_assoc, List.append_assoc, seekWithin_succ_head, if_neg hlow,
      if_neg (UInt8.ne_of_lt htag.1), bind_of_ok (h.1 _ _), ih h.2 htag.2 (by omega),
      List.length_append, List.length_append, List.length_cons, Nat.add_sub_add_right]
    simp only [Nat.add_assoc]

/-- Seeking goes past every field with a lower tag, up to where it stops. -/
theorem seek_writeFields_append {required : Bool} (h : ∀ f ∈ fs, f.2.SkippedBy skipField depth)
    (htag : ∀ f ∈ fs, f.1 < tag) (hstop : ty = .structEnd ∨ tag ≤ t) :
    seek tag required ⟨writeFields fs ++ (Writer.head ty t ++ more), pos, depth⟩ =
      seek tag required ⟨Writer.head ty t ++ more, pos + (writeFields fs).length, depth⟩ := by
  -- There are as many turns as bytes ahead, so after one for each field some are left.
  have hroom := length_le_writeFields fs
  obtain ⟨turns, hturns⟩ := exists_length_head_append ty t more
  obtain ⟨spare, hspare⟩ : ∃ n, (writeFields fs ++ (Writer.head ty t ++ more)).length =
      n + 1 + fs.length :=
    ⟨(writeFields fs).length + turns - fs.length, by rw [List.length_append, hturns]; omega⟩
  have hpast : seekWithin tag (spare + 1 + fs.length)
      ⟨writeFields fs ++ (Writer.head ty t ++ more), pos, depth⟩ =
      seekWithin tag (turns + 1)
        ⟨Writer.head ty t ++ more, pos + (writeFields fs).length, depth⟩ := by
    rw [seekWithin_writeFields_append h htag (Nat.le_add_left _ _), Nat.add_sub_cancel]
    exact seekWithin_succ_stop hstop
  rw [seek, get_bind, get_bind, hturns, hspare]
  exact bind_eq_of_eq hpast

end Read

end TaggedRpc.Wire
