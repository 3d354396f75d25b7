import TaggedRpc.Proofs.Wire.Evolution

/-!
# Reading back without a schema

What was written at any types reads back without them, as the erasures of the values: one
field for each that was written, in the same order and with the same tag
(`Schema.ofBytes_encodeAll`).

A reader without a schema counts a level for every container that it goes into, and one for
what it finds there. So the levels that it needs are the *height* of a value (`Val.height`):
the containers inside one another, and the one number, text or byte sequence that is
innermost.

A tree is *recovered* by a reader of payloads if that takes exactly the payload of the tree
and gives the tree (`Tree.RecoveredBy`). For every kind of tree there is a lemma that says
so, provided that the trees inside are recovered by the reader one level down; the induction
is on the values that the trees are erasures of.
-/

namespace TaggedRpc.Wire

open Read

/-! ## Heights -/

namespace Val

mutual

/-- How many levels a value takes: its containers inside one another, and what is innermost. -/
def height : Val → Nat
  | list vs => heightAll vs + 1
  | map ps => heightPairs ps + 1
  | struct vs => heightAll vs + 1
  | _ => 1

/-- The greatest height among values. -/
def heightAll : List Val → Nat
  | [] => 0
  | v :: vs => max (height v) (heightAll vs)

/-- The greatest height among the keys and values of pairs. -/
def heightPairs : List (Val × Val) → Nat
  | [] => 0
  | (k, v) :: ps => max (max (height k) (height v)) (heightPairs ps)

end

end Val

/-! ## Payloads -/

namespace Tree

variable {levels depth : Nat} {rest : Bytes} {payload : WireType → Read Tree}

/-- `payload` takes exactly the payload of a tree, whatever follows, and gives the tree. -/
def RecoveredBy (payload : WireType → Read Tree) (depth : Nat) (v : Tree) : Prop :=
  ∀ rest, Yields (payload v.wireType) depth v.payload rest v

theorem recoveredBy_int {v : Int} (h : IntType.int64.Holds v) :
    (int v).RecoveredBy (payloadWithin (levels + 1)) depth := by
  intro rest
  have hread : Yields (intPayload (Writer.narrowest v).1 0 .long "int") depth
      (Writer.narrowest v).2 rest v :=
    yields_intPayload h (Writer.narrowest_le_carrier h)
  have hint : payloadWithin (levels + 1) (Writer.narrowest v).1 =
      .int <$> intPayload (Writer.narrowest v).1 0 .long "int" :=
    Writer.narrowest_elim (motive := fun p =>
      payloadWithin (levels + 1) p.1 = .int <$> intPayload p.1 0 .long "int")
      (fun _ => rfl) (fun _ => rfl) (fun _ _ => rfl) (fun _ _ => rfl) (fun _ => rfl)
  rw [wireType, hint]
  exact hread.map _

theorem recoveredBy_float32 (bits : UInt32) :
    (float32 bits).RecoveredBy (payloadWithin (levels + 1)) depth := by
  refine fun rest => ((yields_rawNat (Bytes.length_ofNat 4 _)).map _).congr ?_
  rw [Bytes.toNat_ofNat_of_lt bits.toNat_lt, UInt32.ofNat_toNat]

theorem recoveredBy_float64 (bits : UInt64) :
    (float64 bits).RecoveredBy (payloadWithin (levels + 1)) depth := by
  refine fun rest => ((yields_rawNat (Bytes.length_ofNat 8 _)).map _).congr ?_
  rw [Bytes.toNat_ofNat_of_lt bits.toNat_lt, UInt64.ofNat_toNat]

theorem recoveredBy_string {s : String} (h : (Bytes.ofText s).length < 2 ^ 32) :
    (string s).RecoveredBy (payloadWithin (levels + 1)) depth := by
  intro rest
  -- Either layout is a length and as many bytes, which are the text again.
  have htext (width : Nat) (hlt : (Bytes.ofText s).length < 256 ^ width) :
      Yields (do take (← rawNat width)) depth
        (Bytes.ofNat width (Bytes.ofText s).length ++ Bytes.ofText s) rest (Bytes.ofText s) :=
    yields_rawNat_bind hlt (yields_take rfl)
  rw [wireType, Tree.payload]
  unfold textLayout
  split
  · refine ((htext 1 ‹_›).bind_pure _).congr ?_
    rw [Bytes.text?_ofText]
  · refine ((htext 4 h).bind_pure _).congr ?_
    rw [Bytes.text?_ofText]

theorem recoveredBy_bytes {bs : Bytes} (h : bs.length < 2 ^ 31) :
    (bytes bs).RecoveredBy (payloadWithin (levels + 1)) depth :=
  fun _ => (yields_simpleListPayload h).map _

/-! ## Containers -/

/-- The elements of a list, one after another. -/
theorem yields_replicate_writeElements {vs : List Tree}
    (h : ∀ v ∈ vs, v.RecoveredBy payload depth) :
    Yields (replicate (do payload (← head).type) vs.length) depth (writeElements vs) rest vs := by
  induction vs with
  | nil => exact yields_pure []
  | cons v vs ih =>
    rw [List.forall_mem_cons] at h
    exact ((yields_head _ _).bind (h.1 _)).replicate_succ (ih h.2)

/-- The pairs of a map, one after another. -/
theorem yields_replicate_writePairs {ps : List (Tree × Tree)}
    (h : ∀ p ∈ ps, p.1.RecoveredBy payload depth ∧ p.2.RecoveredBy payload depth) :
    Yields (replicate (do
        let key ← payload (← head).type
        let value ← payload (← head).type
        pure (key, value)) ps.length) depth (writePairs ps) rest ps := by
  induction ps with
  | nil => exact yields_pure []
  | cons p ps ih =>
    rw [List.forall_mem_cons] at h
    obtain ⟨k, v⟩ := p
    have hvalue : Yields (do pure (k, ← payload (← head).type)) depth (v.write 1)
        (writePairs ps ++ rest) (k, v) :=
      (yields_head _ _).bind ((h.1.2 _).bind_pure (k, ·))
    have hpair : Yields (do
        let key ← payload (← head).type
        let value ← payload (← head).type
        pure (key, value)) depth (k.write 0 ++ v.write 1) (writePairs ps ++ rest) (k, v) := by
      rw [write, List.append_assoc]
      exact (yields_head _ _).bind ((h.1.1 _).bind hvalue)
    have hall := hpair.replicate_succ (ih h.2)
    rwa [List.append_assoc] at hall

/-- A field, and those that come after it. -/
theorem RecoveredBy.yields_cons {v : Tree} {bs : Bytes} {more : Read (List (Tag × Tree))}
    {fs : List (Tag × Tree)} (hv : v.RecoveredBy payload depth) (tag : Tag)
    (hmore : Yields more depth bs rest fs) :
    Yields (do
        let h ← head
        if h.type = .structEnd then pure []
        else do
          let v ← payload h.type
          let rest ← more
          pure ((h.tag, v) :: rest)) depth (v.write tag ++ bs) rest ((tag, v) :: fs) := by
  rw [write, List.append_assoc]
  refine (yields_head _ tag).bind ?_
  rw [if_neg (wireType_ne_structEnd v)]
  exact (hv _).bind (hmore.bind_pure ((tag, v) :: ·))

/-- The fields of a struct and its end. Every turn consumes a field. -/
theorem yields_structFields_writeFields {fs : List (Tag × Tree)} {turns : Nat}
    (h : ∀ f ∈ fs, f.2.RecoveredBy payload depth) (hturns : fs.length < turns) :
    Yields (structFields payload turns) depth (writeFields fs ++ Writer.head .structEnd 0)
      rest fs := by
  induction fs generalizing turns with
  | nil =>
    obtain ⟨turns, rfl⟩ := Nat.exists_eq_add_one.2 hturns
    exact List.append_nil (Writer.head .structEnd 0) ▸
      (yields_head .structEnd 0).bind (yields_pure [])
  | cons f fs ih =>
    obtain ⟨turns, rfl⟩ := Nat.exists_eq_add_one.2 (Nat.zero_lt_of_lt hturns)
    rw [List.forall_mem_cons] at h
    rw [List.length_cons] at hturns
    have hfield := h.1.yields_cons f.1 (ih h.2 (by omega : fs.length < turns))
    rw [← List.append_assoc] at hfield
    exact hfield

theorem recoveredBy_list {vs : List Tree} (hn : vs.length < 2 ^ 31)
    (h : ∀ v ∈ vs, v.RecoveredBy (payloadWithin levels) depth) :
    (list vs).RecoveredBy (payloadWithin (levels + 1)) depth :=
  fun _ => (yields_length_append hn (length_le_writeElements vs)).bind
    ((yields_replicate_writeElements h).bind_pure list)

theorem recoveredBy_map {ps : List (Tree × Tree)} (hn : ps.length < 2 ^ 31)
    (h : ∀ p ∈ ps, p.1.RecoveredBy (payloadWithin levels) depth ∧
      p.2.RecoveredBy (payloadWithin levels) depth) :
    (map ps).RecoveredBy (payloadWithin (levels + 1)) depth := by
  intro rest
  have hroom := length_le_writePairs ps
  exact (yields_length_append hn (by omega)).bind
    ((yields_replicate_writePairs h).bind_pure map)

theorem recoveredBy_struct {fs : List (Tag × Tree)}
    (h : ∀ f ∈ fs, f.2.RecoveredBy (payloadWithin levels) depth) :
    (struct fs).RecoveredBy (payloadWithin (levels + 1)) depth := by
  intro rest pos
  have hturns := length_lt_writeFields_end fs rest
  exact (yields_structFields_writeFields h hturns).bind_pure struct pos

/-- Fields up to the end of the bytes, one turn for each. -/
theorem yields_fieldsWithin_writeFields {fs : List (Tag × Tree)} {turns : Nat}
    (h : ∀ f ∈ fs, f.2.RecoveredBy (payloadWithin maxNesting) depth)
    (hturns : fs.length ≤ turns) :
    Yields (fieldsWithin turns) depth (writeFields fs) [] fs := by
  induction fs generalizing turns with
  | nil =>
    cases turns with
    | zero => exact yields_pure []
    | succ turns => exact fun _ => rfl
  | cons f fs ih =>
    obtain ⟨turns, rfl⟩ := Nat.exists_eq_add_one.2 (Nat.lt_of_lt_of_le (Nat.succ_pos _) hturns)
    rw [List.forall_mem_cons] at h
    rw [List.length_cons] at hturns
    have hfield := h.1.yields_cons f.1 (ih h.2 (by omega : fs.length ≤ turns))
    intro pos
    have hempty : (writeFields (f :: fs) ++ []).isEmpty = false := by
      rw [writeFields, List.append_assoc, List.append_assoc]
      exact isEmpty_head_append _ _ _
    rw [fieldsWithin, get_bind, hempty, if_neg Bool.false_ne_true]
    exact hfield pos

end Tree

/-! ## Values -/

namespace Schema

open TaggedRpc.Wire.Tree

variable {σ : Schema} {depth : Nat}

mutual

/-- The payload of a value is recovered, where the levels that are left are as many as its
    height. -/
theorem recoveredBy_erase : ∀ {v : Val} {t : Ty} {levels : Nat}, σ.Writable t v →
    v.height ≤ levels → (σ.erase t v).RecoveredBy (payloadWithin levels) depth
  | .bool v, .bool, levels + 1, _, _ => recoveredBy_int (by cases v <;> decide)
  | .int v, .int t, levels + 1, h, _ => by
    rw [Writable] at h
    exact recoveredBy_int (by cases t <;> exact h.mono (by decide) (by decide))
  | .float32 bits, .float32, levels + 1, _, _ => by
    rw [erase]
    split
    · exact recoveredBy_int (by decide)
    · exact recoveredBy_float32 bits
  | .float64 bits, .float64, levels + 1, _, _ => by
    rw [erase]
    split
    · exact recoveredBy_int (by decide)
    · exact recoveredBy_float64 bits
  | .string s, .string, levels + 1, h, _ => recoveredBy_string (by rwa [Writable] at h)
  | .bytes bs, .bytes _, levels + 1, h, _ => recoveredBy_bytes (by rwa [Writable] at h)
  | .list vs, .list t, levels + 1, h, hl => by
    rw [Writable] at h
    exact recoveredBy_list (by rw [length_eraseAll]; exact h.1)
      (recoveredBy_of_mem_eraseAll h.2 (Nat.le_of_succ_le_succ hl))
  | .map ps, .map k v, levels + 1, h, hl => by
    rw [Writable] at h
    exact recoveredBy_map (by rw [length_erasePairs]; exact h.1)
      (recoveredBy_of_mem_erasePairs h.2 (Nat.le_of_succ_le_succ hl))
  | .struct vs, .struct name, levels + 1, h, hl => by
    rw [Writable] at h
    exact recoveredBy_struct (recoveredBy_of_mem_eraseFields h (Nat.le_of_succ_le_succ hl))

theorem recoveredBy_of_mem_eraseAll : ∀ {vs : List Val} {t : Ty} {levels : Nat},
    σ.WritableAll t vs → Val.heightAll vs ≤ levels →
    ∀ v ∈ σ.eraseAll t vs, v.RecoveredBy (payloadWithin levels) depth
  | [], _, _, _, _ => List.forall_mem_nil _
  | _ :: _, _, _, h, hl => by
    rw [WritableAll] at h
    rw [Val.heightAll, Nat.max_le] at hl
    exact List.forall_mem_cons.2
      ⟨recoveredBy_erase h.1 hl.1, recoveredBy_of_mem_eraseAll h.2 hl.2⟩

theorem recoveredBy_of_mem_erasePairs : ∀ {ps : List (Val × Val)} {kt vt : Ty} {levels : Nat},
    σ.WritablePairs kt vt ps → Val.heightPairs ps ≤ levels →
    ∀ p ∈ σ.erasePairs kt vt ps, p.1.RecoveredBy (payloadWithin levels) depth ∧
      p.2.RecoveredBy (payloadWithin levels) depth
  | [], _, _, _, _, _ => List.forall_mem_nil _
  | (_, _) :: _, _, _, _, h, hl => by
    rw [WritablePairs] at h
    rw [Val.heightPairs, Nat.max_le, Nat.max_le] at hl
    exact List.forall_mem_cons.2
      ⟨⟨recoveredBy_erase h.1 hl.1.1, recoveredBy_erase h.2.1 hl.1.2⟩,
        recoveredBy_of_mem_erasePairs h.2.2 hl.2⟩

theorem recoveredBy_of_mem_eraseFields : ∀ {vs : List Val} {fs : Layout} {levels : Nat},
    σ.WritableFields fs vs → Val.heightAll vs ≤ levels →
    ∀ f ∈ σ.eraseFields fs vs, f.2.RecoveredBy (payloadWithin levels) depth
  | [], [], _, _, _ => List.forall_mem_nil _
  | _ :: _, _ :: _, _, h, hl => by
    rw [WritableFields] at h
    rw [Val.heightAll, Nat.max_le] at hl
    exact List.forall_mem_cons.2
      ⟨recoveredBy_erase h.1 hl.1, recoveredBy_of_mem_eraseFields h.2 hl.2⟩

end

/-- Fields that were written at any types read back without them, one for each that was
    written, in the same order: each with its tag, and with the erasure of its value. -/
theorem ofBytes_encodeAll {fs : List Written} (h : ∀ f ∈ fs, σ.Writable f.type f.value)
    (hheight : ∀ f ∈ fs, f.value.height ≤ maxNesting) :
    Tree.ofBytes (σ.encodeAll fs) = .ok (fs.map fun f => (f.tag, σ.erase f.type f.value)) := by
  have hfields : ∀ f ∈ fs.map σ.eraseField, f.2.RecoveredBy (payloadWithin maxNesting) 0 :=
    List.forall_mem_map.2 fun f hf => recoveredBy_erase (h f hf) (hheight f hf)
  have hroom := length_le_writeFields (fs.map σ.eraseField)
  have hread := yields_fieldsWithin_writeFields hfields hroom 0
  rw [List.append_nil] at hread
  rw [encodeAll_eq_writeFields h, Tree.ofBytes, Read.runOn, Reader.ofBytes, readFields, get_bind,
    hread]
  rfl

/-- A map that has both zeros as keys. -/
def bothZeros : Written :=
  ⟨2, .map .float64 .bool,
    .map [(.float64 0x8000000000000000, .bool true), (.float64 0, .bool false)]⟩

/-- The fields of a departure, and behind them one with a lower tag, the keys of which go
    on the wire alike. -/
theorem ofBytes_encodeAll_departure :
    Tree.ofBytes (station.encodeAll (departure ++ [bothZeros])) =
      .ok [(1, .struct [(2, .int 0),
          (15, .map [(.string "b", .int 128), (.string "a", .int 65535)]),
          (255, .list [.struct [(2, .float64 1), (15, .map []), (255, .list [])]])]),
        (3, .int (-1)), (20, .string "x"), (21, .bytes [11, 11]),
        (2, .map [(.int 0, .int 1), (.int 0, .int 0)])] := by
  have hzeros : station.Writable bothZeros.type bothZeros.value := by
    simp [bothZeros, Writable, WritablePairs]
  have hwritable : ∀ f ∈ departure ++ [bothZeros], station.Writable f.type f.value :=
    List.forall_mem_append.2
      ⟨fun f hf => (fitsAt_departure f hf).fits.writable, List.forall_mem_singleton.2 hzeros⟩
  exact (ofBytes_encodeAll hwritable (by decide)).trans (by rfl)

end Schema

end TaggedRpc.Wire
