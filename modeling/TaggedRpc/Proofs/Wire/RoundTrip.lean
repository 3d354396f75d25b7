import TaggedRpc.Proofs.Wire.Erasure

/-!
# Typed fields read back

What a value of a type writes, a reader of the type reads back as the settled
value, and stands at the first byte behind it (`yields_decodeWith`). The depth
that a reader may go to has to allow the structs of the value, which are the only
containers that reading by a type counts.
-/

namespace TaggedRpc.Wire.Schema

open Read

variable {σ : Schema}

/-- Every element of a list takes at least one byte. -/
theorem length_le_encodeElements {t : Ty} {vs : List Val} (h : σ.FitsAll t vs) :
    vs.length ≤ (σ.encodeElements t vs).length := by
  rw [encodeElements_eq_write h.writable, ← length_eraseAll σ t vs]
  exact Tree.length_le_writeElements _

/-- Every pair of a map takes at least one byte. -/
theorem length_le_encodePairs {kt vt : Ty} {ps : List (Val × Val)} (h : σ.FitsPairs kt vt ps) :
    ps.length ≤ (σ.encodePairs kt vt ps).length := by
  have := Tree.length_le_writePairs (σ.erasePairs kt vt ps)
  rw [length_erasePairs] at this
  rw [encodePairs_eq_write h.writable]
  omega

mutual

/-- A value reads back, where the levels that are left hold its structs. -/
theorem yields_decodeWith : ∀ {v : Val} {t : Ty} {tag : Tag} {required : Bool}
    {levels depth : Nat} {rest : Bytes}, σ.Fits t v → v.structs ≤ levels →
    depth + v.structs ≤ maxNesting →
    Yields (σ.decodeWith (σ.decodeFieldsWithin levels) t tag required) depth (σ.encode t v tag)
      rest v.settled
  | .bool v, .bool, _, _, _, _, _, _, _, _ =>
    (yields_bool v).bind_pure fun b => Val.bool (b.getD false)
  | .int v, .int t, _, _, _, _, _, h, _, _ => by
    rw [Fits] at h
    rw [encode, encodeInt_eq_integer h]
    exact (yields_decodeInt h).bind_pure fun n => Val.int (n.getD 0)
  | .float32 bits, .float32, _, _, _, _, _, _, _, _ =>
    (yields_float32 bits).bind_pure fun b => Val.float32 (b.getD 0)
  | .float64 bits, .float64, _, _, _, _, _, _, _, _ =>
    (yields_float64 bits).bind_pure fun b => Val.float64 (b.getD 0)
  | .string s, .string, _, _, _, _, _, h, _, _ => by
    rw [Fits] at h
    exact (yields_string h).bind_pure fun s => Val.string (s.getD "")
  | .bytes bs, .bytes _, _, _, _, _, _, h, _, _ => by
    rw [Fits] at h
    exact (yields_bytes h).bind_pure fun bs => Val.bytes (bs.getD [])
  | .list vs, .list t, tag, required, levels, depth, rest, h, hl, hd => by
    rw [Fits] at h
    -- A count is refused if fewer bytes than that are left, and there never are fewer.
    have hheader : Yields (listLength tag required) depth (Writer.listHeader vs.length tag)
        (σ.encodeElements t vs ++ rest) (some vs.length) :=
      .field nofun (yields_length_append h.1 (length_le_encodeElements h.2))
    exact hheader.bind ((yields_decodeElements h.2 hl hd).bind_pure Val.list)
  | .map ps, .map kt vt, tag, required, levels, depth, rest, h, hl, hd => by
    rw [Fits] at h
    have hheader : Yields (mapLength tag required) depth (Writer.mapHeader ps.length tag)
        (σ.encodePairs kt vt ps ++ rest) (some ps.length) :=
      .field nofun (yields_length_append h.1 (length_le_encodePairs h.2.2))
    exact hheader.bind ((yields_decodePairs h.2.2 hl hd).bind_pure fun ps =>
      Val.map (Val.ofPairs ps))
  | .struct vs, .struct name, tag, required, levels, depth, rest, h, hl, hd => by
    rw [Fits] at h
    rw [Val.structs, Val.nesting] at hl hd
    -- The struct itself takes one of the levels.
    obtain ⟨inner, rfl⟩ : ∃ inner, levels = inner + 1 := ⟨levels - 1, by omega⟩
    have hfields : Yields (decodeAll (fun f =>
        σ.decodeWith (σ.decodeFieldsWithin inner) f.type f.tag f.required) (σ.layout name))
        (depth + 1) (σ.encodeFields (σ.layout name) vs) (Writer.head .structEnd 0 ++ rest)
        (Val.settledAll vs) :=
      yields_decodeAll h (by omega) (by omega)
    exact yields_enterStruct.bind
      (yields_nested (by omega) (hfields.bind_pure Val.struct) yields_skipToStructEnd)

theorem yields_decodeElements : ∀ {vs : List Val} {t : Ty} {levels depth : Nat} {rest : Bytes},
    σ.FitsAll t vs → Val.nestingAll false vs ≤ levels →
    depth + Val.nestingAll false vs ≤ maxNesting →
    Yields (replicate (σ.decodeWith (σ.decodeFieldsWithin levels) t 0 true) vs.length) depth
      (σ.encodeElements t vs) rest (Val.settledAll vs)
  | [], _, _, _, _, _, _, _ => yields_pure []
  | v :: vs, t, levels, depth, rest, h, hl, hd => by
    rw [FitsAll] at h
    rw [Val.nestingAll, Nat.max_le] at hl
    rw [Val.nestingAll, ← Nat.add_max_add_left, Nat.max_le] at hd
    exact (yields_decodeWith h.1 hl.1 hd.1).replicate_succ (yields_decodeElements h.2 hl.2 hd.2)

theorem yields_decodePairs : ∀ {ps : List (Val × Val)} {kt vt : Ty} {levels depth : Nat}
    {rest : Bytes}, σ.FitsPairs kt vt ps → Val.nestingPairs false ps ≤ levels →
    depth + Val.nestingPairs false ps ≤ maxNesting →
    Yields (replicate (do
        let key ← σ.decodeWith (σ.decodeFieldsWithin levels) kt 0 true
        let value ← σ.decodeWith (σ.decodeFieldsWithin levels) vt 1 true
        pure (key, value)) ps.length) depth
      (σ.encodePairs kt vt ps) rest (Val.settledPairs ps)
  | [], _, _, _, _, _, _, _, _ => yields_pure []
  | (k, v) :: ps, kt, vt, levels, depth, rest, h, hl, hd => by
    rw [FitsPairs] at h
    rw [Val.nestingPairs, Nat.max_le, Nat.max_le] at hl
    rw [Val.nestingPairs, ← Nat.add_max_add_left, ← Nat.add_max_add_left, Nat.max_le,
      Nat.max_le] at hd
    have hpair : Yields (do
        let key ← σ.decodeWith (σ.decodeFieldsWithin levels) kt 0 true
        let value ← σ.decodeWith (σ.decodeFieldsWithin levels) vt 1 true
        pure (key, value)) depth (σ.encode kt k 0 ++ σ.encode vt v 1)
        (σ.encodePairs kt vt ps ++ rest) (k.settled, v.settled) :=
      (yields_decodeWith h.1 hl.1.1 hd.1.1).bind
        ((yields_decodeWith h.2.1 hl.1.2 hd.1.2).bind_pure (k.settled, ·))
    rw [encodePairs, ← List.append_assoc]
    exact hpair.replicate_succ (yields_decodePairs h.2.2 hl.2 hd.2)

theorem yields_decodeAll : ∀ {vs : List Val} {fs : Layout} {levels depth : Nat} {rest : Bytes},
    σ.FitsFields fs vs → Val.nestingAll false vs ≤ levels →
    depth + Val.nestingAll false vs ≤ maxNesting →
    Yields (decodeAll (fun f =>
        σ.decodeWith (σ.decodeFieldsWithin levels) f.type f.tag f.required) fs) depth
      (σ.encodeFields fs vs) rest (Val.settledAll vs)
  | [], [], _, _, _, _, _, _ => yields_pure []
  | v :: vs, f :: fs, levels, depth, rest, h, hl, hd => by
    rw [FitsFields] at h
    rw [Val.nestingAll, Nat.max_le] at hl
    rw [Val.nestingAll, ← Nat.add_max_add_left, Nat.max_le] at hd
    exact (yields_decodeWith h.1 hl.1 hd.1).bind
      ((yields_decodeAll h.2 hl.2 hd.2).bind_pure (v.settled :: ·))

end

variable {v : Val} {t : Ty} {depth : Nat}

/-- A value reads back inside some containers, if there is room for its structs. -/
theorem yields_decode {tag : Tag} {required : Bool} {rest : Bytes} (h : σ.Fits t v)
    (hd : depth + v.structs ≤ maxNesting) :
    Yields (σ.decode t tag required) depth (σ.encode t v tag) rest v.settled :=
  -- The levels that are left depend on the depth at which the field is read.
  fun pos => yields_decodeWith h (show v.structs ≤ maxNesting - depth by omega) hd pos

/-- A value that fits its type reads back from its own bytes as the same value,
    whatever follows them, and the reader stands at the first byte behind. -/
theorem decode_encode (tag : Tag) (rest : Bytes) (h : σ.Fits t v)
    (hstructs : v.structs ≤ maxNesting) :
    σ.decode t tag true (Reader.ofBytes (σ.encode t v tag ++ rest)) =
        .ok v.settled ⟨rest, (σ.encode t v tag).length, 0⟩ ∧
      v.Alike v.settled := by
  have hread : Yields (σ.decode t tag true) 0 (σ.encode t v tag) rest v.settled :=
    yields_decode h (by omega)
  have hstart := hread 0
  rw [Nat.zero_add] at hstart
  exact ⟨hstart, Val.alike_settled h⟩

/-! ## Stations -/

/-- A schema with a struct that holds a list of itself. -/
def station : Schema :=
  [("Station", [⟨"load", 2, true, .float64⟩, ⟨"ports", 15, false, .map .string (.int .uint16)⟩,
    ⟨"next", 255, false, .list (.struct "Station")⟩])]

/-- A station with a negative zero and ports out of order, before one without ports. -/
def terminus : Val :=
  .struct [.float64 0x8000000000000000, .map [(.string "b", .int 128), (.string "a", .int 65535)],
    .list [.struct [.float64 1, .map [], .list []]]]

theorem fits_terminus : station.Fits (.struct "Station") terminus := by
  simp [station, terminus, layout, Fits, FitsFields, FitsPairs, FitsAll, Val.settled,
    Val.settledPairs]
  decide

theorem decode_encode_terminus :
    station.decode (.struct "Station") 200 true
        (Reader.ofBytes (station.encode (.struct "Station") terminus 200 ++ [12])) =
      .ok (.struct [.float64 0, .map [(.string "a", .int 65535), (.string "b", .int 128)],
        .list [.struct [.float64 1, .map [], .list []]]]) ⟨[12], 43, 0⟩ :=
  (decode_encode 200 [12] fits_terminus (by decide)).1.trans (by rfl)

end TaggedRpc.Wire.Schema
