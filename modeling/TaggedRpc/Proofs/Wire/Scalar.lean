import TaggedRpc.Proofs.Wire.Integer

/-!
# Floats, texts and byte sequences on the wire

A float goes as its bits, but a zero float goes as the number zero and so loses
its sign. A text goes after its length in one byte or in four, a byte sequence
after its length as an integer. Each of them reads back as it was written, the
sign of a zero aside.
-/

namespace TaggedRpc

namespace Float

/-- The bits of a float of 32 bits, with negative zero made positive. -/
def positiveZero32 (bits : UInt32) : UInt32 := if bits = 0x80000000 then 0 else bits

/-- The bits of a float of 64 bits, with negative zero made positive. -/
def positiveZero64 (bits : UInt64) : UInt64 := if bits = 0x8000000000000000 then 0 else bits

/-- A float whose bits but the sign are zero is one of the two zeros. -/
theorem positiveZero32_eq (bits : UInt32) :
    positiveZero32 bits = if bits.toNat % 2 ^ 31 = 0 then 0 else bits := by
  have hlt : bits.toNat < 2 ^ 32 := bits.toNat_lt
  have hsign : bits = 0x80000000 ↔ bits.toNat = 2 ^ 31 := by rw [← UInt32.toNat_inj]; rfl
  have hzero : bits = 0 ↔ bits.toNat = 0 := by rw [← UInt32.toNat_inj]; rfl
  unfold positiveZero32
  by_cases h : bits.toNat = 2 ^ 31
  · rw [if_pos (hsign.2 h), if_pos (by omega)]
  · rw [if_neg (mt hsign.1 h)]
    split
    · exact hzero.2 (by omega)
    · rfl

theorem positiveZero64_eq (bits : UInt64) :
    positiveZero64 bits = if bits.toNat % 2 ^ 63 = 0 then 0 else bits := by
  have hlt : bits.toNat < 2 ^ 64 := bits.toNat_lt
  have hsign : bits = 0x8000000000000000 ↔ bits.toNat = 2 ^ 63 := by
    rw [← UInt64.toNat_inj]; rfl
  have hzero : bits = 0 ↔ bits.toNat = 0 := by rw [← UInt64.toNat_inj]; rfl
  unfold positiveZero64
  by_cases h : bits.toNat = 2 ^ 63
  · rw [if_pos (hsign.2 h), if_pos (by omega)]
  · rw [if_neg (mt hsign.1 h)]
    split
    · exact hzero.2 (by omega)
    · rfl

end Float

namespace Wire.Read

variable {depth : Nat} {rest : Bytes} {tag : Tag} {required : Bool}

/-! ## Truth values -/

theorem yields_bool (v : Bool) :
    Yields (bool tag required) depth (Writer.bool v tag) rest (some v) := by
  have hv : IntType.int8.Holds v.toNat := by cases v <;> decide
  have hwrite : Writer.bool v tag = Writer.integer v.toNat tag := by
    rw [Writer.bool, Writer.int8_eq_integer]
    cases v <;> rfl
  rw [hwrite]
  refine ((yields_intField hv Int8.ofInt).bind_pure (Option.map (· != 0))).congr ?_
  cases v <;> rfl

/-! ## Floats -/

theorem yields_float32 (bits : UInt32) :
    Yields (float32 tag required) depth (Writer.float32 bits tag) rest
      (some (Float.positiveZero32 bits)) := by
  rw [Float.positiveZero32_eq, Writer.float32]
  split
  · rw [← List.append_nil (Writer.head .zero tag)]
    exact .field nofun (yields_pure 0)
  · refine .field nofun (((yields_rawNat (Bytes.length_ofNat 4 _)).map UInt32.ofNat).congr ?_)
    rw [Bytes.toNat_ofNat_of_lt bits.toNat_lt, UInt32.ofNat_toNat]

theorem yields_float64 (bits : UInt64) :
    Yields (float64 tag required) depth (Writer.float64 bits tag) rest
      (some (Float.positiveZero64 bits)) := by
  rw [Float.positiveZero64_eq, Writer.float64]
  split
  · rw [← List.append_nil (Writer.head .zero tag)]
    exact .field nofun (yields_pure 0)
  · refine .field nofun (((yields_rawNat (Bytes.length_ofNat 8 _)).map UInt64.ofNat).congr ?_)
    rw [Bytes.toNat_ofNat_of_lt bits.toNat_lt, UInt64.ofNat_toNat]

/-! ## Texts -/

/-- What is read after a length in some bytes may depend on the length. -/
theorem yields_rawNat_bind {α : Type} {f : Nat → Read α} {width n : Nat} {bs : Bytes} {a : α}
    (hn : n < 256 ^ width) (h : Yields (f n) depth bs rest a) :
    Yields (do f (← rawNat width)) depth (Bytes.ofNat width n ++ bs) rest a := by
  refine (yields_rawNat (Bytes.length_ofNat width n)).bind ?_
  rwa [Bytes.toNat_ofNat_of_lt hn]

/-- A text whose payload is read, after the head for that layout. -/
theorem yields_string_of_payload {s : String} {ty : WireType} {bs : Bytes} (hty : ty ≠ .structEnd)
    (h : Yields (stringPayload ty tag) depth bs rest (Bytes.ofText s)) :
    Yields (string tag required) depth (Writer.head ty tag ++ bs) rest (some s) := by
  refine .field hty (List.append_nil bs ▸ h.bind ?_)
  rw [Bytes.text?_ofText]
  exact yields_pure s

theorem yields_string {s : String} (h : (Bytes.ofText s).length < 2 ^ 32) :
    Yields (string tag required) depth (Writer.string s tag) rest (some s) := by
  rw [Writer.string]
  split
  · rw [List.append_assoc]
    exact yields_string_of_payload nofun (yields_rawNat_bind ‹_› (yields_take rfl))
  · rw [List.append_assoc]
    exact yields_string_of_payload nofun (yields_rawNat_bind h (yields_take rfl))

/-! ## Byte sequences -/

theorem yields_simpleListPayload {bs : Bytes} (h : bs.length < 2 ^ 31) :
    Yields (simpleListPayload tag) depth
      (Writer.head .byte 0 ++ (Writer.int32 (Int32.ofNat bs.length) 0 ++ bs)) rest bs := by
  refine (yields_head .byte 0).bind ?_
  rw [if_neg (by simp)]
  exact (yields_length h (by simp)).bind (yields_take rfl)

theorem yields_bytes {bs : Bytes} (h : bs.length < 2 ^ 31) :
    Yields (bytes tag required) depth (Writer.bytes bs tag) rest (some bs) :=
  .field nofun (yields_simpleListPayload h)

end Wire.Read

end TaggedRpc
