import TaggedRpc.Wire.Schema
import TaggedRpc.Proofs.Bytes
import TaggedRpc.Proofs.Wire.Yields

/-!
# Integers on the wire

Every integer goes in the narrowest of five layouts that holds it as a signed
number: zero in no bytes at all, and others in 1, 2, 4 or 8. The type that it
was written at does not show (`encodeInt_eq_integer`), and a reader that takes
layouts up to some width gets back every number that fits it
(`yields_intPayload`).

* `IntType.Holds`: the numbers of a type;
* `Writer.integer`: an integer in its narrowest layout;
* `yields_decodeInt`: an integer written at its type reads back at that type;
* `yields_length`: so does the count of a container, if the bytes left allow it.
-/

namespace TaggedRpc.Wire

/-! ## Ranges -/

namespace IntType

/-- The least number of a type. -/
def least : IntType → Int
  | int8 => -128
  | int16 => -32768
  | int32 => -2147483648
  | int64 => -9223372036854775808
  | uint8 | uint16 | uint32 => 0

/-- The greatest number of a type. -/
def greatest : IntType → Int
  | int8 => 127
  | int16 => 32767
  | int32 => 2147483647
  | int64 => 9223372036854775807
  | uint8 => 255
  | uint16 => 65535
  | uint32 => 4294967295

/-- A number is one of a type. -/
def Holds (t : IntType) (v : Int) : Prop := t.least ≤ v ∧ v ≤ t.greatest

instance (t : IntType) (v : Int) : Decidable (t.Holds v) :=
  inferInstanceAs (Decidable (_ ∧ _))

theorem Holds.mono {t u : IntType} {v : Int} (h : t.Holds v) (hl : u.least ≤ t.least)
    (hg : t.greatest ≤ u.greatest) : u.Holds v :=
  ⟨Int.le_trans hl h.1, Int.le_trans h.2 hg⟩

end IntType

/-! ## Writing -/

namespace Writer

/-- The narrowest layout of a signed number, and its payload there. -/
def narrowest (v : Int) : WireType × Bytes :=
  if v = 0 then (.zero, [])
  else if IntType.int8.Holds v then (.byte, Bytes.ofInt 1 v)
  else if IntType.int16.Holds v then (.short, Bytes.ofInt 2 v)
  else if IntType.int32.Holds v then (.int, Bytes.ofInt 4 v)
  else (.long, Bytes.ofInt 8 v)

/-- A number in its narrowest layout. -/
def integer (v : Int) (tag : Tag) : Bytes := head (narrowest v).1 tag ++ (narrowest v).2

/-- What holds of the layout of every range holds of the narrowest layout. -/
theorem narrowest_elim {v : Int} {motive : WireType × Bytes → Prop}
    (zero : v = 0 → motive (.zero, []))
    (byte : IntType.int8.Holds v → motive (.byte, Bytes.ofInt 1 v))
    (short : ¬IntType.int8.Holds v → IntType.int16.Holds v → motive (.short, Bytes.ofInt 2 v))
    (int : ¬IntType.int16.Holds v → IntType.int32.Holds v → motive (.int, Bytes.ofInt 4 v))
    (long : ¬IntType.int32.Holds v → motive (.long, Bytes.ofInt 8 v)) : motive (narrowest v) := by
  unfold narrowest
  split
  · exact zero ‹_›
  split
  · exact byte ‹_›
  split
  · exact short ‹_› ‹_›
  split
  · exact int ‹_› ‹_›
  · exact long ‹_›

theorem int8_eq_integer (v : Int8) (tag : Tag) : int8 v tag = integer v.toInt tag := by
  have h0 : v = 0 ↔ v.toInt = 0 := by rw [← Int8.toInt_inj]; rfl
  have hfit : IntType.int8.Holds v.toInt := ⟨v.le_toInt, Int.le_of_lt_add_one v.toInt_lt⟩
  rw [int8, integer, narrowest, if_pos hfit]
  by_cases h : v.toInt = 0
  · rw [if_pos (h0.2 h), if_pos h, List.append_nil]
  · rw [if_neg (mt h0.1 h), if_neg h]

theorem int16_eq_integer (v : Int16) (tag : Tag) : int16 v tag = integer v.toInt tag := by
  have hiff : (-128 ≤ v ∧ v ≤ 127) ↔ IntType.int8.Holds v.toInt := by
    rw [Int16.le_iff_toInt_le, Int16.le_iff_toInt_le]; rfl
  have hfit : IntType.int16.Holds v.toInt := ⟨v.le_toInt, Int.le_of_lt_add_one v.toInt_lt⟩
  -- What the narrower type holds is left to its writer, as the same number.
  rw [int16]
  by_cases h : IntType.int8.Holds v.toInt
  · have hback : v.toInt8.toInt = v.toInt := by
      obtain ⟨hl, hu⟩ := h
      rw [Int16.toInt_toInt8, Int.bmod_eq_of_le_mul_two] <;>
        simp only [IntType.least, IntType.greatest] at * <;> omega
    rw [if_pos (hiff.2 h), int8_eq_integer, hback]
  · have h0 : v.toInt ≠ 0 := fun h0 => h (h0 ▸ by decide)
    rw [if_neg (mt hiff.1 h), integer, narrowest, if_neg h0, if_neg h, if_pos hfit]

theorem int32_eq_integer (v : Int32) (tag : Tag) : int32 v tag = integer v.toInt tag := by
  have hiff : (-32768 ≤ v ∧ v ≤ 32767) ↔ IntType.int16.Holds v.toInt := by
    rw [Int32.le_iff_toInt_le, Int32.le_iff_toInt_le]; rfl
  have hfit : IntType.int32.Holds v.toInt := ⟨v.le_toInt, Int.le_of_lt_add_one v.toInt_lt⟩
  rw [int32]
  by_cases h : IntType.int16.Holds v.toInt
  · have hback : v.toInt16.toInt = v.toInt := by
      obtain ⟨hl, hu⟩ := h
      rw [Int32.toInt_toInt16, Int.bmod_eq_of_le_mul_two] <;>
        simp only [IntType.least, IntType.greatest] at * <;> omega
    rw [if_pos (hiff.2 h), int16_eq_integer, hback]
  · have h0 : v.toInt ≠ 0 := fun h0 => h (h0 ▸ by decide)
    have h8 : ¬IntType.int8.Holds v.toInt := fun h8 => h (h8.mono (by decide) (by decide))
    rw [if_neg (mt hiff.1 h), integer, narrowest, if_neg h0, if_neg h8, if_neg h, if_pos hfit]

theorem int64_eq_integer (v : Int64) (tag : Tag) : int64 v tag = integer v.toInt tag := by
  have hiff : (-2147483648 ≤ v ∧ v ≤ 2147483647) ↔ IntType.int32.Holds v.toInt := by
    rw [Int64.le_iff_toInt_le, Int64.le_iff_toInt_le]; rfl
  rw [int64]
  by_cases h : IntType.int32.Holds v.toInt
  · have hback : v.toInt32.toInt = v.toInt := by
      obtain ⟨hl, hu⟩ := h
      rw [Int64.toInt_toInt32, Int.bmod_eq_of_le_mul_two] <;>
        simp only [IntType.least, IntType.greatest] at * <;> omega
    rw [if_pos (hiff.2 h), int32_eq_integer, hback]
  · have h0 : v.toInt ≠ 0 := fun h0 => h (h0 ▸ by decide)
    have h16 : ¬IntType.int16.Holds v.toInt := fun h16 => h (h16.mono (by decide) (by decide))
    have h8 : ¬IntType.int8.Holds v.toInt := fun h8 => h16 (h8.mono (by decide) (by decide))
    rw [if_neg (mt hiff.1 h), integer, narrowest, if_neg h0, if_neg h8, if_neg h16, if_neg h]

end Writer

/-- The type that an integer is written at does not show. -/
theorem Schema.encodeInt_eq_integer {t : IntType} {v : Int} (h : t.Holds v) (tag : Tag) :
    encodeInt t v tag = Writer.integer v tag := by
  obtain ⟨hl, hu⟩ := h
  cases t <;> simp only [IntType.least, IntType.greatest] at hl hu
  case int8 =>
    rw [encodeInt, Writer.int8_eq_integer, Int8.toInt_ofInt_of_le] <;> omega
  case int16 =>
    rw [encodeInt, Writer.int16_eq_integer, Int16.toInt_ofInt_of_le] <;> omega
  case int32 =>
    rw [encodeInt, Writer.int32_eq_integer, Int32.toInt_ofInt_of_le] <;> omega
  case int64 =>
    rw [encodeInt, Writer.int64_eq_integer, Int64.toInt_ofInt_of_le] <;> omega
  case uint8 =>
    have hv : (UInt8.ofNat v.toNat).toNat = v.toNat := UInt8.toNat_ofNat_of_lt' (by simp; omega)
    rw [encodeInt, Writer.uint8, hv, Writer.int16_eq_integer, Int16.toInt_ofNat_of_lt (by omega),
      Int.toNat_of_nonneg hl]
  case uint16 =>
    have hv : (UInt16.ofNat v.toNat).toNat = v.toNat := UInt16.toNat_ofNat_of_lt' (by simp; omega)
    rw [encodeInt, Writer.uint16, hv, Writer.int32_eq_integer, Int32.toInt_ofNat_of_lt (by omega),
      Int.toNat_of_nonneg hl]
  case uint32 =>
    have hv : (UInt32.ofNat v.toNat).toNat = v.toNat := UInt32.toNat_ofNat_of_lt' (by simp; omega)
    rw [encodeInt, Writer.uint32, hv, Writer.int64_eq_integer, Int64.toInt_ofNat_of_lt (by omega),
      Int.toNat_of_nonneg hl]

/-! ## Reading -/

/-- The widest layout that a reader of a type takes. -/
def IntType.carrier : IntType → WireType
  | int8 => .byte
  | int16 | uint8 => .short
  | int32 | uint16 => .int
  | int64 | uint32 => .long

/-- A reader of a type takes the layouts of all its numbers. -/
theorem Writer.narrowest_le_carrier {t : IntType} {v : Int} (h : t.Holds v) :
    (narrowest v).1 = .zero ∨ (narrowest v).1.code ≤ t.carrier.code := by
  -- A layout is passed over only by a number that narrower types do not hold, so
  -- `t` is none of these.
  refine narrowest_elim (motive := fun p => p.1 = .zero ∨ p.1.code ≤ t.carrier.code)
    (fun _ => .inl rfl) (fun _ => .inr (Nat.zero_le _)) (fun h8 _ => .inr ?_) (fun h16 _ => .inr ?_)
    (fun h32 => .inr ?_)
  · show 1 ≤ t.carrier.code
    cases t <;> first | decide | exact absurd h h8
  · show 2 ≤ t.carrier.code
    cases t <;> first | decide | exact absurd (h.mono (by decide) (by decide)) h16
  · show 3 ≤ t.carrier.code
    cases t <;> first | decide | exact absurd (h.mono (by decide) (by decide)) h32

namespace Read

variable {depth : Nat} {rest : Bytes}

/-- A signed word in the balanced range of its bytes. -/
theorem yields_rawInt_ofInt {width : Nat} {v : Int} (hl : -(256 ^ width : Nat) ≤ v * 2)
    (hu : v * 2 < (256 ^ width : Nat)) :
    Yields (rawInt width) depth (Bytes.ofInt width v) rest v := by
  have h : Yields (rawInt width) depth (Bytes.ofInt width v) rest _ :=
    yields_rawInt (Bytes.length_ofInt width v)
  rwa [Bytes.toInt_ofInt hl hu] at h

/-- A number in its narrowest layout, to a reader that takes that layout. -/
theorem yields_intPayload {v : Int} {tag : Tag} {widest : WireType} {expected : String}
    (h : IntType.int64.Holds v)
    (hw : (Writer.narrowest v).1 = .zero ∨ (Writer.narrowest v).1.code ≤ widest.code) :
    Yields (intPayload (Writer.narrowest v).1 tag widest expected) depth
      (Writer.narrowest v).2 rest v := by
  revert hw
  refine Writer.narrowest_elim (motive := fun p =>
    (p.1 = .zero ∨ p.1.code ≤ widest.code) →
      Yields (intPayload p.1 tag widest expected) depth p.2 rest v) ?_ ?_ ?_ ?_ ?_
  · intro h0 _
    exact h0 ▸ yields_pure 0
  · intro ⟨hl, hu⟩ _
    simp only [IntType.least, IntType.greatest] at hl hu
    exact yields_rawInt_ofInt (by omega) (by omega)
  · intro _ ⟨hl, hu⟩ hw
    have hc : WireType.short.code ≤ widest.code := hw.resolve_left nofun
    simp only [IntType.least, IntType.greatest] at hl hu
    rw [intPayload, if_neg nofun, if_neg nofun, if_pos ⟨rfl, hc⟩]
    exact yields_rawInt_ofInt (by omega) (by omega)
  · intro _ ⟨hl, hu⟩ hw
    have hc : WireType.int.code ≤ widest.code := hw.resolve_left nofun
    simp only [IntType.least, IntType.greatest] at hl hu
    rw [intPayload, if_neg nofun, if_neg nofun, if_neg nofun, if_pos ⟨rfl, hc⟩]
    exact yields_rawInt_ofInt (by omega) (by omega)
  · intro _ hw
    have hc : WireType.long.code ≤ widest.code := hw.resolve_left nofun
    obtain ⟨hl, hu⟩ := h
    simp only [IntType.least, IntType.greatest] at hl hu
    rw [intPayload, if_neg nofun, if_neg nofun, if_neg nofun, if_neg nofun, if_pos ⟨rfl, hc⟩]
    exact yields_rawInt_ofInt (by omega) (by omega)

theorem narrowest_ne_structEnd (v : Int) : (Writer.narrowest v).1 ≠ .structEnd :=
  Writer.narrowest_elim (motive := fun p => p.1 ≠ .structEnd) (fun _ => nofun) (fun _ => nofun)
    (fun _ _ => nofun) (fun _ _ => nofun) (fun _ => nofun)

variable {tag : Tag} {required : Bool}

/-- A field that holds a number of a type, to a reader of the layouts of the type. -/
theorem yields_intField {α : Type} {t : IntType} {v : Int} {expected : String} (h : t.Holds v)
    (f : Int → α) :
    Yields (field tag required fun ty => f <$> intPayload ty tag t.carrier expected) depth
      (Writer.integer v tag) rest (some (f v)) := by
  have h64 : IntType.int64.Holds v := by
    cases t <;> exact h.mono (by decide) (by decide)
  exact .field (narrowest_ne_structEnd v)
    ((yields_intPayload h64 (Writer.narrowest_le_carrier h)).map f)

theorem yields_unsigned {v w : Int} {bound : Nat} {target : String} (hw : w = v) (hl : 0 ≤ v)
    (hu : v ≤ bound) : Yields (unsigned tag bound target (some w)) depth [] rest (some v.toNat) := by
  rw [hw, unsigned, if_pos ⟨hl, hu⟩]
  exact yields_pure _

/-- A number of a type, to a reader of the type. -/
theorem yields_decodeInt {t : IntType} {v : Int} (h : t.Holds v) :
    Yields (Schema.decodeInt tag required t) depth (Writer.integer v tag) rest (some v) := by
  have ⟨hl, hu⟩ := h
  cases t <;> simp only [IntType.least, IntType.greatest] at hl hu
  case int8 =>
    have hv : (Int8.ofInt v).toInt = v := Int8.toInt_ofInt_of_le (by omega) (by omega)
    exact ((yields_intField h Int8.ofInt).bind_pure (Option.map Int8.toInt)).congr
      (congrArg some hv)
  case int16 =>
    have hv : (Int16.ofInt v).toInt = v := Int16.toInt_ofInt_of_le (by omega) (by omega)
    exact ((yields_intField h Int16.ofInt).bind_pure (Option.map Int16.toInt)).congr
      (congrArg some hv)
  case int32 =>
    have hv : (Int32.ofInt v).toInt = v := Int32.toInt_ofInt_of_le (by omega) (by omega)
    exact ((yields_intField h Int32.ofInt).bind_pure (Option.map Int32.toInt)).congr
      (congrArg some hv)
  case int64 =>
    have hv : (Int64.ofInt v).toInt = v := Int64.toInt_ofInt_of_le (by omega) (by omega)
    exact ((yields_intField h Int64.ofInt).bind_pure (Option.map Int64.toInt)).congr
      (congrArg some hv)
  -- An unsigned word travels as a wider signed one, and is narrowed after a check.
  case uint8 =>
    have hv : (Int16.ofInt v).toInt = v := Int16.toInt_ofInt_of_le (by omega) (by omega)
    have hw : ((UInt8.ofNat v.toNat).toNat : Int) = v := by
      rw [UInt8.toNat_ofNat_of_lt' (by simp; omega), Int.toNat_of_nonneg hl]
    have hread : Yields (uint8 tag required) depth (Writer.integer v tag) rest
        (some (UInt8.ofNat v.toNat)) :=
      List.append_nil (Writer.integer v tag) ▸ (yields_intField h Int16.ofInt).bind
        ((yields_unsigned hv hl hu).bind_pure (Option.map UInt8.ofNat))
    exact (hread.bind_pure (Option.map fun w : UInt8 => (w.toNat : Int))).congr (congrArg some hw)
  case uint16 =>
    have hv : (Int32.ofInt v).toInt = v := Int32.toInt_ofInt_of_le (by omega) (by omega)
    have hw : ((UInt16.ofNat v.toNat).toNat : Int) = v := by
      rw [UInt16.toNat_ofNat_of_lt' (by simp; omega), Int.toNat_of_nonneg hl]
    have hread : Yields (uint16 tag required) depth (Writer.integer v tag) rest
        (some (UInt16.ofNat v.toNat)) :=
      List.append_nil (Writer.integer v tag) ▸ (yields_intField h Int32.ofInt).bind
        ((yields_unsigned hv hl hu).bind_pure (Option.map UInt16.ofNat))
    exact (hread.bind_pure (Option.map fun w : UInt16 => (w.toNat : Int))).congr (congrArg some hw)
  case uint32 =>
    have hv : (Int64.ofInt v).toInt = v := Int64.toInt_ofInt_of_le (by omega) (by omega)
    have hw : ((UInt32.ofNat v.toNat).toNat : Int) = v := by
      rw [UInt32.toNat_ofNat_of_lt' (by simp; omega), Int.toNat_of_nonneg hl]
    have hread : Yields (uint32 tag required) depth (Writer.integer v tag) rest
        (some (UInt32.ofNat v.toNat)) :=
      List.append_nil (Writer.integer v tag) ▸ (yields_intField h Int64.ofInt).bind
        ((yields_unsigned hv hl hu).bind_pure (Option.map UInt32.ofNat))
    exact (hread.bind_pure (Option.map fun w : UInt32 => (w.toNat : Int))).congr (congrArg some hw)

/-- The count of a container, where the bytes left allow it. -/
theorem yields_length {n : Nat} (hn : n < 2 ^ 31) (hrest : n ≤ rest.length) :
    Yields length depth (Writer.int32 (Int32.ofNat n) 0) rest n := by
  have hint : (Int32.ofNat n).toInt = n := Int32.toInt_ofNat_of_lt hn
  have hfit : IntType.int32.Holds n := by
    constructor <;> simp only [IntType.least, IntType.greatest] <;> omega
  rw [Writer.int32_eq_integer, hint]
  have hskip : Yields (skip (Writer.head (Writer.narrowest n).1 0).length) depth
      (Writer.head (Writer.narrowest n).1 0) ((Writer.narrowest n).2 ++ rest) () :=
    yields_skip rfl
  have hpayload : Yields (intPayload (Writer.narrowest n).1 0 .int "int32") depth
      (Writer.narrowest n).2 rest n :=
    yields_intPayload (hfit.mono (by decide) (by decide)) (Writer.narrowest_le_carrier hfit)
  intro pos
  rw [length, Writer.integer, List.append_assoc, get_bind, isEmpty_head_append,
    if_neg Bool.false_ne_true]
  dsimp only
  rw [bind_of_ok (peekHead_head _ _ pos), if_neg (by simp [narrowest_ne_structEnd])]
  dsimp only
  rw [bind_of_ok (hskip pos), bind_of_ok (hpayload _), get_bind, if_neg (by simp; omega),
    List.length_append, ← Nat.add_assoc]
  rfl

/-- The count of a container in front of what is in it. -/
theorem yields_length_append {n : Nat} {bs : Bytes} (hn : n < 2 ^ 31) (hroom : n ≤ bs.length) :
    Yields length depth (Writer.int32 (Int32.ofNat n) 0) (bs ++ rest) n :=
  yields_length hn (Nat.le_trans hroom (List.length_append ▸ Nat.le_add_right _ _))

end Read

end TaggedRpc.Wire
