import TaggedRpc.Proofs.Wire.Failing
import TaggedRpc.Proofs.Wire.Integer

/-!
# Integers of different widths

A writer and a reader need not agree on the type of an integer. What goes on the wire is
the number alone, in the fewest bytes that hold it as a signed number, so a reader of
another type gets the number if it is one of that type, and refuses it otherwise. It never
takes it for another number (`Schema.decodeInt_encodeInt`).

There are two reasons to refuse (`IntType.refusal`). An unsigned type goes as the next
wider signed one. If that does not hold the number either, the number is in a layout that
the reader does not take; if it does, the number is read and then found to be none of the
type.

* `Writer.length_narrowest_le`: no other payload that holds a number is shorter;
* `Read.fails_decodeInt`: a number that a type does not hold, to a reader of the type.
-/

namespace TaggedRpc

/-- What bytes spell as a signed number is in the balanced range of their length. -/
theorem Bytes.toInt_bounds (bs : Bytes) :
    -(256 ^ bs.length : Nat) ≤ toInt bs * 2 ∧ toInt bs * 2 < (256 ^ bs.length : Nat) := by
  have hpos : 0 < 256 ^ bs.length := Nat.pow_pos (by decide)
  have hl : _ ≤ toInt bs := Int.le_bmod hpos
  have hu : toInt bs < _ := Int.bmod_lt hpos
  constructor <;> omega

namespace Wire

/-! ## The fewest bytes -/

namespace Writer

/-- How many bytes the payload of an integer may have. -/
def payloadSizes : List Nat := [0, 1, 2, 4, 8]

theorem length_narrowest_mem (v : Int) : (narrowest v).2.length ∈ payloadSizes := by
  refine narrowest_elim (motive := fun p => p.2.length ∈ payloadSizes) ?_ ?_ ?_ ?_ ?_ <;> intros
  · exact List.mem_cons_self
  all_goals rw [Bytes.length_ofInt]; decide

theorem toInt_narrowest {v : Int} (h : IntType.int64.Holds v) :
    Bytes.toInt (narrowest v).2 = v := by
  have hfits {t : IntType} {width : Nat} (hl : -(256 ^ width : Nat) ≤ t.least * 2)
      (hu : t.greatest * 2 < (256 ^ width : Nat)) (ht : t.Holds v) :
      Bytes.toInt (Bytes.ofInt width v) = v := by
    obtain ⟨hleast, hgreatest⟩ := ht
    exact Bytes.toInt_ofInt (by omega) (by omega)
  refine narrowest_elim (motive := fun p => Bytes.toInt p.2 = v) ?_ ?_ ?_ ?_ ?_
  · rintro rfl
    rfl
  · exact hfits (by decide) (by decide)
  · exact fun _ => hfits (by decide) (by decide)
  · exact fun _ => hfits (by decide) (by decide)
  · exact fun _ => hfits (by decide) (by decide) h

/-- A payload that holds a number is no shorter than its narrowest layout. -/
theorem length_narrowest_le {bs : Bytes} (hsize : bs.length ∈ payloadSizes) :
    (narrowest (Bytes.toInt bs)).2.length ≤ bs.length := by
  obtain ⟨hl, hu⟩ := Bytes.toInt_bounds bs
  have hn : bs.length = 0 ∨ bs.length = 1 ∨ bs.length = 2 ∨ bs.length = 4 ∨ bs.length = 8 := by
    simpa [payloadSizes] using hsize
  generalize bs.length = n at hl hu hn ⊢
  generalize Bytes.toInt bs = v at hl hu ⊢
  -- A layout is passed over only by numbers that the layouts before it do not hold, and
  -- `v` is in the range of `n` bytes.
  unfold narrowest
  split
  · exact Nat.zero_le n
  repeat' split
  all_goals
    simp only [IntType.Holds, IntType.least, IntType.greatest, Bytes.length_ofInt] at *
    rcases hn with rfl | rfl | rfl | rfl | rfl <;> omega

end Writer

/-! ## Numbers that are refused -/

namespace IntType

/-- The signed type that a type goes as. -/
def signed : IntType → IntType
  | int8 => int8
  | int16 | uint8 => int16
  | int32 | uint16 => int32
  | int64 | uint32 => int64

/-- The name of a type in messages. -/
def name : IntType → String
  | int8 => "int8"
  | int16 => "int16"
  | int32 => "int32"
  | int64 => "int64"
  | uint8 => "uint8"
  | uint16 => "uint16"
  | uint32 => "uint32"

/-- Why a reader of a type refuses a number that the type does not hold. -/
def refusal (t : IntType) (tag : Tag) (v : Int) : DecodeError :=
  if t.signed.Holds v then .outOfRange tag v t.name
  else .typeMismatch tag t.signed.name (Writer.narrowest v).1

/-- The layout of a number that a signed type does not hold is wider than all of its own. -/
theorem carrier_lt_narrowest {t : IntType} {v : Int} (h64 : int64.Holds v)
    (h : ¬t.signed.Holds v) :
    (Writer.narrowest v).1 ≠ .zero ∧ t.carrier.code < (Writer.narrowest v).1.code := by
  -- A type that is as wide as the layout holds the number, so `t` is narrower.
  refine Writer.narrowest_elim (motive := fun p => p.1 ≠ .zero ∧ t.carrier.code < p.1.code)
    ?_ ?_ (fun _ h16 => ⟨nofun, ?_⟩) (fun _ h32 => ⟨nofun, ?_⟩) (fun _ => ⟨nofun, ?_⟩)
  · rintro rfl
    exact absurd (by cases t <;> decide) h
  · exact fun h8 => absurd (by cases t <;> exact h8.mono (by decide) (by decide)) h
  · show t.carrier.code < 1
    cases t <;> first | decide | exact absurd (h16.mono (by decide) (by decide)) h
  · show t.carrier.code < 2
    cases t <;> first | decide | exact absurd (h32.mono (by decide) (by decide)) h
  · show t.carrier.code < 3
    cases t <;> first | decide | exact absurd (h64.mono (by decide) (by decide)) h

end IntType

namespace Read

variable {tag : Tag} {required : Bool} {depth : Nat} {rest : Bytes} {t : IntType} {v : Int}

/-- A number that the signed type of a reader does not hold. -/
theorem fails_intField {α : Type} (h64 : IntType.int64.Holds v) (h : ¬t.signed.Holds v)
    (expected : String) (f : Int → α) :
    Fails (field tag required fun ty => f <$> intPayload ty tag t.carrier expected) depth
      (Writer.integer v tag ++ rest) (.typeMismatch tag expected (Writer.narrowest v).1) := by
  obtain ⟨hzero, hlt⟩ := IntType.carrier_lt_narrowest h64 h
  rw [Writer.integer, List.append_assoc]
  refine .field (narrowest_ne_structEnd v) (Fails.map ?_ f)
  rw [intPayload_of_lt hzero hlt]
  exact fails_throw _

theorem fails_unsigned {w : Int} {bound : Nat} {target : String} (hw : w = v)
    (h : ¬(0 ≤ v ∧ v ≤ bound)) :
    Fails (unsigned tag bound target (some w)) depth rest (.outOfRange tag v target) := by
  rw [hw, unsigned, if_neg h]
  exact fails_throw _

/-- A number that a type does not hold, to a reader of the type. -/
theorem fails_decodeInt (h64 : IntType.int64.Holds v) (h : ¬t.Holds v) :
    Fails (Schema.decodeInt tag required t) depth (Writer.integer v tag ++ rest)
      (t.refusal tag v) := by
  unfold IntType.refusal
  split
  · rename_i hs
    have ⟨hl, hu⟩ := hs
    cases t <;> simp only [IntType.signed, IntType.least, IntType.greatest] at hl hu
    case int8 | int16 | int32 | int64 => exact absurd hs h
    -- The signed word is read, and then found to be none of the type.
    case uint8 =>
      have hv : (Int16.ofInt v).toInt = v := Int16.toInt_ofInt_of_le (by omega) (by omega)
      exact ((yields_intField hs Int16.ofInt).bind_fails ((fails_unsigned hv h).bind _)).bind _
    case uint16 =>
      have hv : (Int32.ofInt v).toInt = v := Int32.toInt_ofInt_of_le (by omega) (by omega)
      exact ((yields_intField hs Int32.ofInt).bind_fails ((fails_unsigned hv h).bind _)).bind _
    case uint32 =>
      have hv : (Int64.ofInt v).toInt = v := Int64.toInt_ofInt_of_le (by omega) (by omega)
      exact ((yields_intField hs Int64.ofInt).bind_fails ((fails_unsigned hv h).bind _)).bind _
  · rename_i hs
    -- Not even the signed word is read.
    cases t
    case int8 => exact (fails_intField h64 hs "int8" Int8.ofInt).bind _
    case int16 => exact (fails_intField h64 hs "int16" Int16.ofInt).bind _
    case int32 => exact (fails_intField h64 hs "int32" Int32.ofInt).bind _
    case int64 => exact (fails_intField h64 hs "int64" Int64.ofInt).bind _
    case uint8 => exact ((fails_intField h64 hs "int16" Int16.ofInt).bind _).bind _
    case uint16 => exact ((fails_intField h64 hs "int32" Int32.ofInt).bind _).bind _
    case uint32 => exact ((fails_intField h64 hs "int64" Int64.ofInt).bind _).bind _

end Read

/-! ## Any width to any other -/

namespace Schema

open Read

/-- An integer that was written at a type that holds it:

    * a reader of any type gets it if that type holds it, and stands behind it, and
      otherwise refuses it;
    * its bytes are the same at every type that holds it;
    * its payload is the shortest of 0, 1, 2, 4 and 8 bytes that hold it as a signed
      number. -/
theorem decodeInt_encodeInt {t : IntType} {v : Int} (h : t.Holds v) (tag : Tag) :
    (∀ (u : IntType) (required : Bool) (rest : Bytes) (pos depth : Nat),
      (u.Holds v → decodeInt tag required u ⟨encodeInt t v tag ++ rest, pos, depth⟩ =
        .ok (some v) ⟨rest, pos + (encodeInt t v tag).length, depth⟩) ∧
      (¬u.Holds v → ∃ s, decodeInt tag required u ⟨encodeInt t v tag ++ rest, pos, depth⟩ =
        .error (u.refusal tag v) s)) ∧
    (∀ u : IntType, u.Holds v → encodeInt u v tag = encodeInt t v tag) ∧
    ∃ type payload, encodeInt t v tag = Writer.head type tag ++ payload ∧
      payload.length ∈ Writer.payloadSizes ∧ Bytes.toInt payload = v ∧
      ∀ bs : Bytes, bs.length ∈ Writer.payloadSizes → Bytes.toInt bs = v →
        payload.length ≤ bs.length := by
  have h64 : IntType.int64.Holds v := by
    cases t <;> exact h.mono (by decide) (by decide)
  refine ⟨fun u required rest pos depth => ?_, fun u hu => ?_, ?_⟩
  · rw [encodeInt_eq_integer h]
    exact ⟨fun hu => yields_decodeInt hu pos, fun hu => fails_decodeInt h64 hu pos⟩
  · rw [encodeInt_eq_integer h, encodeInt_eq_integer hu]
  · refine ⟨(Writer.narrowest v).1, (Writer.narrowest v).2, encodeInt_eq_integer h tag,
      Writer.length_narrowest_mem v, Writer.toInt_narrowest h64, ?_⟩
    rintro bs hsize rfl
    exact Writer.length_narrowest_le hsize

/-- The number 300, which goes in two bytes, to readers of three types. -/
theorem decodeInt_encodeInt_300 :
    encodeInt .int64 300 7 = [0x71, 0x01, 0x2C] ∧ encodeInt .uint16 300 7 = [0x71, 0x01, 0x2C] ∧
      decodeInt 7 true .uint16 ⟨[0x71, 0x01, 0x2C, 0xFF], 5, 64⟩ = .ok (some 300) ⟨[0xFF], 8, 64⟩ ∧
      (∃ s, decodeInt 7 true .uint8 ⟨[0x71, 0x01, 0x2C, 0xFF], 5, 64⟩ =
        .error (.outOfRange 7 300 "uint8") s) ∧
      ∃ s, decodeInt 7 true .int8 ⟨[0x71, 0x01, 0x2C, 0xFF], 5, 64⟩ =
        .error (.typeMismatch 7 "int8" .short) s := by
  have hall := decodeInt_encodeInt (t := .int64) (v := 300) (by decide) 7
  have hread := fun u => hall.1 u true [0xFF] 5 64
  exact ⟨by decide, by decide, (hread .uint16).1 (by decide), (hread .uint8).2 (by decide),
    (hread .int8).2 (by decide)⟩

end Schema

end Wire

end TaggedRpc
