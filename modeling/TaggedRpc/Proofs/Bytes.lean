import TaggedRpc.Bytes

/-!
# Words and texts as bytes

The bytes of a word spell it again, and so do the bytes of a text.

* `Bytes.toNat_ofNat`: an unsigned word, modulo the power of 256 that fits its bytes;
* `Bytes.toInt_ofInt`: a signed word in the balanced range of its bytes;
* `Bytes.text?_ofText`: a text.
-/

namespace TaggedRpc.Bytes

/-! ## Words -/

@[simp] theorem length_ofNat (width n : Nat) : (ofNat width n).length = width := by
  induction width generalizing n with
  | zero => rfl
  | succ width ih => rw [ofNat, List.length_append, ih, List.length_singleton]

theorem toNat_concat (bs : Bytes) (b : UInt8) : toNat (bs ++ [b]) = 256 * toNat bs + b.toNat := by
  rw [toNat, List.foldl_append]
  rfl

theorem toNat_ofNat (width n : Nat) : toNat (ofNat width n) = n % 256 ^ width := by
  induction width generalizing n with
  | zero => rw [Nat.pow_zero, Nat.mod_one]; rfl
  | succ width ih =>
    have hb : (UInt8.ofNat n).toNat = n % 256 := UInt8.toNat_ofNat'
    rw [ofNat, toNat_concat, ih, hb, Nat.pow_succ', Nat.mod_mul, Nat.add_comm]

/-- An unsigned word that its bytes have room for is what they spell. -/
theorem toNat_ofNat_of_lt {width n : Nat} (h : n < 256 ^ width) : toNat (ofNat width n) = n := by
  rw [toNat_ofNat, Nat.mod_eq_of_lt h]

@[simp] theorem length_ofInt (width : Nat) (v : Int) : (ofInt width v).length = width :=
  length_ofNat width _

/-- A signed word in the balanced range of its bytes is what they spell. -/
theorem toInt_ofInt {width : Nat} {v : Int} (hl : -(256 ^ width : Nat) ≤ v * 2)
    (hu : v * 2 < (256 ^ width : Nat)) : toInt (ofInt width v) = v := by
  have hpos : (0 : Int) < (256 ^ width : Nat) :=
    Int.natCast_pos.2 (Nat.pow_pos (by decide))
  have hcast : (256 : Int) ^ width = (256 ^ width : Nat) := (Int.natCast_pow 256 width).symm
  have hnonneg := Int.emod_nonneg v (Int.ne_of_gt hpos)
  have hlt := Int.emod_lt_of_pos v hpos
  rw [toInt, length_ofInt, ofInt, hcast, toNat_ofNat_of_lt (by omega),
    Int.toNat_of_nonneg hnonneg, Int.emod_bmod]
  exact Int.bmod_eq_of_le_mul_two hl hu

/-! ## Texts -/

theorem text?_ofText (s : String) : text? (ofText s) = some s :=
  dif_pos s.isValidUTF8

end TaggedRpc.Bytes
