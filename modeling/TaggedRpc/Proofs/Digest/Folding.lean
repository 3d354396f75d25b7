import Mathlib.Data.Nat.Bitwise
import TaggedRpc.Digest.Text
import TaggedRpc.Power

/-!
# The hash that folds

The accumulator of `elf` has 32 bits. Each character shifts out four of them and adds up to 21 bits,
with a carry that may go anywhere, even out at the top. Whatever that comes to, its top four bits go
into bits 4 to 7, where they flip what is there, and are cleared (`toNat_elfStep`).

So a step leads below 2 ^ 28 from any accumulator and by any character. The accumulator is there
after each character, and the next shift loses nothing of it (`elf_below`).
-/

namespace TaggedRpc.Digest

/-- The top four bits of a word, where they are. -/
theorem toNat_and_top (w : UInt32) :
    (w &&& 0xF0000000).toNat = w.toNat / 2 ^ 28 * 2 ^ 28 := by
  have hmask : (0xF0000000 : UInt32).toNat = (2 ^ 4 - 1) * 2 ^ 28 := rfl
  rw [UInt32.toNat_and, hmask]
  refine Nat.eq_of_testBit_eq fun i => ?_
  rw [Nat.testBit_and, Nat.testBit_mul_two_pow, Nat.testBit_mul_two_pow, Nat.testBit_div_two_pow,
    Nat.testBit_two_pow_sub_one]
  by_cases hi : 28 ≤ i
  · rw [Nat.sub_add_cancel hi]
    by_cases htop : i < 32
    · simp [hi, show i - 28 < 4 by omega]
    · have hbound : w.toNat < 2 ^ i :=
        w.toNat_lt.trans_le (Nat.pow_le_pow_right Nat.two_pos (not_lt.1 htop))
      simp [Nat.testBit_lt_two_pow hbound]
  · simp [hi]

/-- Flipping them clears them. -/
theorem xor_top (n : Nat) : n ^^^ (n / 2 ^ 28 * 2 ^ 28) = n % 2 ^ 28 := by
  refine Nat.eq_of_testBit_eq fun i => ?_
  rw [Nat.testBit_xor, Nat.testBit_mul_two_pow, Nat.testBit_div_two_pow, Nat.testBit_mod_two_pow]
  by_cases hi : 28 ≤ i
  · simp [hi, Nat.sub_add_cancel hi]
  · simp [hi, not_le.1 hi]

/-- The lower 28 bits of what the accumulator comes to, with its top four bits folded in. -/
theorem toNat_elfStep (h : UInt32) (c : Char) :
    (elfStep h c).toNat =
      let n := ((h <<< 4) + codeWord c).toNat
      (n % 2 ^ 28) ^^^ (n / 2 ^ 28 * 2 ^ 4) := by
  rw [elfStep]
  generalize (h <<< 4) + codeWord c = w
  have hfold : ((w ^^^ ((w &&& 0xF0000000) >>> 24)) ^^^ (w &&& 0xF0000000)).toNat =
      (w.toNat % 2 ^ 28) ^^^ (w.toNat / 2 ^ 28 * 2 ^ 4) := by
    have hdown : ((w &&& 0xF0000000) >>> 24).toNat = w.toNat / 2 ^ 28 * 2 ^ 4 := by
      have hshift : (24 : UInt32).toNat % 32 = 24 := rfl
      rw [UInt32.toNat_shiftRight, toNat_and_top, hshift, Nat.shiftRight_eq_div_pow]
      omega
    rw [UInt32.toNat_xor, UInt32.toNat_xor, hdown, toNat_and_top, Nat.xor_right_comm, xor_top]
  split_ifs with hg
  · -- Without bits at the top, folding changes nothing.
    rw [hg, UInt32.zero_shiftRight, UInt32.xor_zero, UInt32.xor_zero] at hfold
    exact hfold
  · exact hfold

theorem elfStep_lt (h : UInt32) (c : Char) : (elfStep h c).toNat < 2 ^ 28 := by
  rw [toNat_elfStep]
  have hn := ((h <<< 4) + codeWord c).toNat_lt
  exact Nat.xor_lt_two_pow (Nat.mod_lt _ (Nat.two_pow_pos 28)) (by omega)

/-- The accumulator of `elf` after the first `n` characters of a text. -/
def elfAfter (s : String) (n : Nat) : UInt32 := (s.toList.take n).foldl elfStep 0

theorem elfAfter_succ {s : String} {n : Nat} (hn : n < s.toList.length) :
    elfAfter s (n + 1) = elfStep (elfAfter s n) s.toList[n] := by
  rw [elfAfter, List.take_succ_eq_append_getElem hn, List.foldl_append, List.foldl_cons,
    List.foldl_nil, elfAfter]

theorem elfAfter_length (s : String) : elfAfter s s.toList.length = elf s := by
  rw [elfAfter, List.take_length, elf]

theorem elfAfter_lt (s : String) (n : Nat) : (elfAfter s n).toNat < 2 ^ 28 := by
  induction n with
  | zero => exact Nat.two_pow_pos 28
  | succ n ih =>
    by_cases hn : n < s.toList.length
    · rw [elfAfter_succ hn]
      exact elfStep_lt _ _
    · -- The text has ended before.
      have hend := not_lt.1 hn
      rw [elfAfter, List.take_of_length_le (hend.trans n.le_succ), ← List.take_of_length_le hend]
      exact ih

/-- The accumulator of `elf` is below 2 ^ 28 after any number of characters, and at the end. So the
    shift for the next character loses none of its bits. -/
theorem elf_below (s : String) :
    (∀ n, (elfAfter s n).toNat < 2 ^ 28 ∧
      (elfAfter s n <<< 4).toNat = (elfAfter s n).toNat * 2 ^ 4) ∧
    (elf s).toNat < 2 ^ 28 := by
  refine ⟨fun n => ⟨elfAfter_lt s n, ?_⟩, ?_⟩
  · have hlt := elfAfter_lt s n
    have hshift : (4 : UInt32).toNat % 32 = 4 := rfl
    rw [UInt32.toNat_shiftLeft, hshift, Nat.shiftLeft_eq]
    omega
  · rw [← elfAfter_length]
    exact elfAfter_lt s _

/-- The greatest code point in front of a full accumulator overflows it; what is left is folded. -/
example : elfStep 0x0FFFFFFF (Char.ofNat 0x10FFFF) = 0x0010FFEF := by decide

end TaggedRpc.Digest
