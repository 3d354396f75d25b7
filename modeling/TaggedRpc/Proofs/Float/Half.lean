import TaggedRpc.Float.Nearest

/-!
# Quotients that reach one half

The float nearest to a quotient of counters is at least one half if and only if the quotient
is (`quotientReaches_half_iff`), although it is rounded: a quotient of small numbers that is
below one half is so by more than what rounding makes up for.

A quotient has its place, the one where it is a number of 53 binary digits before it is rounded
(`exists_nearest_eq`). The place alone tells it from one half, except for the quotients in the
place just below. In that place these are less than `2 ^ 53` by at least one, so rounding leaves
them below (`roundHalfEven_le`).
-/

namespace TaggedRpc.Float

/-- The word of one half. -/
def half : UInt64 := 0x3FE0000000000000

variable {num den m : Nat}

/-! ## Rounding to whole numbers -/

/-- What is at most a whole number is not rounded above it. -/
theorem roundHalfEven_le (h : num ≤ m * den) (hden : 0 < den) : roundHalfEven num den ≤ m := by
  have hdiv : num / den ≤ m := Nat.div_le_of_le_mul (Nat.mul_comm m den ▸ h)
  rw [roundHalfEven]
  rcases Nat.lt_or_eq_of_le hdiv with hlt | heq
  · split
    · exact hdiv
    · split <;> omega
  · -- The quotient is the whole number itself.
    have hmod : num % den = 0 := by
      have hsplit := Nat.div_add_mod num den
      rw [heq, Nat.mul_comm] at hsplit
      omega
    rw [if_pos (by omega)]
    exact hdiv

/-- What is at least a whole number is not rounded below it. -/
theorem le_roundHalfEven (h : m * den ≤ num) (hden : 0 < den) : m ≤ roundHalfEven num den := by
  have hdiv : m ≤ num / den := (Nat.le_div_iff_mul_le hden).2 h
  rw [roundHalfEven]
  split
  · exact hdiv
  · split <;> omega

/-! ## The place of a quotient -/

namespace Format

theorem overflowsAt_neg (num den k : Nat) :
    double.overflowsAt num den (-((k + 1 : Nat) : Int)) =
      decide (den * 2 ^ 53 ≤ num * 2 ^ (k + 1)) := by
  rw [overflowsAt, if_neg (by omega), Int.neg_neg, Int.toNat_natCast]
  rfl

theorem roundAt_neg (num den k : Nat) :
    roundAt num den (-((k + 1 : Nat) : Int)) = roundHalfEven (num * 2 ^ (k + 1)) den := by
  rw [roundAt, if_neg (by omega), Int.neg_neg, Int.toNat_natCast]

/-- What is counted at a place, in the order of words. -/
theorem nearest_eq_of_place {k : Nat} (hnum : num ≠ 0) (hk : k + 1 ≤ 1074)
    (hplace : (if double.overflowsAt num den (double.placeBelow num den)
      then double.placeBelow num den + 1 else double.placeBelow num den) =
        -((k + 1 : Nat) : Int)) :
    double.nearest num den = min double.infinity
      ((1074 - (k + 1)) * 2 ^ 52 + roundHalfEven (num * 2 ^ (k + 1)) den) := by
  have hleast : double.leastPlace = -1074 := rfl
  have hmax : max double.leastPlace (-((k + 1 : Nat) : Int)) = -((k + 1 : Nat) : Int) := by
    rw [hleast]
    omega
  have hcount : (-((k + 1 : Nat) : Int) - double.leastPlace).toNat = 1074 - (k + 1) := by
    rw [hleast]
    omega
  rw [nearest, if_neg hnum]
  dsimp only
  rw [hplace, hmax, hcount, roundAt_neg]
  rfl

/-- At its place a quotient of counters has 53 binary digits. -/
theorem exists_nearest_eq (hnum : num ≠ 0) (hden : den ≠ 0) (hnum' : num < 2 ^ 33)
    (hden' : den < 2 ^ 33) :
    ∃ p, p ≤ 1074 ∧ den * 2 ^ 52 ≤ num * 2 ^ p ∧ num * 2 ^ p < den * 2 ^ 53 ∧
      double.nearest num den =
        min double.infinity ((1074 - p) * 2 ^ 52 + roundHalfEven (num * 2 ^ p) den) := by
  have hL := (Nat.log2_lt hnum).2 hnum'
  have hD := (Nat.log2_lt hden).2 hden'
  -- Moved by `k + 2` places, the quotient has 53 or 54 binary digits.
  obtain ⟨k, hk⟩ : ∃ k, num.log2 + (k + 2) = den.log2 + 53 := ⟨den.log2 + 51 - num.log2, by omega⟩
  have hlow : double.placeBelow num den = -((k + 2 : Nat) : Int) := by
    show (num.log2 : Int) - den.log2 - 52 - 1 = _
    omega
  have hpow : 2 ^ num.log2 * 2 ^ (k + 2) = 2 ^ den.log2 * 2 ^ 53 := by
    rw [← Nat.pow_add, ← Nat.pow_add, hk]
  have hleast : 2 ^ den.log2 * 2 ^ 53 ≤ num * 2 ^ (k + 2) :=
    hpow ▸ Nat.mul_le_mul_right _ (Nat.log2_self_le hnum)
  have hmost : num * 2 ^ (k + 2) < 2 * (2 ^ den.log2 * 2 ^ 53) := by
    rw [← hpow, ← Nat.mul_assoc, ← Nat.pow_succ']
    exact Nat.mul_lt_mul_of_pos_right Nat.lt_log2_self (Nat.two_pow_pos _)
  have htwice : num * 2 ^ (k + 2) = 2 * (num * 2 ^ (k + 1)) := by
    rw [Nat.pow_succ', Nat.mul_left_comm]
  have hdouble : den * 2 ^ 53 = 2 * (den * 2 ^ 52) := by
    rw [Nat.pow_succ', Nat.mul_left_comm]
  by_cases hover : den * 2 ^ 53 ≤ num * 2 ^ (k + 2)
  · have hlower : den * 2 ^ 52 ≤ num * 2 ^ (k + 1) :=
      Nat.le_of_mul_le_mul_left (hdouble ▸ htwice ▸ hover) Nat.two_pos
    have hupper : num * 2 ^ (k + 1) < 2 ^ den.log2 * 2 ^ 53 :=
      Nat.lt_of_mul_lt_mul_left (htwice ▸ hmost)
    refine ⟨k + 1, by omega, hlower,
      Nat.lt_of_lt_of_le hupper (Nat.mul_le_mul_right _ (Nat.log2_self_le hden)),
      nearest_eq_of_place hnum (by omega) ?_⟩
    rw [hlow, overflowsAt_neg, if_pos (decide_eq_true hover)]
    omega
  · have hlower : den * 2 ^ 52 ≤ num * 2 ^ (k + 2) :=
      calc den * 2 ^ 52 ≤ 2 ^ (den.log2 + 1) * 2 ^ 52 :=
            Nat.mul_le_mul_right _ (Nat.le_of_lt Nat.lt_log2_self)
        _ = 2 ^ den.log2 * 2 ^ 53 := by rw [← Nat.pow_add, ← Nat.pow_add, Nat.add_assoc]
        _ ≤ num * 2 ^ (k + 2) := hleast
    refine ⟨k + 2, by omega, hlower, Nat.lt_of_not_le hover, nearest_eq_of_place hnum (by omega) ?_⟩
    rw [hlow, overflowsAt_neg, if_neg (by simpa using hover)]

end Format

/-! ## One half -/

theorem quotientReaches_half (num den : Nat) :
    quotientReaches num den half = true ↔ 1022 * 2 ^ 52 ≤ double.nearest num den := by
  have hdecode : double.decode half.toNat = .finite false (2 ^ 52) (-53) := by decide
  rw [quotientReaches, hdecode]
  exact decide_eq_true_iff

/-- A quotient with 53 binary digits is at least one half if and only if at most 53 of them stand
    after the point. -/
theorem place_le_iff {p : Nat} (hlower : den * 2 ^ 52 ≤ num * 2 ^ p)
    (hupper : num * 2 ^ p < den * 2 ^ 53) : p ≤ 53 ↔ den ≤ 2 * num := by
  have hmove : ∀ k, 2 * num * 2 ^ k = num * 2 ^ (k + 1) := fun k => by
    rw [Nat.pow_succ', ← Nat.mul_assoc, Nat.mul_comm 2 num]
  constructor
  · intro hp
    refine Nat.le_of_mul_le_mul_right (c := 2 ^ 52) ?_ (Nat.two_pow_pos 52)
    rw [hmove]
    exact Nat.le_trans hlower (Nat.mul_le_mul_left _ (Nat.pow_le_pow_right Nat.two_pos hp))
  · intro hhalf
    refine Nat.le_of_not_lt fun hp => Nat.lt_irrefl (den * 2 ^ 53) ?_
    calc den * 2 ^ 53 ≤ 2 * num * 2 ^ 53 := Nat.mul_le_mul_right _ hhalf
      _ = num * 2 ^ 54 := hmove 53
      _ ≤ num * 2 ^ p := Nat.mul_le_mul_left _ (Nat.pow_le_pow_right Nat.two_pos hp)
      _ < den * 2 ^ 53 := hupper

/-- Just below one half, rounding does not go up to the next power of two. -/
theorem roundHalfEven_lt (hsmall : 2 * num < den) (hden' : den < 2 ^ 33) :
    roundHalfEven (num * 2 ^ 54) den ≤ 2 ^ 53 - 1 := by
  refine roundHalfEven_le ?_ (Nat.zero_lt_of_lt hsmall)
  calc num * 2 ^ 54 = 2 * num * 2 ^ 53 := by
        rw [Nat.pow_succ', ← Nat.mul_assoc, Nat.mul_comm num 2]
    _ ≤ (den - 1) * 2 ^ 53 := Nat.mul_le_mul_right _ (Nat.le_sub_one_of_lt hsmall)
    _ = den * 2 ^ 53 - 2 ^ 53 := Nat.sub_one_mul ..
    _ ≤ den * 2 ^ 53 - den :=
        Nat.sub_le_sub_left (Nat.le_trans (Nat.le_of_lt hden') (by decide)) _
    _ = (2 ^ 53 - 1) * den := by rw [Nat.sub_one_mul, Nat.mul_comm]

/-- A quotient of counters reaches one half if and only if it is at least one half. -/
theorem quotientReaches_half_iff (hden : den ≠ 0) (hnum' : num < 2 ^ 33) (hden' : den < 2 ^ 33) :
    quotientReaches num den half = true ↔ den ≤ 2 * num := by
  rw [quotientReaches_half]
  by_cases hnum : num = 0
  · rw [hnum, Format.nearest, if_pos rfl]
    omega
  obtain ⟨p, hp, hlower, hupper, hnearest⟩ := Format.exists_nearest_eq hnum hden hnum' hden'
  have hpos := Nat.pos_of_ne_zero hden
  have hplace := place_le_iff hlower hupper
  rw [hnearest, Nat.le_min]
  constructor
  · rintro ⟨-, hreach⟩
    refine Nat.le_of_not_lt fun hsmall => absurd hreach (Nat.not_le_of_lt ?_)
    have hbelow : 53 < p := Nat.lt_of_not_le (mt hplace.1 (Nat.not_le_of_lt hsmall))
    rcases Nat.eq_or_lt_of_le hbelow with rfl | hfar
    · exact Nat.lt_of_le_of_lt (Nat.add_le_add_left (roundHalfEven_lt hsmall hden') _) (by decide)
    · have hdigits : roundHalfEven (num * 2 ^ p) den ≤ 2 ^ 53 :=
        roundHalfEven_le (Nat.mul_comm den _ ▸ Nat.le_of_lt hupper) hpos
      have hcount : (1074 - p) * 2 ^ 52 ≤ 1019 * 2 ^ 52 := Nat.mul_le_mul_right _ (by omega)
      exact Nat.lt_of_le_of_lt (Nat.add_le_add hcount hdigits) (by decide)
  · intro hhalf
    have hcount : 1021 * 2 ^ 52 ≤ (1074 - p) * 2 ^ 52 :=
      Nat.mul_le_mul_right _ (by have := hplace.2 hhalf; omega)
    have hdigits : 2 ^ 52 ≤ roundHalfEven (num * 2 ^ p) den :=
      le_roundHalfEven (Nat.mul_comm den _ ▸ hlower) hpos
    refine ⟨by decide, ?_⟩
    calc 1022 * 2 ^ 52 = 1021 * 2 ^ 52 + 2 ^ 52 := by decide
      _ ≤ (1074 - p) * 2 ^ 52 + roundHalfEven (num * 2 ^ p) den := Nat.add_le_add hcount hdigits

end TaggedRpc.Float
