import TaggedRpc.Float.Binary

/-!
# The nearest binary float

The binary float nearest to a quotient of natural numbers; of two that are
equally near, the one with the even fraction. Quotients past the greatest float
go to infinity once they are nearer to the next power of two.

The floats of one sign stand in the order of their words, because the exponent
is above the fraction: adding one to the word of a positive float gives the next
one. So rounding up past a power of two needs no case of its own.
-/

namespace TaggedRpc.Float

/-- The quotient rounded to the nearest natural number, a half to the even one. -/
def roundHalfEven (num den : Nat) : Nat :=
  let q := num / den
  let r := num % den
  if 2 * r < den then q
  else if den < 2 * r then q + 1
  else q + q % 2

namespace Format

variable (f : Format)

/-- The word of infinity. -/
def infinity : Nat := (2 ^ f.exponentBits - 1) * 2 ^ f.fractionBits

/-- A place at most one below that of the last digit of a quotient with
    `fractionBits + 1` binary digits. -/
def placeBelow (num den : Nat) : Int :=
  (Nat.log2 num : Int) - Nat.log2 den - f.fractionBits - 1

/-- The quotient in units of `2 ^ place`, rounded. -/
def roundAt (num den : Nat) (place : Int) : Nat :=
  if 0 ≤ place then roundHalfEven num (den * 2 ^ place.toNat)
  else roundHalfEven (num * 2 ^ (-place).toNat) den

/-- Whether the quotient has more than `fractionBits + 1` binary digits above a
    place. -/
def overflowsAt (num den : Nat) (place : Int) : Bool :=
  if 0 ≤ place then den * 2 ^ place.toNat * 2 ^ (f.fractionBits + 1) ≤ num
  else den * 2 ^ (f.fractionBits + 1) ≤ num * 2 ^ (-place).toNat

/-- The word of the float nearest to `num / den`. -/
def nearest (num den : Nat) : Nat :=
  if num = 0 then 0
  else
    let low := f.placeBelow num den
    let place := max f.leastPlace (if f.overflowsAt num den low then low + 1 else low)
    min f.infinity ((place - f.leastPlace).toNat * 2 ^ f.fractionBits + roundAt num den place)

/-- The word of the float nearest to `digits * 10 ^ scale`. Numbers far out of
    range on either side are told by their size alone. -/
def ofDecimal (digits : Nat) (scale : Int) : Nat :=
  if digits = 0 then 0
  else if 400 < scale then f.infinity
  else if scale < -400 - (Nat.log2 digits : Int) then 0
  else if 0 ≤ scale then f.nearest (digits * 10 ^ scale.toNat) 1
  else f.nearest digits (10 ^ (-scale).toNat)

end Format

/-- The word of 64 bits nearest to a decimal number with a sign. -/
def ofDecimal64 (negative : Bool) (digits : Nat) (scale : Int) : UInt64 :=
  UInt64.ofNat (double.ofDecimal digits scale + if negative then 2 ^ 63 else 0)

/-- Whether the float of 64 bits nearest to `num / den` is at least the one with
    the given bits. Nothing is at least what is not a number. -/
def quotientReaches (num den : Nat) (bits : UInt64) : Bool :=
  match double.decode bits.toNat with
  | .nan => false
  | .infinite negative => negative
  | .finite negative m _ => negative || m == 0 || bits.toNat ≤ double.nearest num den

end TaggedRpc.Float
