import TaggedRpc.Power

/-!
# Binary floats as words

A binary float is a word of three parts: a sign bit, a biased exponent, and a
fraction. The *format* says how wide the parts are. Decoding a word gives what
it means: not a number, an infinity, or a sign with a magnitude `m * 2 ^ q` for
a natural number `m` and an integer `q`.

* `Format.decode`: what a word means;
* `widen`: the word of 64 bits with the meaning of a word of 32 bits;
* `isNaN32`, `isNaN64`: the words that are not numbers.
-/

namespace TaggedRpc.Float

/-- The widths of the parts of a binary float. -/
structure Format where
  /-- The bits of the fraction. -/
  fractionBits : Nat
  /-- The bits of the biased exponent. -/
  exponentBits : Nat
  deriving DecidableEq, Repr

/-- Floats of 32 bits. -/
def single : Format := ⟨23, 8⟩

/-- Floats of 64 bits. -/
def double : Format := ⟨52, 11⟩

/-- What a word means. -/
inductive Meaning where
  /-- Not a number. -/
  | nan
  /-- An infinity. -/
  | infinite (negative : Bool)
  /-- The number `m * 2 ^ q`, or its negative. -/
  | finite (negative : Bool) (m : Nat) (q : Int)
  deriving DecidableEq, Repr

namespace Format

variable (f : Format)

/-- The fraction of a word. -/
def fraction (bits : Nat) : Nat := bits % 2 ^ f.fractionBits

/-- The biased exponent of a word. -/
def exponent (bits : Nat) : Nat := bits / 2 ^ f.fractionBits % 2 ^ f.exponentBits

/-- Whether the sign bit of a word is set. -/
def isNegative (bits : Nat) : Bool :=
  bits / 2 ^ (f.fractionBits + f.exponentBits) % 2 == 1

/-- The exponent of the least place of the numbers with the least biased
    exponent. -/
def leastPlace : Int := 2 - 2 ^ (f.exponentBits - 1) - f.fractionBits

/-- What a word means. -/
def decode (bits : Nat) : Meaning :=
  let e := f.exponent bits
  let m := f.fraction bits
  if e = 2 ^ f.exponentBits - 1 then
    if m = 0 then .infinite (f.isNegative bits) else .nan
  else if e = 0 then .finite (f.isNegative bits) m f.leastPlace
  else .finite (f.isNegative bits) (m + 2 ^ f.fractionBits) (f.leastPlace + (e - 1))

end Format

/-- Whether a word of 32 bits is not a number. -/
def isNaN32 (bits : UInt32) : Bool := single.decode bits.toNat == .nan

/-- Whether a word of 64 bits is not a number. -/
def isNaN64 (bits : UInt64) : Bool := double.decode bits.toNat == .nan

/-- The word of 64 bits with the meaning of a word of 32 bits. Every number of
    the narrow format is one of the wide format, the small ones with a leading
    one that the narrow format has no room for; a word that is not a number
    stays one, and quiet. -/
def widen (bits : UInt32) : UInt64 :=
  let n := bits.toNat
  let sign := n / 2 ^ 31 * 2 ^ 63
  let e := single.exponent n
  let m := single.fraction n
  let magnitude :=
    if e = 255 then 2047 * 2 ^ 52 + (if m = 0 then 0 else 2 ^ 51 + m % 2 ^ 22 * 2 ^ 29)
    else if e = 0 then
      if m = 0 then 0
      else
        let top := Nat.log2 m
        (top + 874) * 2 ^ 52 + (m - 2 ^ top) * 2 ^ (52 - top)
    else (e + 896) * 2 ^ 52 + m * 2 ^ 29
  UInt64.ofNat (sign + magnitude)

end TaggedRpc.Float
