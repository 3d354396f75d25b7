import TaggedRpc.Power

/-!
# Byte strings

Everything that travels is a list of bytes. Words go *big-endian*: the most
significant byte first, in a fixed number of bytes. Signed words go as their
residue modulo a power of 256, so a signed word reads back as the balanced
residue of what its bytes spell.

* `Bytes.ofNat`, `Bytes.toNat`: unsigned words to bytes and back;
* `Bytes.ofInt`, `Bytes.toInt`: the same for signed words;
* `Bytes.text?`: the text that a byte string spells in UTF-8, if it spells one;
* `Bytes.hex`: two lower-case hexadecimal digits for each byte.
-/

namespace TaggedRpc

/-- A byte string. -/
abbrev Bytes := List UInt8

namespace Bytes

/-! ## Words -/

/-- The number that a byte string spells, most significant byte first. -/
def toNat (bs : Bytes) : Nat :=
  bs.foldl (fun n b => 256 * n + b.toNat) 0

/-- The last `width` base-256 digits of a number, most significant first. -/
def ofNat : (width : Nat) → Nat → Bytes
  | 0, _ => []
  | width + 1, n => ofNat width (n / 256) ++ [UInt8.ofNat n]

/-- The signed word that a byte string spells: the balanced residue modulo
    256 to the number of bytes. -/
def toInt (bs : Bytes) : Int :=
  (toNat bs : Int).bmod (256 ^ bs.length)

/-- A signed word in `width` bytes. -/
def ofInt (width : Nat) (v : Int) : Bytes :=
  ofNat width (v % 256 ^ width).toNat

/-! ## Text -/

/-- The bytes of a text in UTF-8. -/
def ofText (s : String) : Bytes :=
  s.toUTF8.data.toList

/-- The text that a byte string spells in UTF-8. Overlong forms, surrogates
    and code points past U+10FFFF spell nothing. -/
def text? (bs : Bytes) : Option String :=
  String.fromUTF8? ⟨bs.toArray⟩

/-! ## Hexadecimal text -/

/-- The lower-case hexadecimal digit of a number below 16. -/
def hexDigit (n : Nat) : Char :=
  Char.ofNat (if n < 10 then 48 + n else 87 + n)

/-- The value of a hexadecimal digit of either case. -/
def hexValue? (c : Char) : Option Nat :=
  if '0' ≤ c ∧ c ≤ '9' then some (c.toNat - 48)
  else if 'a' ≤ c ∧ c ≤ 'f' then some (c.toNat - 87)
  else if 'A' ≤ c ∧ c ≤ 'F' then some (c.toNat - 55)
  else none

/-- Two hexadecimal digits for each byte. -/
def hex (bs : Bytes) : String :=
  String.ofList (bs.flatMap fun b => [hexDigit (b.toNat / 16), hexDigit (b.toNat % 16)])

/-- The byte string that pairs of hexadecimal digits spell. -/
def ofHex? (s : String) : Option Bytes :=
  go s.toList []
where
  /-- Reads two digits at a time, with the bytes so far in reverse. -/
  go : List Char → Bytes → Option Bytes
    | [], acc => some acc.reverse
    | [_], _ => none
    | h :: l :: rest, acc =>
      match hexValue? h, hexValue? l with
      | some a, some b => go rest (UInt8.ofNat (16 * a + b) :: acc)
      | _, _ => none

end Bytes

end TaggedRpc
