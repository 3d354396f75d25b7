import TaggedRpc.Float.Binary

/-!
# The shortest decimal that reads back

Of the decimals that round to a given binary float, the *shortest* has the
fewest digits, and among those lies nearest to the float. A magnitude
`m * 2 ^ q` is the rounding of every real strictly between the midpoints to its
two neighbours, and of the midpoints too if `m` is even.

For one digit, two digits and so on the two decimals next to the magnitude on
the grid of that many digits are tried, in exact arithmetic: if any point of a
grid lies in the interval, one of these two does. The first grid with a hit
wins; of two hits the nearer one, and of two equally near the upper one.

* `Decimal.shortest`: the digits and the place of the last one;
* `plain32`, `plain64`: the text without an exponent.
-/

namespace TaggedRpc.Float

/-- The number `digits * 10 ^ place`. -/
structure Decimal where
  /-- The digits, as one number. -/
  digits : Nat
  /-- The power of ten that the last digit stands for. -/
  place : Int
  deriving DecidableEq, Repr

namespace Decimal

/-- The number of decimal digits of a number. -/
def digitCount (n : Nat) : Nat := (Nat.toDigits 10 n).length

/-- The largest power of ten that is at most `n / d`: the place of the leading
    digit. The digit counts of `n` and `d` leave two places to choose from. -/
def leadingPlace (n d : Nat) : Int :=
  let place : Int := digitCount n - digitCount d
  let reaches := if 0 ≤ place then d * 10 ^ place.toNat ≤ n else d ≤ n * 10 ^ (-place).toNat
  if reaches then place else place - 1

/-- The interval of reals that round to `m * 2 ^ q`, over the common
    denominator `den`: its lower end, its middle, its upper end, and whether the
    ends belong to it. Below a power of two the neighbour is half as far away,
    except at the least place. -/
structure Interval where
  /-- The lower end times `den`. -/
  low : Nat
  /-- The middle times `den`. -/
  mid : Nat
  /-- The upper end times `den`. -/
  high : Nat
  /-- The common denominator. -/
  den : Nat
  /-- Whether the ends belong to the interval. -/
  closed : Bool

/-- The interval around the magnitude `m * 2 ^ q` of a format. -/
def Interval.around (f : Format) (m : Nat) (q : Int) : Interval :=
  let narrow := m = 2 ^ f.fractionBits ∧ f.leastPlace < q
  let scale := if 0 ≤ q then 2 ^ q.toNat else 1
  let den := if 0 ≤ q then 1 else 2 ^ (-q).toNat
  { low := (4 * m - if narrow then 1 else 2) * scale
    mid := 4 * m * scale
    high := (4 * m + 2) * scale
    den := 4 * den
    closed := m % 2 = 0 }

/-- Whether `digits * 10 ^ place` lies in the interval. -/
def Interval.contains (i : Interval) (d : Decimal) : Bool :=
  let up := if 0 ≤ d.place then 10 ^ d.place.toNat else 1
  let down := if 0 ≤ d.place then 1 else 10 ^ (-d.place).toNat
  let x := d.digits * up * i.den
  let low := i.low * down
  let high := i.high * down
  if i.closed then low ≤ x && x ≤ high else low < x && x < high

/-- The decimals next to the middle of the interval, below and above, among the
    multiples of `10 ^ place`; and whether the upper one is at least as near. -/
def Interval.neighbours (i : Interval) (place : Int) : Decimal × Decimal × Bool :=
  let up := if 0 ≤ place then 10 ^ place.toNat else 1
  let down := if 0 ≤ place then 1 else 10 ^ (-place).toNat
  let num := i.mid * down
  let unit := i.den * up
  let below := num / unit
  (⟨below, place⟩, ⟨below + 1, place⟩, unit ≤ 2 * (num % unit))

/-- The first hit on the grids with `count` digits, one more, and so on. -/
def search (i : Interval) (leading : Int) : (grids : Nat) → (count : Int) → Decimal
  | 0, count => (i.neighbours (leading - count + 1)).1
  | grids + 1, count =>
    let (below, above, upperNearer) := i.neighbours (leading - count + 1)
    match i.contains below, i.contains above with
    | true, true => if upperNearer then above else below
    | true, false => below
    | false, true => above
    | false, false => search i leading grids (count + 1)

/-- Drops the zeros at the end of the digits. -/
def trim : (steps : Nat) → Decimal → Decimal
  | 0, d => d
  | steps + 1, d =>
    if d.digits ≠ 0 ∧ d.digits % 10 = 0 then trim steps ⟨d.digits / 10, d.place + 1⟩ else d

/-- The shortest decimal that rounds to `m * 2 ^ q`, the nearest of them. -/
def shortest (f : Format) (m : Nat) (q : Int) : Decimal :=
  if m = 0 then ⟨0, 0⟩
  else
    let i := Interval.around f m q
    let leading := leadingPlace i.mid i.den
    trim 20 (search i leading 17 1)

/-- Writes a decimal without an exponent: zeros fill the places between the
    digits and the point. -/
def plain (d : Decimal) : String :=
  let digits := toString d.digits
  if 0 ≤ d.place then
    if d.digits = 0 then "0" else digits ++ String.ofList (List.replicate d.place.toNat '0')
  else
    let places := (-d.place).toNat
    let count := digits.length
    if count ≤ places then
      "0." ++ String.ofList (List.replicate (places - count) '0') ++ digits
    else
      String.ofList (digits.toList.take (count - places)) ++ "." ++
        String.ofList (digits.toList.drop (count - places))

end Decimal

/-- Writes what a word means, without an exponent. -/
def Format.plain (f : Format) (bits : Nat) : String :=
  match f.decode bits with
  | .nan => "NaN"
  | .infinite negative => if negative then "-inf" else "inf"
  | .finite negative m q => (if negative then "-" else "") ++ (Decimal.shortest f m q).plain

/-- A float of 32 bits as the shortest decimal that reads back, without an exponent. -/
def plain32 (bits : UInt32) : String := single.plain bits.toNat

/-- A float of 64 bits as the shortest decimal that reads back, without an exponent. -/
def plain64 (bits : UInt64) : String := double.plain bits.toNat

end TaggedRpc.Float
