import TaggedRpc.Power

/-!
# Durations

A duration is a number of nanoseconds. Its text uses the largest of the units
s, ms, µs and ns of which it holds at least one, with as many decimals as it
needs; no duration at all is `0ns`.
-/

namespace TaggedRpc

/-- A number of nanoseconds. -/
structure Duration where
  nanos : Nat
  deriving DecidableEq, Repr, Inhabited

namespace Duration

/-- A number of milliseconds. -/
def ofMillis (n : Nat) : Duration := ⟨n * 1000000⟩

/-- The whole milliseconds of a duration. -/
def millis (d : Duration) : Nat := d.nanos / 1000000

/-- The whole microseconds of a duration. -/
def micros (d : Duration) : Nat := d.nanos / 1000

/-- The decimals that show `n` in `places` places, without zeros at the end. -/
def decimals (places n : Nat) : List Char :=
  let digits := (toString n).toList
  let padded := List.replicate (places - digits.length) '0' ++ digits
  (padded.reverse.dropWhile (· = '0')).reverse

/-- A number of nanoseconds in a unit of `10 ^ places` nanoseconds. -/
def inUnit (places nanos : Nat) (unit : String) : String :=
  let fraction := decimals places (nanos % 10 ^ places)
  toString (nanos / 10 ^ places) ++
    (if fraction.isEmpty then "" else "." ++ String.ofList fraction) ++ unit

/-- The text of a duration. -/
def text (d : Duration) : String :=
  if 1000000000 ≤ d.nanos then inUnit 9 d.nanos "s"
  else if 1000000 ≤ d.nanos then inUnit 6 d.nanos "ms"
  else if 1000 ≤ d.nanos then inUnit 3 d.nanos "µs"
  else inUnit 0 d.nanos "ns"

end Duration

end TaggedRpc
