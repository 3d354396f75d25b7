/-!
# Numbers in words

A number in a word is written in decimal digits of ASCII, after a plus sign if
it likes, or after a minus sign where negative numbers are admitted. It must lie
in the range of its type.
-/

namespace TaggedRpc.Text

/-- The number that one or more decimal digits spell. -/
def digits? (cs : List Char) : Option Nat :=
  if cs.isEmpty ∨ ¬cs.all Char.isDigit then none
  else some (cs.foldl (fun n c => 10 * n + (c.toNat - 48)) 0)

/-- A natural number up to a bound. -/
def nat? (bound : Nat) (s : String) : Option Nat :=
  let digits := match s.toList with
    | '+' :: cs => cs
    | cs => cs
  (digits? digits).filter fun n => n ≤ bound

/-- An integer in a range. -/
def int? (low high : Int) (s : String) : Option Int :=
  let v : Option Int := match s.toList with
    | '-' :: cs => (digits? cs).map fun n => -(n : Int)
    | '+' :: cs => (digits? cs).map fun n => (n : Int)
    | cs => (digits? cs).map fun n => (n : Int)
  v.filter fun v => low ≤ v ∧ v ≤ high

end TaggedRpc.Text
