/-!
# Calls under way

A counter of the calls of one object that are under way, with a limit. A call
*enters*: it is counted, and learns how many there were before it. If these have
reached the limit it leaves again at once and is refused; otherwise it is
admitted, and leaves when it ends. So a call that is about to be refused is
counted for a moment.
-/

namespace TaggedRpc

/-- The calls under way. -/
structure InFlight where
  limit : Nat
  count : Nat := 0
  deriving DecidableEq, Repr, Inhabited

namespace InFlight

/-- Counts a call. Gives the number of calls before it. -/
def enter (f : InFlight) : Nat × InFlight := (f.count, { f with count := f.count + 1 })

/-- Whether a call is admitted after as many calls. -/
def admits (f : InFlight) (previous : Nat) : Bool := previous < f.limit

/-- A call leaves. -/
def leave (f : InFlight) : InFlight := { f with count := f.count - 1 }

/-- Admits a call, or tells how many others were under way. -/
def acquire (f : InFlight) : Except Nat Unit × InFlight :=
  let (previous, f) := f.enter
  if f.admits previous then (.ok (), f) else (.error previous, f.leave)

end InFlight

end TaggedRpc
