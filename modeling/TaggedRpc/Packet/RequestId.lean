/-!
# Request ids

Ids are handed out in order from 1 to the greatest signed word of 32 bits, and
then from 1 again. The id 0, which marks a push, and the negative words are
never handed out.
-/

namespace TaggedRpc.RequestId

/-- The id after another one. -/
def next (id : Int32) : Int32 :=
  if id ≤ 0 ∨ id = Int32.maxValue then 1 else id + 1

/-- The next `n` ids after `id`. -/
def following (id : Int32) : (n : Nat) → List Int32
  | 0 => []
  | n + 1 => next id :: following (next id) n

end TaggedRpc.RequestId
