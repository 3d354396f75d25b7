/-!
# Smooth weighted rotation

A rotation of items by weight that spreads the picks of each. Every item has a
running score. A pick adds to every score the weight of its item, takes the item
with the highest score, the first of equals, and subtracts from its score the
total of the weights.

Weights and scores are words of 64 bits.
-/

namespace TaggedRpc.Selection

/-- An item of a rotation. -/
structure Smooth.Node (α : Type) where
  item : α
  weight : Int64
  score : Int64
  deriving DecidableEq, Repr

/-- A rotation: the items in the order in which they were added. -/
structure Smooth (α : Type) where
  nodes : List (Smooth.Node α) := []
  deriving DecidableEq, Repr

namespace Smooth

variable {α : Type} [DecidableEq α]

/-- Adds an item, or changes its weight, and sets all scores to zero. A weight
    that is not positive is refused. -/
def add (s : Smooth α) (item : α) (weight : Int64) : Bool × Smooth α :=
  if weight ≤ 0 then (false, s)
  else
    let nodes :=
      if s.nodes.any (·.item = item) then
        s.nodes.map fun n => if n.item = item then { n with weight } else n
      else s.nodes ++ [⟨item, weight, 0⟩]
    (true, ⟨nodes.map fun n => { n with score := 0 }⟩)

/-- Removes an item. Says whether it was there. -/
def remove (s : Smooth α) (item : α) : Bool × Smooth α :=
  (s.nodes.any (·.item = item), ⟨s.nodes.filter fun n => !decide (n.item = item)⟩)

/-- The total of the weights. -/
def total (s : Smooth α) : Int64 :=
  s.nodes.foldl (fun t n => t + n.weight) 0

/-- The first node with the highest score. -/
def highest : List (Node α) → Option (Node α)
  | [] => none
  | n :: ns => some (ns.foldl (fun best n => if best.score < n.score then n else best) n)

/-- Picks an item. -/
def next (s : Smooth α) : Option α × Smooth α :=
  let nodes := s.nodes.map fun n => { n with score := n.score + n.weight }
  match highest nodes with
  | none => (none, s)
  | some top =>
    (some top.item, ⟨nodes.map fun n =>
      if n.item = top.item then { n with score := n.score - s.total } else n⟩)

/-- Picks a number of items in turn. -/
def picks (s : Smooth α) : (n : Nat) → List (Option α) × Smooth α
  | 0 => ([], s)
  | n + 1 =>
    let (item, s) := s.next
    let (items, s) := picks s n
    (item :: items, s)

end Smooth

end TaggedRpc.Selection
