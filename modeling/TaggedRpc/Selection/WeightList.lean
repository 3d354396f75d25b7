import TaggedRpc.Endpoint.Basic

/-!
# Weight lists

A *weight list* lays out the rotation of weighted endpoints ahead of time: the
positions of the endpoints, each as often as its weight says. It exists only if
the weight of every endpoint counts.

Weights are first scaled to *shares*: the greatest weight gets the whole range,
which is the ratio of the greatest to the least weight kept between 10 and 100,
or 1 if some weight is not positive. An endpoint whose share is rounded down to
nothing comes first, once.

The others are dealt out smoothly: on each turn the one with the highest score
is listed and pays the total of the shares, and every one gains its share. Of
equal scores the last in the order of the canonical texts wins.
-/

namespace TaggedRpc.Selection.WeightList

/-- The least range of shares for positive weights. -/
def minRange : Int := 10

/-- The greatest range of shares. -/
def maxRange : Int := 100

/-- An endpoint that takes part in the deal: its position, its share, its
    canonical text, and its running score. -/
structure Player where
  index : Nat
  share : Int
  text : String
  score : Int
  deriving DecidableEq, Repr

/-- The order of players by score, then by text. -/
def Player.le (a b : Player) : Bool :=
  a.score < b.score || (a.score == b.score && a.text ≤ b.text)

/-- One turn: the position that is listed, and the players in their next order,
    which decides between players of equal scores and texts. -/
def turn (total : Int) (players : List Player) : Option Nat × List Player :=
  match (players.mergeSort Player.le).reverse with
  | [] => (none, [])
  | top :: others =>
    (some top.index, { top with score := top.score - total + top.share } ::
      others.map fun p => { p with score := p.score + p.share })

/-- The positions that a number of turns list. -/
def deal (total : Int) : (turns : Nat) → List Player → List Nat
  | 0, _ => []
  | turns + 1, players =>
    let (index, players) := turn total players
    index.toList ++ deal total turns players

/-- The range of shares, and what the total of the shares starts from. -/
def range (least greatest : Int) : Int × Int :=
  if 0 < least then (min maxRange (max minRange (Int.tdiv greatest least)), 0) else (1, 1)

/-- The weight list of endpoints, if the weight of every one counts. -/
def build (endpoints : List Endpoint) : Option (List Nat) :=
  if endpoints.any fun e => !e.isStatic then none
  else
    let weights := endpoints.map fun e => e.weight.toInt
    match weights with
    | [] => some []
    | w :: ws =>
      let least := ws.foldl min w
      let greatest := ws.foldl max w
      if greatest ≤ 0 then some (List.range endpoints.length)
      else
        let (range, start) := range least greatest
        let player := fun (e, i) =>
          let share := Int.tdiv (e.weight.toInt * range) greatest
          ({ index := i, share, text := e.text, score := share } : Player)
        let all := endpoints.zipIdx.map player
        let players := all.filter fun p => 0 < p.share
        let total := players.foldl (fun sum p => sum + p.share) start
        let first := (all.filter fun p => !decide (0 < p.share)).map Player.index
        some (first ++ deal total total.toNat players)

end TaggedRpc.Selection.WeightList
