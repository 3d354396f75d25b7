import TaggedRpc.Selection.Error
import TaggedRpc.Selection.WeightList

/-!
# Members

The endpoints that a list-based selector selects from, in the order in which
they were added, with their keys and, where weights count, their weight list.
Every key is there once: an endpoint that is there already is not added again,
and of repeated endpoints in a new list the first is kept.
-/

namespace TaggedRpc.Selection

/-- The endpoints of a list-based selector. -/
structure Members where
  endpoints : List Endpoint := []
  keys : List String := []
  /-- The positions of a weighted rotation; empty where weights do not count. -/
  weightList : List Nat := []
  deriving DecidableEq, Repr, Inhabited

namespace Members

/-- Adds an endpoint, without its weight. -/
def add (m : Members) (selector : String) (e : Endpoint) : Except SelectError Members :=
  if m.keys.contains e.key then .error (.alreadyExists selector e.key)
  else .ok { m with endpoints := m.endpoints ++ [e], keys := e.key :: m.keys }

/-- Removes an endpoint. -/
def remove (m : Members) (selector : String) (e : Endpoint) : Except SelectError Members :=
  if m.keys.contains e.key then
    .ok { m with endpoints := m.endpoints.filter fun x => !decide (x.Same e)
                 keys := m.keys.filter (· != e.key) }
  else .error (.notFound selector e.key)

/-- The members of a new list. -/
def ofList (endpoints : List Endpoint) : Members :=
  endpoints.foldl (fun m e => (m.add "refresh" e).toOption.getD m) {}

/-- Lays out the rotation anew. -/
def reweigh (m : Members) (weighted : Bool) : Members :=
  { m with weightList := if weighted then (WeightList.build m.endpoints).getD [] else [] }

/-- The endpoint at a position of the rotation, counted modulo its length. -/
def pick (m : Members) (selector : String) (position : Nat) : Except SelectError Endpoint :=
  let index :=
    if m.weightList.isEmpty then some (position % m.endpoints.length)
    else m.weightList[position % m.weightList.length]?
  match index.bind fun i => m.endpoints[i]? with
  | some e => .ok e
  | none => .error (.empty selector)

end Members

end TaggedRpc.Selection
