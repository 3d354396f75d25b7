/-!
# Why nothing is selected

The failures of selectors, each with the name of the selector.
-/

namespace TaggedRpc.Selection

/-- A failure of a selector. -/
inductive SelectError where
  /-- There is no endpoint to select. -/
  | empty (selector : String)
  /-- The endpoint to add is there already. -/
  | alreadyExists (selector key : String)
  /-- The endpoint to remove is not there. -/
  | notFound (selector key : String)
  deriving DecidableEq, Repr, Inhabited

/-- The wording of a failure. -/
def SelectError.message : SelectError → String
  | .empty selector => s!"{selector}: no endpoint to select"
  | .alreadyExists selector key => s!"{selector}: endpoint {key} already exists"
  | .notFound selector key => s!"{selector}: endpoint {key} already removed"

end TaggedRpc.Selection
