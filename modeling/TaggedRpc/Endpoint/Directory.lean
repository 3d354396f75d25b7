import TaggedRpc.Error
import TaggedRpc.Endpoint.Basic

/-!
# Directories

A *directory* tells which endpoints serve an object at the moment, and which do
not. It has one entry for the object as such and may have others for the object
in a set; a question about a set without an entry is answered by the entry of
the object. The key of an entry is the object, with the set after a hash sign.

A directory can be out of reach, and counts the questions all the same.
-/

namespace TaggedRpc

/-- The endpoints of an object, active and inactive. -/
structure Roster where
  active : List Endpoint
  inactive : List Endpoint
  deriving DecidableEq, Repr, Inhabited

/-- A directory in memory. -/
structure Directory where
  table : List (String × Roster) := []
  queries : Nat := 0
  unavailable : Bool := false
  deriving DecidableEq, Repr, Inhabited

namespace Directory

/-- The key of an entry. The empty set is no set. -/
def key (object : String) (set : Option String) : String :=
  match set with
  | some set => if set = "" then object else object ++ "#" ++ set
  | none => object

/-- Enters the endpoints of an object in a set. -/
def set (d : Directory) (object : String) (set : Option String) (r : Roster) : Directory :=
  { d with table := (key object set, r) :: d.table.filter (·.1 != key object set) }

/-- Removes the entry of an object as such. -/
def remove (d : Directory) (object : String) : Directory :=
  { d with table := d.table.filter (·.1 != key object none) }

/-- What the table says on an object in a set. -/
def lookup? (d : Directory) (object : String) (set : Option String) : Option Roster :=
  (d.table.lookup (key object set)).or (d.table.lookup (key object none))

/-- Asks for the endpoints of an object in a set. -/
def query (d : Directory) (object : String) (set : Option String) :
    Except RpcError Roster × Directory :=
  let answer :=
    if d.unavailable then .error (.registry "registry unavailable")
    else
      match d.lookup? object set with
      | some r => .ok r
      | none => .error (.registry s!"no endpoints registered for {object}")
  (answer, { d with queries := d.queries + 1 })

end Directory

end TaggedRpc
