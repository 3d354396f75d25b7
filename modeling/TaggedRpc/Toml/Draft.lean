import TaggedRpc.Toml.Basic

/-!
# Tables under construction

A table comes about in three ways: its own header *declares* it, a longer header
*implies* it, or a key with points inside a table *dots* it. How it came about
says what may still be added:

* a header declares a table once, and an implied table may be declared later;
* a dotted key adds to tables that dotted keys have made, and may pass through
  implied ones on its way to them;
* a header of an array adds an element to the array, and longer headers go into
  the element that was added last.

No value is replaced.
-/

namespace TaggedRpc.Toml

/-- How a table came about. -/
inductive Origin where
  | declared
  | implied
  | dotted
  deriving DecidableEq, Repr

/-- What stands under a key of a table under construction. -/
inductive Node where
  | value (v : Toml)
  | table (origin : Origin) (entries : List (String × Node))
  | tables (elements : List (List (String × Node)))
  deriving Inhabited

/-- The entries of a table under construction. -/
abbrev Draft := List (String × Node)

namespace Draft

/-! ## Adding -/

/-- Replaces what stands under a key, or adds it. -/
def put (key : String) (n : Node) : Draft → Draft
  | [] => [(key, n)]
  | (k, m) :: rest => if k = key then (key, n) :: rest else (k, m) :: put key n rest

/-- Sets the value of a dotted key. `admits` says whether the table takes values
    from a key that ends in it. -/
def assign (v : Toml) : (key : List String) → (admits : Bool) → Draft → Option Draft
  | [], _, _ => none
  | [k], admits, d =>
    if admits && (d.lookup k).isNone then some (d ++ [(k, .value v)]) else none
  | k :: ks, _, d =>
    match d.lookup k with
    | none => (assign v ks true []).map fun sub => d ++ [(k, .table .dotted sub)]
    | some (.table .declared _) => none
    | some (.table origin sub) =>
      (assign v ks (origin == .dotted) sub).map fun sub => put k (.table origin sub) d
    | some (.tables elements) =>
      (assign v ks false (elements.getLastD [])).map fun last =>
        put k (.tables (elements.dropLast ++ [last])) d
    | some (.value _) => none

/-- Sets the values of dotted keys, one after another. -/
def assignAll (d : Draft) : List (List String × Toml) → Option Draft
  | [] => some d
  | (key, v) :: rest => do (← assign v key true d).assignAll rest

/-- Works on the table under a path of keys. Tables that are not there are
    implied. -/
def visit (work : Draft → Option Draft) : (path : List String) → Draft → Option Draft
  | [], d => work d
  | k :: ks, d =>
    match d.lookup k with
    | none => (visit work ks []).map fun sub => d ++ [(k, .table .implied sub)]
    | some (.table origin sub) => (visit work ks sub).map fun sub => put k (.table origin sub) d
    | some (.tables elements) =>
      (visit work ks (elements.getLastD [])).map fun last =>
        put k (.tables (elements.dropLast ++ [last])) d
    | some (.value _) => none

/-- Declares a table with the given entries. -/
def declare (key : String) (entries : List (List String × Toml)) (d : Draft) : Option Draft := do
  let start ← match d.lookup key with
    | none => some []
    | some (.table .implied sub) => some sub
    | some _ => none
  let sub ← assignAll start entries
  pure (d.filter (·.1 ≠ key) ++ [(key, .table .declared sub)])

/-- Adds an element with the given entries to an array of tables. -/
def extend (key : String) (entries : List (List String × Toml)) (d : Draft) : Option Draft := do
  let elements ← match d.lookup key with
    | none => some []
    | some (.tables elements) => some elements
    | some _ => none
  let last ← assignAll [] entries
  pure (put key (.tables (elements ++ [last])) d)

end Draft

/-! ## Finishing -/

mutual

/-- The value that a node has become. -/
def Node.finish : Node → Toml
  | .value v => v
  | .table _ entries => .table (finishEntries entries)
  | .tables elements => .array (finishElements elements)

/-- The entries of a table that is complete. -/
def finishEntries : List (String × Node) → List (String × Toml)
  | [] => []
  | (k, n) :: rest => (k, n.finish) :: finishEntries rest

/-- The elements of an array of tables that is complete. -/
def finishElements : List (List (String × Node)) → List Toml
  | [] => []
  | entries :: rest => .table (finishEntries entries) :: finishElements rest

end

/-- The table that a draft has become. -/
def Draft.finish (d : Draft) : Toml := .table (finishEntries d)

end TaggedRpc.Toml
