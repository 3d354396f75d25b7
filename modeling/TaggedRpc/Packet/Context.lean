import TaggedRpc.Wire.Schema

/-!
# Contexts

A packet carries two maps of texts, its context and its status. Such a map keeps
its keys in the order of their bytes, each once, so two maps with the same
entries are equal and are written alike.

* `Context.insert`: the later of two values for one key wins;
* `Context.encode`, `Context.decode`: a map as one field.
-/

namespace TaggedRpc

/-- A map of texts, sorted by key. -/
structure Context where
  /-- The entries, in the order of their keys. -/
  pairs : List (String × String)
  /-- The keys ascend. -/
  sorted : pairs.Pairwise fun a b => a.1 < b.1
  deriving DecidableEq, Repr

namespace Context

/-- The map without entries. -/
def empty : Context := ⟨[], .nil⟩

instance : Inhabited Context := ⟨empty⟩

/-- Puts an entry into a sorted list of entries, in place of the one with the
    same key. -/
def insertPair (k v : String) : List (String × String) → List (String × String)
  | [] => [(k, v)]
  | (l, w) :: rest =>
    if k < l then (k, v) :: (l, w) :: rest
    else if k = l then (k, v) :: rest
    else (l, w) :: insertPair k v rest

theorem mem_insertPair {k v : String} {p : String × String} :
    ∀ {ps : List (String × String)}, p ∈ insertPair k v ps → p = (k, v) ∨ p ∈ ps
  | [], h => by simpa [insertPair] using h
  | (l, w) :: rest, h => by
    unfold insertPair at h
    split at h
    · simpa using h
    · split at h
      · rcases List.mem_cons.1 h with h | h
        · exact .inl h
        · exact .inr (List.mem_cons_of_mem _ h)
      · rcases List.mem_cons.1 h with h | h
        · exact .inr (h ▸ List.mem_cons_self)
        · exact (mem_insertPair h).imp id (List.mem_cons_of_mem _)

theorem sorted_insertPair {k v : String} : ∀ {ps : List (String × String)},
    ps.Pairwise (fun a b => a.1 < b.1) → (insertPair k v ps).Pairwise fun a b => a.1 < b.1
  | [], _ => by simp [insertPair]
  | (l, w) :: rest, h => by
    obtain ⟨h₁, h₂⟩ := List.pairwise_cons.1 h
    unfold insertPair
    split
    · rename_i hk
      refine List.pairwise_cons.2 ⟨fun p hp => ?_, h⟩
      rcases List.mem_cons.1 hp with rfl | hp
      · exact hk
      · exact String.lt_trans hk (h₁ p hp)
    · split
      · rename_i _ hk
        subst hk
        exact List.pairwise_cons.2 ⟨h₁, h₂⟩
      · rename_i hlt hne
        refine List.pairwise_cons.2 ⟨fun p hp => ?_, sorted_insertPair h₂⟩
        rcases mem_insertPair hp with rfl | hp
        · exact Decidable.byContradiction fun h =>
            hne (String.le_antisymm (String.not_lt.1 h) (String.not_lt.1 hlt))
        · exact h₁ p hp

/-- Sets the value of a key. -/
def insert (c : Context) (k v : String) : Context :=
  ⟨insertPair k v c.pairs, sorted_insertPair c.sorted⟩

/-- The value of a key. -/
def get? (c : Context) (k : String) : Option String :=
  c.pairs.lookup k

/-- The map of a list of entries, of which the later ones win. -/
def ofList (ps : List (String × String)) : Context :=
  ps.foldl (fun c (k, v) => c.insert k v) empty

/-- The map as one field. -/
def encode (c : Context) (tag : Wire.Tag) : Bytes :=
  Wire.Writer.mapHeader c.pairs.length tag ++
    c.pairs.flatMap fun (k, v) => Wire.Writer.string k 0 ++ Wire.Writer.string v 1

/-- The map in one field; the empty one where the field is absent. -/
def decode (tag : Wire.Tag) (required : Bool) : Wire.Read Context := do
  match ← Wire.Read.mapLength tag required with
  | none => pure empty
  | some n =>
    let pair : Wire.Read (String × String) := do
      let k ← Wire.Read.string 0 true
      let v ← Wire.Read.string 1 true
      pure (k.getD "", v.getD "")
    ofList <$> Wire.Read.replicate pair n

end Context

end TaggedRpc
