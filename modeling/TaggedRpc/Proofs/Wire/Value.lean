import TaggedRpc.Proofs.Wire.Scalar
import Mathlib.Data.List.Forall2

/-!
# Values that can be written

A value is *writable* at a type if it is a value of that type whose lengths have
room on the wire: fewer than 2 ^ 31 elements, pairs or bytes, and fewer than 2 ^ 32
bytes of text. It *fits* the type if moreover no two keys of a map are alike; the
pairs may be in any order.

Written and read back, a value is *settled* (`Val.settled`): negative zeros are
positive and the pairs of maps are in the order of their keys. It is still the
same value (`alike_settled`), in the sense of `Val.Alike`: floats are the same bits
but for the sign of a zero, and maps have the same pairs.

How deep a value nests is counted in two ways (`Val.nesting`): reading by a type
counts structs only, skipping counts lists and maps as well.
-/

namespace TaggedRpc.Wire

namespace Val

/-! ## Settled values -/

mutual

/-- A value with negative zeros made positive, and with the pairs of maps in the
    order of their keys. -/
def settled : Val → Val
  | float32 bits => float32 (Float.positiveZero32 bits)
  | float64 bits => float64 (Float.positiveZero64 bits)
  | list vs => list (settledAll vs)
  | map ps => map (ofPairs (settledPairs ps))
  | struct vs => struct (settledAll vs)
  | v => v

/-- Values, each settled. -/
def settledAll : List Val → List Val
  | [] => []
  | v :: vs => settled v :: settledAll vs

/-- Pairs, keys and values settled. -/
def settledPairs : List (Val × Val) → List (Val × Val)
  | [] => []
  | (k, v) :: ps => (settled k, settled v) :: settledPairs ps

end

/-- Two values are the same: floats bit by bit, except that negative zero is the
    same as positive zero, maps pair by pair in any order, and all others part by
    part. -/
inductive Alike : Val → Val → Prop
  | bool (v : Bool) : Alike (.bool v) (.bool v)
  | int (v : Int) : Alike (.int v) (.int v)
  | float32 (bits : UInt32) : Alike (.float32 bits) (.float32 (Float.positiveZero32 bits))
  | float64 (bits : UInt64) : Alike (.float64 bits) (.float64 (Float.positiveZero64 bits))
  | string (v : String) : Alike (.string v) (.string v)
  | bytes (v : Bytes) : Alike (.bytes v) (.bytes v)
  | list {vs ws : List Val} : List.Forall₂ Alike vs ws → Alike (.list vs) (.list ws)
  | map {ps qs rs : List (Val × Val)} :
    List.Forall₂ Alike (ps.map Prod.fst) (qs.map Prod.fst) →
      List.Forall₂ Alike (ps.map Prod.snd) (qs.map Prod.snd) → rs.Perm qs →
      Alike (.map ps) (.map rs)
  | struct {vs ws : List Val} : List.Forall₂ Alike vs ws → Alike (.struct vs) (.struct ws)

/-! ## Nesting -/

mutual

/-- How many containers of a value are inside one another: structs, and also
    lists and maps if `collections` says so. -/
def nesting (collections : Bool) : Val → Nat
  | list vs => nestingAll collections vs + collections.toNat
  | map ps => nestingPairs collections ps + collections.toNat
  | struct vs => nestingAll collections vs + 1
  | _ => 0

/-- The greatest nesting among values. -/
def nestingAll (collections : Bool) : List Val → Nat
  | [] => 0
  | v :: vs => max (nesting collections v) (nestingAll collections vs)

/-- The greatest nesting among the keys and values of pairs. -/
def nestingPairs (collections : Bool) : List (Val × Val) → Nat
  | [] => 0
  | (k, v) :: ps =>
    max (max (nesting collections k) (nesting collections v)) (nestingPairs collections ps)

end

/-- How many structs are inside one another. -/
abbrev structs : Val → Nat := nesting false

/-- How many structs, lists and maps are inside one another. -/
abbrev containers : Val → Nat := nesting true

mutual

/-- Structs are containers. -/
theorem structs_le_containers : ∀ v : Val, v.structs ≤ v.containers
  | bool _ | int _ | float32 _ | float64 _ | string _ | bytes _ => Nat.le_refl 0
  | list vs => Nat.add_le_add (nestingAll_le_nestingAll vs) (Nat.zero_le 1)
  | map ps => Nat.add_le_add (nestingPairs_le_nestingPairs ps) (Nat.zero_le 1)
  | struct vs => Nat.add_le_add_right (nestingAll_le_nestingAll vs) 1

theorem nestingAll_le_nestingAll : ∀ vs : List Val, nestingAll false vs ≤ nestingAll true vs
  | [] => Nat.le_refl 0
  | v :: vs => by
    have hv : nesting false v ≤ nesting true v := structs_le_containers v
    have hvs := nestingAll_le_nestingAll vs
    rw [nestingAll, nestingAll]
    omega

theorem nestingPairs_le_nestingPairs : ∀ ps : List (Val × Val),
    nestingPairs false ps ≤ nestingPairs true ps
  | [] => Nat.le_refl 0
  | (k, v) :: ps => by
    have hk : nesting false k ≤ nesting true k := structs_le_containers k
    have hv : nesting false v ≤ nesting true v := structs_le_containers v
    have hps := nestingPairs_le_nestingPairs ps
    rw [nestingPairs, nestingPairs]
    omega

end

end Val

namespace Schema

variable (σ : Schema)

mutual

/-- A value is one of a type, and its lengths have room on the wire. -/
def Writable : Ty → Val → Prop
  | .bool, .bool _ => True
  | .int t, .int v => t.Holds v
  | .float32, .float32 _ => True
  | .float64, .float64 _ => True
  | .string, .string s => (Bytes.ofText s).length < 2 ^ 32
  | .bytes _, .bytes bs => bs.length < 2 ^ 31
  | .list t, .list vs => vs.length < 2 ^ 31 ∧ WritableAll t vs
  | .map k v, .map ps => ps.length < 2 ^ 31 ∧ WritablePairs k v ps
  | .struct name, .struct vs => WritableFields (σ.layout name) vs
  | _, _ => False

/-- The elements of a list are writable at its type of elements. -/
def WritableAll (t : Ty) : List Val → Prop
  | [] => True
  | v :: vs => Writable t v ∧ WritableAll t vs

/-- The pairs of a map are writable at its types of keys and values. -/
def WritablePairs (kt vt : Ty) : List (Val × Val) → Prop
  | [] => True
  | (k, v) :: ps => Writable kt k ∧ Writable vt v ∧ WritablePairs kt vt ps

/-- Values are writable at the fields of a layout one by one. -/
def WritableFields : Layout → List Val → Prop
  | [], [] => True
  | f :: fs, v :: vs => Writable f.type v ∧ WritableFields fs vs
  | _, _ => False

end

mutual

/-- A value is one of a type, its lengths have room on the wire, and the keys of its maps
    are different, also once they are settled. -/
def Fits : Ty → Val → Prop
  | .bool, .bool _ => True
  | .int t, .int v => t.Holds v
  | .float32, .float32 _ => True
  | .float64, .float64 _ => True
  | .string, .string s => (Bytes.ofText s).length < 2 ^ 32
  | .bytes _, .bytes bs => bs.length < 2 ^ 31
  | .list t, .list vs => vs.length < 2 ^ 31 ∧ FitsAll t vs
  | .map k v, .map ps =>
    ps.length < 2 ^ 31 ∧ ((Val.settledPairs ps).map Prod.fst).Nodup ∧ FitsPairs k v ps
  | .struct name, .struct vs => FitsFields (σ.layout name) vs
  | _, _ => False

/-- The elements of a list fit its type of elements. -/
def FitsAll (t : Ty) : List Val → Prop
  | [] => True
  | v :: vs => Fits t v ∧ FitsAll t vs

/-- The pairs of a map fit its types of keys and values. -/
def FitsPairs (kt vt : Ty) : List (Val × Val) → Prop
  | [] => True
  | (k, v) :: ps => Fits kt k ∧ Fits vt v ∧ FitsPairs kt vt ps

/-- Values fit the fields of a layout one by one. -/
def FitsFields : Layout → List Val → Prop
  | [], [] => True
  | f :: fs, v :: vs => Fits f.type v ∧ FitsFields fs vs
  | _, _ => False

end

variable {σ}

mutual

/-- A value that fits its type is writable. -/
theorem Fits.writable : ∀ {v : Val} {t : Ty}, σ.Fits t v → σ.Writable t v
  | .bool _, .bool, _ | .float32 _, .float32, _ | .float64 _, .float64, _ => by rw [Writable]; trivial
  | .int _, .int _, h | .string _, .string, h | .bytes _, .bytes _, h => by
    rw [Fits] at h
    rwa [Writable]
  | .list _, .list _, h => by
    rw [Fits] at h
    rw [Writable]
    exact ⟨h.1, h.2.writable⟩
  | .map _, .map _ _, h => by
    rw [Fits] at h
    rw [Writable]
    exact ⟨h.1, h.2.2.writable⟩
  | .struct _, .struct _, h => by
    rw [Fits] at h
    rw [Writable]
    exact h.writable

theorem FitsAll.writable : ∀ {vs : List Val} {t : Ty}, σ.FitsAll t vs → σ.WritableAll t vs
  | [], _, _ => by rw [WritableAll]; trivial
  | _ :: _, _, h => by
    rw [FitsAll] at h
    rw [WritableAll]
    exact ⟨h.1.writable, h.2.writable⟩

theorem FitsPairs.writable : ∀ {ps : List (Val × Val)} {kt vt : Ty}, σ.FitsPairs kt vt ps →
    σ.WritablePairs kt vt ps
  | [], _, _, _ => by rw [WritablePairs]; trivial
  | (_, _) :: _, _, _, h => by
    rw [FitsPairs] at h
    rw [WritablePairs]
    exact ⟨h.1.writable, h.2.1.writable, h.2.2.writable⟩

theorem FitsFields.writable : ∀ {vs : List Val} {fs : Layout}, σ.FitsFields fs vs →
    σ.WritableFields fs vs
  | [], [], _ => by rw [WritableFields]; trivial
  | _ :: _, _ :: _, h => by
    rw [FitsFields] at h
    rw [WritableFields]
    exact ⟨h.1.writable, h.2.writable⟩

end

end Schema

namespace Val

/-! ## Keys -/

mutual

/-- Values that compare equal are equal. -/
theorem eq_of_compare : ∀ {a b : Val}, compare a b = .eq → a = b
  | bool a, bool b, h => by
    have := Std.LawfulEqOrd.eq_of_compare h
    cases a <;> cases b <;> trivial
  | int _, int _, h => congrArg int (Std.LawfulEqOrd.eq_of_compare h)
  | float32 _, float32 _, h =>
    congrArg float32 (UInt32.toNat_inj.1 (Std.LawfulEqOrd.eq_of_compare h))
  | float64 _, float64 _, h =>
    congrArg float64 (UInt64.toNat_inj.1 (Std.LawfulEqOrd.eq_of_compare h))
  | string _, string _, h => congrArg string (Std.LawfulEqOrd.eq_of_compare h)
  | bytes _, bytes _, h => by
    rw [compare, compareOfLessAndEq_eq_eq List.le_refl List.not_le] at h
    rw [h]
  | list _, list _, h => congrArg list (eq_of_compareAll (by rwa [compare] at h))
  | map _, map _, h => congrArg map (eq_of_comparePairs (by rwa [compare] at h))
  | struct _, struct _, h => congrArg struct (eq_of_compareAll (by rwa [compare] at h))

theorem eq_of_compareAll : ∀ {as bs : List Val}, compareAll as bs = .eq → as = bs
  | [], [], _ => rfl
  | _ :: _, _ :: _, h => by
    rw [compareAll, Ordering.then_eq_eq] at h
    rw [eq_of_compare h.1, eq_of_compareAll h.2]

theorem eq_of_comparePairs : ∀ {ps qs : List (Val × Val)}, comparePairs ps qs = .eq → ps = qs
  | [], [], _ => rfl
  | _ :: _, _ :: _, h => by
    rw [comparePairs, Ordering.then_eq_eq, Ordering.then_eq_eq] at h
    rw [Prod.ext (eq_of_compare h.1.1) (eq_of_compare h.1.2), eq_of_comparePairs h.2]

end

/-- A pair with a new key comes in beside the others. -/
theorem perm_insertPair {k v : Val} : ∀ {ps : List (Val × Val)}, k ∉ ps.map Prod.fst →
    (insertPair k v ps).Perm ((k, v) :: ps)
  | [], _ => .refl _
  | (l, w) :: ps, h => by
    rw [List.map_cons, List.mem_cons, not_or] at h
    rw [insertPair]
    split
    · exact .refl _
    · rename_i heq
      exact absurd (eq_of_compare heq) h.1
    · exact ((perm_insertPair h.2).cons _).trans (.swap _ _ _)

/-- A map of pairs with different keys has these pairs. -/
theorem perm_ofPairs {ps : List (Val × Val)} (h : (ps.map Prod.fst).Nodup) :
    (ofPairs ps).Perm ps := by
  -- The pairs come into a map one by one; its keys and those still to come differ.
  suffices ∀ m, ((m ++ ps).map Prod.fst).Nodup →
      (ps.foldl (fun m p => insertPair p.1 p.2 m) m).Perm (m ++ ps) from this [] h
  clear h
  induction ps with
  | nil => intro m _; rw [List.append_nil]; rfl
  | cons p ps ih =>
    intro m hm
    obtain ⟨k, v⟩ := p
    have hperm : (m ++ (k, v) :: ps).Perm ((k, v) :: m ++ ps) := List.perm_middle
    rw [(hperm.map Prod.fst).nodup_iff] at hm
    have hnew : k ∉ m.map Prod.fst := fun hk => (List.nodup_cons.1 hm).1
      (List.map_append ▸ List.mem_append_left (ps.map Prod.fst) hk)
    have hins := (perm_insertPair (v := v) hnew).append_right ps
    exact ((ih _ (by rwa [(hins.map Prod.fst).nodup_iff])).trans hins).trans hperm.symm

/-! ## What is read back is the same -/

variable {σ : Schema}

mutual

/-- A settled value is the same value. -/
theorem alike_settled : ∀ {v : Val} {t : Ty}, σ.Fits t v → Alike v v.settled
  | bool v, _, _ => .bool v
  | int v, _, _ => .int v
  | float32 bits, _, _ => .float32 bits
  | float64 bits, _, _ => .float64 bits
  | string v, _, _ => .string v
  | bytes v, _, _ => .bytes v
  | list _, .list _, h => .list (alike_settledAll (by rw [Schema.Fits] at h; exact h.2))
  | map ps, .map _ _, h => by
    rw [Schema.Fits] at h
    obtain ⟨hk, hv⟩ := alike_settledPairs h.2.2
    exact .map hk hv (perm_ofPairs h.2.1)
  | struct _, .struct _, h => .struct (alike_settledFields (by rwa [Schema.Fits] at h))

theorem alike_settledAll : ∀ {vs : List Val} {t : Ty}, σ.FitsAll t vs →
    List.Forall₂ Alike vs (settledAll vs)
  | [], _, _ => .nil
  | _ :: _, _, h => by
    rw [Schema.FitsAll] at h
    exact .cons (alike_settled h.1) (alike_settledAll h.2)

theorem alike_settledPairs : ∀ {ps : List (Val × Val)} {kt vt : Ty}, σ.FitsPairs kt vt ps →
    List.Forall₂ Alike (ps.map Prod.fst) ((settledPairs ps).map Prod.fst) ∧
      List.Forall₂ Alike (ps.map Prod.snd) ((settledPairs ps).map Prod.snd)
  | [], _, _, _ => ⟨.nil, .nil⟩
  | (_, _) :: _, _, _, h => by
    rw [Schema.FitsPairs] at h
    obtain ⟨hk, hv⟩ := alike_settledPairs h.2.2
    exact ⟨.cons (alike_settled h.1) hk, .cons (alike_settled h.2.1) hv⟩

theorem alike_settledFields : ∀ {vs : List Val} {fs : Layout}, σ.FitsFields fs vs →
    List.Forall₂ Alike vs (settledAll vs)
  | [], _, _ => .nil
  | _ :: _, _ :: _, h => by
    rw [Schema.FitsFields] at h
    exact .cons (alike_settled h.1) (alike_settledFields h.2)

end

end Val

end TaggedRpc.Wire
