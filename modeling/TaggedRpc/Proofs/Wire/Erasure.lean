import TaggedRpc.Wire.Tree
import TaggedRpc.Proofs.Wire.Value

/-!
# Values without their types

What goes on the wire does not depend on the types that a value was written at,
but only on its *erasure*, a tree (`encode_eq_write`): integers of all widths and
truth values are integers, a zero float is the integer zero, and a struct is its
fields by tag. So what holds of the bytes of every tree holds of the bytes of
every value.

A tree goes as a head and a payload, which does not depend on the tag:
`Tree.write` puts one after the other.
-/

namespace TaggedRpc.Wire

namespace Tree

/-! ## Writing trees -/

/-- The layout of a text with some bytes. -/
def textLayout (bs : Bytes) : WireType × Bytes :=
  if bs.length < 256 then (.string1, Bytes.ofNat 1 bs.length ++ bs)
  else (.string4, Bytes.ofNat 4 bs.length ++ bs)

/-- The wire type that a tree goes as. -/
def wireType : Tree → WireType
  | int v => (Writer.narrowest v).1
  | float32 _ => .float
  | float64 _ => .double
  | string s => (textLayout (Bytes.ofText s)).1
  | rawString bs => (textLayout bs).1
  | bytes _ => .simpleList
  | list _ => .list
  | map _ => .map
  | struct _ => .structBegin

/-- The count of a container. -/
def count (n : Nat) : Bytes := Writer.int32 (Int32.ofNat n) 0

mutual

/-- What follows the head of a tree. -/
def payload : Tree → Bytes
  | int v => (Writer.narrowest v).2
  | float32 bits => Bytes.ofNat 4 bits.toNat
  | float64 bits => Bytes.ofNat 8 bits.toNat
  | string s => (textLayout (Bytes.ofText s)).2
  | rawString bs => (textLayout bs).2
  | bytes bs => Writer.head .byte 0 ++ (count bs.length ++ bs)
  | list vs => count vs.length ++ writeElements vs
  | map ps => count ps.length ++ writePairs ps
  | struct fs => writeFields fs ++ Writer.head .structEnd 0

/-- Writes the elements of a list. -/
def writeElements : List Tree → Bytes
  | [] => []
  | v :: vs => Writer.head v.wireType 0 ++ payload v ++ writeElements vs

/-- Writes the pairs of a map. -/
def writePairs : List (Tree × Tree) → Bytes
  | [] => []
  | (k, v) :: ps =>
    Writer.head k.wireType 0 ++ payload k ++
      (Writer.head v.wireType 1 ++ payload v ++ writePairs ps)

/-- Writes fields. -/
def writeFields : List (Tag × Tree) → Bytes
  | [] => []
  | (tag, v) :: fs => Writer.head v.wireType tag ++ payload v ++ writeFields fs

end

/-- Writes a tree as one field. -/
def write (v : Tree) (tag : Tag) : Bytes := Writer.head v.wireType tag ++ payload v

theorem wireType_ne_structEnd (v : Tree) : v.wireType ≠ .structEnd := by
  have htext : ∀ bs, (textLayout bs).1 ≠ .structEnd := by
    intro bs
    unfold textLayout
    split <;> nofun
  cases v with
  | int v => exact Read.narrowest_ne_structEnd v
  | string s => exact htext _
  | rawString bs => exact htext bs
  | _ => nofun

mutual

/-- The lengths of a tree have room on the wire. -/
def Fits : Tree → Prop
  | int v => IntType.int64.Holds v
  | string s => (Bytes.ofText s).length < 2 ^ 32
  | rawString bs => bs.length < 2 ^ 32
  | bytes bs => bs.length < 2 ^ 31
  | list vs => vs.length < 2 ^ 31 ∧ FitsAll vs
  | map ps => ps.length < 2 ^ 31 ∧ FitsPairs ps
  | struct fs => FitsFields fs
  | float32 _ | float64 _ => True

/-- The lengths of trees have room. -/
def FitsAll : List Tree → Prop
  | [] => True
  | v :: vs => Fits v ∧ FitsAll vs

/-- The lengths of keys and values have room. -/
def FitsPairs : List (Tree × Tree) → Prop
  | [] => True
  | (k, v) :: ps => Fits k ∧ Fits v ∧ FitsPairs ps

/-- The lengths of fields have room. -/
def FitsFields : List (Tag × Tree) → Prop
  | [] => True
  | (_, v) :: fs => Fits v ∧ FitsFields fs

end

mutual

/-- How many containers of a tree are inside one another. -/
def nesting : Tree → Nat
  | list vs => nestingAll vs + 1
  | map ps => nestingPairs ps + 1
  | struct fs => nestingFields fs + 1
  | _ => 0

/-- The greatest nesting among trees. -/
def nestingAll : List Tree → Nat
  | [] => 0
  | v :: vs => max (nesting v) (nestingAll vs)

/-- The greatest nesting among the keys and values of pairs. -/
def nestingPairs : List (Tree × Tree) → Nat
  | [] => 0
  | (k, v) :: ps => max (max (nesting k) (nesting v)) (nestingPairs ps)

/-- The greatest nesting among fields. -/
def nestingFields : List (Tag × Tree) → Nat
  | [] => 0
  | (_, v) :: fs => max (nesting v) (nestingFields fs)

end

theorem write_length_pos (v : Tree) (tag : Tag) : 0 < (write v tag).length := by
  have := Read.head_length_pos v.wireType tag
  rw [write, List.length_append]
  omega

/-- Every element takes at least one byte. -/
theorem length_le_writeElements (vs : List Tree) : vs.length ≤ (writeElements vs).length := by
  induction vs with
  | nil => exact Nat.zero_le _
  | cons v vs ih =>
    have := write_length_pos v 0
    show _ ≤ (write v 0 ++ writeElements vs).length
    rw [List.length_cons, List.length_append]
    omega

/-- Every key and every value takes at least one byte. -/
theorem length_le_writePairs (ps : List (Tree × Tree)) :
    2 * ps.length ≤ (writePairs ps).length := by
  induction ps with
  | nil => exact Nat.zero_le _
  | cons p ps ih =>
    have := write_length_pos p.1 0
    have := write_length_pos p.2 1
    show _ ≤ (write p.1 0 ++ (write p.2 1 ++ writePairs ps)).length
    rw [List.length_cons, List.length_append, List.length_append]
    omega

end Tree

/-- A text goes as its tree does. -/
theorem Writer.string_eq_write (s : String) (tag : Tag) :
    Writer.string s tag = (Tree.string s).write tag := by
  rw [Tree.write, Tree.wireType, Tree.payload, Tree.textLayout, Writer.string]
  split <;> exact List.append_assoc _ _ _

/-! ## Erasing types -/

namespace Schema

variable (σ : Schema)

mutual

/-- The tree of a value of a type. -/
def erase : Ty → Val → Tree
  | .bool, .bool v => .int v.toNat
  | .int _, .int v => .int v
  | .float32, .float32 bits => if bits.toNat % 2 ^ 31 = 0 then .int 0 else .float32 bits
  | .float64, .float64 bits => if bits.toNat % 2 ^ 63 = 0 then .int 0 else .float64 bits
  | .string, .string s => .string s
  | .bytes _, .bytes bs => .bytes bs
  | .list t, .list vs => .list (eraseAll t vs)
  | .map k v, .map ps => .map (erasePairs k v ps)
  | .struct name, .struct vs => .struct (eraseFields (σ.layout name) vs)
  | _, _ => .struct []

/-- The trees of the elements of a list. -/
def eraseAll (t : Ty) : List Val → List Tree
  | [] => []
  | v :: vs => erase t v :: eraseAll t vs

/-- The trees of the pairs of a map. -/
def erasePairs (kt vt : Ty) : List (Val × Val) → List (Tree × Tree)
  | [] => []
  | (k, v) :: ps => (erase kt k, erase vt v) :: erasePairs kt vt ps

/-- The trees of fields. -/
def eraseFields : Layout → List Val → List (Tag × Tree)
  | f :: fs, v :: vs => (f.tag, erase f.type v) :: eraseFields fs vs
  | _, _ => []

end

@[simp] theorem length_eraseAll (t : Ty) (vs : List Val) :
    (σ.eraseAll t vs).length = vs.length := by
  induction vs with
  | nil => rfl
  | cons v vs ih => rw [eraseAll, List.length_cons, ih, List.length_cons]

@[simp] theorem length_erasePairs (kt vt : Ty) (ps : List (Val × Val)) :
    (σ.erasePairs kt vt ps).length = ps.length := by
  induction ps with
  | nil => rfl
  | cons p ps ih => rw [erasePairs, List.length_cons, ih, List.length_cons]

variable {σ}

mutual

/-- A value goes on the wire as its erasure does. -/
theorem encode_eq_write : ∀ {v : Val} {t : Ty} {tag : Tag}, σ.Writable t v →
    σ.encode t v tag = (σ.erase t v).write tag
  | .bool v, .bool, tag, _ => by
    cases v <;> rw [encode, Writer.bool, Writer.int8_eq_integer] <;> rfl
  | .int v, .int t, tag, h => by
    rw [encode, encodeInt_eq_integer (by rwa [Writable] at h)]
    rfl
  | .float32 bits, .float32, tag, _ => by
    rw [encode, erase, Writer.float32]
    split
    · exact (List.append_nil _).symm
    · rfl
  | .float64 bits, .float64, tag, _ => by
    rw [encode, erase, Writer.float64]
    split
    · exact (List.append_nil _).symm
    · rfl
  | .string s, .string, tag, _ => by rw [encode, erase, Writer.string_eq_write]
  | .bytes bs, .bytes _, tag, _ => rfl
  | .list vs, .list t, tag, h => by
    rw [Writable] at h
    rw [encode, encodeElements_eq_write h.2, Writer.listHeader, List.append_assoc, erase,
      Tree.write, Tree.payload, length_eraseAll]
    rfl
  | .map ps, .map k v, tag, h => by
    rw [Writable] at h
    rw [encode, encodePairs_eq_write h.2, Writer.mapHeader, List.append_assoc, erase,
      Tree.write, Tree.payload, length_erasePairs]
    rfl
  | .struct vs, .struct name, tag, h => by
    rw [Writable] at h
    rw [encode, encodeFields_eq_write h]
    rfl

theorem encodeElements_eq_write : ∀ {vs : List Val} {t : Ty}, σ.WritableAll t vs →
    σ.encodeElements t vs = Tree.writeElements (σ.eraseAll t vs)
  | [], _, _ => rfl
  | _ :: _, _, h => by
    rw [WritableAll] at h
    rw [encodeElements, encode_eq_write h.1, encodeElements_eq_write h.2]
    rfl

theorem encodePairs_eq_write : ∀ {ps : List (Val × Val)} {kt vt : Ty}, σ.WritablePairs kt vt ps →
    σ.encodePairs kt vt ps = Tree.writePairs (σ.erasePairs kt vt ps)
  | [], _, _, _ => rfl
  | (_, _) :: _, _, _, h => by
    rw [WritablePairs] at h
    rw [encodePairs, encode_eq_write h.1, encode_eq_write h.2.1, encodePairs_eq_write h.2.2]
    rfl

theorem encodeFields_eq_write : ∀ {vs : List Val} {fs : Layout}, σ.WritableFields fs vs →
    σ.encodeFields fs vs = Tree.writeFields (σ.eraseFields fs vs)
  | [], [], _ => rfl
  | _ :: _, _ :: _, h => by
    rw [WritableFields] at h
    rw [encodeFields, encode_eq_write h.1, encodeFields_eq_write h.2]
    rfl

end

/-! ## Sizes of erasures -/

mutual

/-- The erasure of a value that is writable at its type fits the wire. -/
theorem fits_erase : ∀ {v : Val} {t : Ty}, σ.Writable t v → (σ.erase t v).Fits
  | .bool v, .bool, _ => by
    cases v <;> (rw [erase, Tree.Fits]; decide)
  | .int v, .int t, h => by
    rw [Writable] at h
    rw [erase, Tree.Fits]
    cases t <;> exact h.mono (by decide) (by decide)
  | .float32 bits, .float32, _ => by
    rw [erase]
    split <;> rw [Tree.Fits]
    · decide
    · trivial
  | .float64 bits, .float64, _ => by
    rw [erase]
    split <;> rw [Tree.Fits]
    · decide
    · trivial
  | .string s, .string, h => by rw [Writable] at h; rwa [erase, Tree.Fits]
  | .bytes bs, .bytes _, h => by rw [Writable] at h; rwa [erase, Tree.Fits]
  | .list vs, .list t, h => by
    rw [Writable] at h
    rw [erase, Tree.Fits, length_eraseAll]
    exact ⟨h.1, fits_eraseAll h.2⟩
  | .map ps, .map k v, h => by
    rw [Writable] at h
    rw [erase, Tree.Fits, length_erasePairs]
    exact ⟨h.1, fits_erasePairs h.2⟩
  | .struct vs, .struct name, h => by
    rw [Writable] at h
    rw [erase, Tree.Fits]
    exact fits_eraseFields h

theorem fits_eraseAll : ∀ {vs : List Val} {t : Ty}, σ.WritableAll t vs →
    Tree.FitsAll (σ.eraseAll t vs)
  | [], _, _ => by rw [eraseAll, Tree.FitsAll]; trivial
  | _ :: _, _, h => by
    rw [WritableAll] at h
    rw [eraseAll, Tree.FitsAll]
    exact ⟨fits_erase h.1, fits_eraseAll h.2⟩

theorem fits_erasePairs : ∀ {ps : List (Val × Val)} {kt vt : Ty}, σ.WritablePairs kt vt ps →
    Tree.FitsPairs (σ.erasePairs kt vt ps)
  | [], _, _, _ => by rw [erasePairs, Tree.FitsPairs]; trivial
  | (_, _) :: _, _, _, h => by
    rw [WritablePairs] at h
    rw [erasePairs, Tree.FitsPairs]
    exact ⟨fits_erase h.1, fits_erase h.2.1, fits_erasePairs h.2.2⟩

theorem fits_eraseFields : ∀ {vs : List Val} {fs : Layout}, σ.WritableFields fs vs →
    Tree.FitsFields (σ.eraseFields fs vs)
  | [], [], _ => by simp only [eraseFields, Tree.FitsFields]
  | _ :: _, _ :: _, h => by
    rw [WritableFields] at h
    rw [eraseFields, Tree.FitsFields]
    exact ⟨fits_erase h.1, fits_eraseFields h.2⟩

end

mutual

/-- The containers of an erasure are those of the value. -/
theorem nesting_erase : ∀ {v : Val} {t : Ty}, σ.Writable t v →
    (σ.erase t v).nesting = v.containers
  | .bool _, .bool, _ | .int _, .int _, _ | .string _, .string, _ | .bytes _, .bytes _, _ => rfl
  | .float32 _, .float32, _ => by rw [erase]; split <;> rfl
  | .float64 _, .float64, _ => by rw [erase]; split <;> rfl
  | .list vs, .list t, h => by
    rw [Writable] at h
    exact congrArg (· + 1) (nesting_eraseAll h.2)
  | .map ps, .map k v, h => by
    rw [Writable] at h
    exact congrArg (· + 1) (nesting_erasePairs h.2)
  | .struct vs, .struct name, h => by
    rw [Writable] at h
    exact congrArg (· + 1) (nesting_eraseFields h)

theorem nesting_eraseAll : ∀ {vs : List Val} {t : Ty}, σ.WritableAll t vs →
    Tree.nestingAll (σ.eraseAll t vs) = Val.nestingAll true vs
  | [], _, _ => rfl
  | _ :: _, _, h => by
    rw [WritableAll] at h
    rw [eraseAll, Tree.nestingAll, nesting_erase h.1, nesting_eraseAll h.2, Val.nestingAll]

theorem nesting_erasePairs : ∀ {ps : List (Val × Val)} {kt vt : Ty}, σ.WritablePairs kt vt ps →
    Tree.nestingPairs (σ.erasePairs kt vt ps) = Val.nestingPairs true ps
  | [], _, _, _ => rfl
  | (_, _) :: _, _, _, h => by
    rw [WritablePairs] at h
    rw [erasePairs, Tree.nestingPairs, nesting_erase h.1, nesting_erase h.2.1,
      nesting_erasePairs h.2.2, Val.nestingPairs]

theorem nesting_eraseFields : ∀ {vs : List Val} {fs : Layout}, σ.WritableFields fs vs →
    Tree.nestingFields (σ.eraseFields fs vs) = Val.nestingAll true vs
  | [], [], _ => rfl
  | _ :: _, _ :: _, h => by
    rw [WritableFields] at h
    rw [eraseFields, Tree.nestingFields, nesting_erase h.1, nesting_eraseFields h.2, Val.nestingAll]

end

end Schema

end TaggedRpc.Wire
