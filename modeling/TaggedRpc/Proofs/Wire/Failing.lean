import TaggedRpc.Proofs.Wire.Anatomy

/-!
# Failing on some bytes

A computation *fails* on the bytes ahead with a cause if it ends with that cause wherever
the bytes stand. Whatever was to come after it fails with the same cause, and so does
what reads a piece first and then fails on the rest. So a field is refused for the reason
for which its payload is (`Fails.field`).

The readers of integers refuse every wire type beyond the widest that they take, texts and
containers among them (`intPayload_of_lt`).
-/

namespace TaggedRpc.Wire.Read

variable {α β : Type} {depth : Nat} {bs ahead : Bytes} {e : DecodeError} {x : Read α} {a : α}

/-- At a depth, `x` fails on the bytes ahead with the cause `e`, wherever they stand. -/
def Fails (x : Read α) (depth : Nat) (ahead : Bytes) (e : DecodeError) : Prop :=
  ∀ pos, ∃ s, x ⟨ahead, pos, depth⟩ = .error e s

theorem fails_throw (e : DecodeError) : Fails (throw e : Read α) depth ahead e :=
  fun pos => ⟨⟨ahead, pos, depth⟩, rfl⟩

theorem Fails.bind (hx : Fails x depth ahead e) (f : α → Read β) :
    Fails (x >>= f) depth ahead e := by
  intro pos
  obtain ⟨s, hs⟩ := hx pos
  exact ⟨s, bind_of_error hs⟩

theorem Fails.map (hx : Fails x depth ahead e) (f : α → β) : Fails (f <$> x) depth ahead e := by
  rw [map_eq_pure_bind]
  exact hx.bind _

/-- What fails after a piece has been read. -/
theorem Yields.bind_fails {f : α → Read β} (hx : Yields x depth bs ahead a)
    (hf : Fails (f a) depth ahead e) : Fails (x >>= f) depth (bs ++ ahead) e := by
  intro pos
  rw [bind_of_ok (hx pos)]
  exact hf _

/-- A field that stands right ahead, with a payload that is refused. -/
theorem Fails.field {ty : WireType} {tag : Tag} {required : Bool} {payload : WireType → Read α}
    (hty : ty ≠ .structEnd) (h : Fails (payload ty) depth ahead e) :
    Fails (field tag required payload) depth (Writer.head ty tag ++ ahead) e :=
  (yields_seek hty).bind_fails (h.map some)

theorem Fails.runOn (h : Fails x 0 bs e) : x.runOn bs = .error e := by
  obtain ⟨s, hs⟩ := h 0
  rw [Read.runOn, Reader.ofBytes, hs]

/-- A wire type beyond the widest that is taken is none of an integer. Only zero is taken in
    spite of its code. -/
theorem intPayload_of_lt {type widest : WireType} (hzero : type ≠ .zero)
    (hlt : widest.code < type.code) (tag : Tag) (expected : String) :
    intPayload type tag widest expected = throw (.typeMismatch tag expected type) := by
  have hbyte : type ≠ .byte := by
    rintro rfl
    exact Nat.not_lt_zero _ hlt
  have hwide {ty : WireType} : ¬(type = ty ∧ type.code ≤ widest.code) := fun h =>
    Nat.not_le.2 hlt h.2
  rw [intPayload, if_neg hzero, if_neg hbyte, if_neg hwide, if_neg hwide, if_neg hwide]

end TaggedRpc.Wire.Read
