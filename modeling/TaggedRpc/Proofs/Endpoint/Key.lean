import TaggedRpc.Endpoint.Basic

/-!
# Keys name endpoints

A host may hold colons, but the digits of a port hold none, so the last colon of
a key tells where the host ends: two endpoints with one key are the same
(`Endpoint.key_eq_iff`).
-/

namespace TaggedRpc.Endpoint

/-- A list that ends in a mark and something without the mark falls apart in one
    way only. -/
theorem append_cons_inj {α : Type} {mark : α} {as bs xs ys : List α} (hxs : mark ∉ xs)
    (hys : mark ∉ ys) (h : as ++ mark :: xs = bs ++ mark :: ys) : as = bs ∧ xs = ys := by
  -- One of the beginnings is longer by some list, which holds the mark unless it is empty.
  rcases List.append_eq_append_iff.1 h with ⟨cs, rfl, hcs⟩ | ⟨cs, rfl, hcs⟩
  · cases cs with
    | nil => exact ⟨(List.append_nil as).symm, (List.cons.inj hcs).2⟩
    | cons c cs =>
      rw [(List.cons.inj hcs).2] at hxs
      exact absurd (List.mem_append_right cs List.mem_cons_self) hxs
  · cases cs with
    | nil => exact ⟨List.append_nil bs, (List.cons.inj hcs).2.symm⟩
    | cons c cs =>
      rw [(List.cons.inj hcs).2] at hys
      exact absurd (List.mem_append_right cs List.mem_cons_self) hys

theorem toList_key (e : Endpoint) :
    e.key.toList = e.host.toList ++ ':' :: Nat.toDigits 10 e.port.toNat := by
  have hport : (toString e.port).toList = Nat.toDigits 10 e.port.toNat := Nat.toList_repr
  show (toString e.host ++ ":" ++ toString e.port).toList = _
  rw [String.toList_append, String.toList_append, hport, List.append_assoc]
  rfl

theorem colon_not_mem_toDigits (n : Nat) : ':' ∉ Nat.toDigits 10 n := by
  intro h
  have hdigit := Nat.isDigit_of_mem_toDigits (by decide) (by decide) h
  exact absurd hdigit (by decide)

theorem toDigits_inj {m n : Nat} (h : Nat.toDigits 10 m = Nat.toDigits 10 n) : m = n := by
  rw [← Nat.ofDigitChars_ten_toDigits (n := m), h, Nat.ofDigitChars_ten_toDigits]

/-- The key of an endpoint names it. -/
theorem key_eq_iff {a b : Endpoint} : a.key = b.key ↔ a.Same b := by
  refine ⟨fun h => ?_, key_eq_of_same⟩
  have hlist := congrArg String.toList h
  rw [toList_key, toList_key] at hlist
  obtain ⟨hhost, hport⟩ :=
    append_cons_inj (colon_not_mem_toDigits _) (colon_not_mem_toDigits _) hlist
  exact ⟨String.toList_inj.1 hhost, UInt16.toNat_inj.1 (toDigits_inj hport)⟩

end TaggedRpc.Endpoint
