import TaggedRpc.Proofs.Endpoint.Key
import TaggedRpc.Proofs.Text.Reading

/-!
# Texts tell descriptors apart

The canonical text of a descriptor is a row of *words* with blanks between them
(`Endpoint.text_eq_intercalate`). If the host and the set hold no blanks, then no word
does, so the words can be had back from the text, and all of the descriptor from the
words: two such descriptors with one text are the same (`Endpoint.text_inj`).
-/

namespace TaggedRpc

theorem Transport.name_inj {a b : Transport} (h : a.name = b.name) : a = b := by
  cases a <;> cases b <;> first | rfl | exact absurd h (by decide)

theorem WeightType.flag_inj {a b : WeightType} (h : a.flag = b.flag) : a = b := by
  cases a <;> cases b <;> first | rfl | cases h

namespace Endpoint

variable {a b e : Endpoint}

/-- The words of the text of a descriptor. -/
def words (e : Endpoint) : List String :=
  [e.transport.name, "-h", e.host, "-p", toString e.port, "-t", toString e.timeoutMs,
    "-v", toString e.weightType.flag, "-w", toString e.weight.toInt] ++
  if e.setId = "" then [] else ["-s", e.setId]

/-- The words of it for the numbers. -/
def numbers (e : Endpoint) : List String :=
  ["-p", toString e.port, "-t", toString e.timeoutMs, "-v", toString e.weightType.flag, "-w",
    toString e.weight.toInt]

theorem words_eq (e : Endpoint) : e.words = e.transport.name :: "-h" :: e.host ::
    (e.numbers ++ if e.setId = "" then [] else ["-s", e.setId]) := rfl

theorem text_eq_intercalate (e : Endpoint) : e.text = " ".intercalate e.words := by
  rw [text, words, ← String.toList_inj]
  split <;> simp [String.intercalate_cons_cons, toString]

/-- The names in a descriptor hold no blanks. -/
structure Plain (e : Endpoint) : Prop where
  host : ' ' ∉ e.host.toList
  setId : ' ' ∉ e.setId.toList

instance (e : Endpoint) : Decidable e.Plain :=
  decidable_of_iff (' ' ∉ e.host.toList ∧ ' ' ∉ e.setId.toList)
    ⟨fun h => ⟨h.1, h.2⟩, fun h => ⟨h.host, h.setId⟩⟩

/-- The text of a number has digits only. -/
theorem not_mem_repr {c : Char} (h : c.isDigit = false) (n : Nat) : c ∉ n.repr.toList := by
  intro hmem
  have hdigit := Nat.isDigit_of_mem_toDigits (by decide) (by decide) (Nat.toList_repr ▸ hmem)
  exact Bool.noConfusion (h.symm.trans hdigit)

theorem repr_inj {m n : Nat} (h : m.repr = n.repr) : m = n := by
  have hdigits := congrArg String.toList h
  rw [Nat.toList_repr, Nat.toList_repr] at hdigits
  exact toDigits_inj hdigits

/-- The text of a number has digits, and perhaps a minus sign. -/
theorem not_mem_toString {c : Char} (h : c.isDigit = false) (hsign : c ≠ '-') (i : Int) :
    c ∉ (toString i).toList := by
  cases i with
  | ofNat n => exact not_mem_repr h n
  | negSucc n =>
    rw [Text.toList_toString_negSucc]
    exact List.not_mem_cons_of_ne_of_not_mem hsign (not_mem_repr h _)

/-- The text of a number is that of no negative one. -/
theorem toString_ofNat_ne_negSucc (m n : Nat) :
    toString (Int.ofNat m) ≠ toString (Int.negSucc n) := by
  intro h
  have hsign : '-' ∈ (toString (Int.ofNat m)).toList := by
    rw [h, Text.toList_toString_negSucc]
    exact List.mem_cons_self
  exact not_mem_repr rfl m hsign

theorem toString_inj {i j : Int} (h : toString i = toString j) : i = j := by
  cases i with
  | ofNat m =>
    cases j with
    | ofNat n => exact congrArg Int.ofNat (repr_inj h)
    | negSucc n => exact absurd h (toString_ofNat_ne_negSucc m n)
  | negSucc m =>
    cases j with
    | ofNat n => exact absurd h.symm (toString_ofNat_ne_negSucc n m)
    | negSucc n =>
      have hdigits := congrArg String.toList h
      rw [Text.toList_toString_negSucc, Text.toList_toString_negSucc] at hdigits
      have hsucc := repr_inj (String.toList_inj.1 (List.cons.inj hdigits).2)
      exact congrArg Int.negSucc (Nat.succ.inj hsucc)

theorem forall_mem_numbers {P : String → Prop} (hflag : ∀ w ∈ ["-p", "-t", "-v", "-w"], P w)
    (hnumber : ∀ i : Int, P (toString i)) : ∀ w ∈ e.numbers, P w := by
  simp only [List.forall_mem_cons] at hflag
  obtain ⟨hp, ht, hv, hw, -⟩ := hflag
  simp only [numbers, List.forall_mem_cons]
  exact ⟨hp, hnumber (Int.ofNat _), ht, hnumber (Int.ofNat _), hv, hnumber (Int.ofNat _), hw,
    hnumber _, List.forall_mem_nil _⟩

/-- A property of the names of transports and flags, of the texts of numbers, and of the host and
    the set. -/
theorem forall_mem_words {P : String → Prop} (hname : ∀ t : Transport, P t.name)
    (hflag : ∀ w ∈ ["-h", "-s", "-p", "-t", "-v", "-w"], P w) (hnumber : ∀ i : Int, P (toString i))
    (hhost : P e.host) (hset : e.setId ≠ "" → P e.setId) : ∀ w ∈ e.words, P w := by
  simp only [List.forall_mem_cons] at hflag
  obtain ⟨hh, hs, hflag⟩ := hflag
  have hword : ∀ w ∈ if e.setId = "" then [] else ["-s", e.setId], P w := by
    split
    · exact List.forall_mem_nil _
    · next hne => simp [hs, hset hne]
  have hnumbers := forall_mem_numbers (e := e) (by simpa only [List.forall_mem_cons]) hnumber
  rw [words_eq]
  simp only [List.forall_mem_cons]
  exact ⟨hname _, hh, hhost, List.forall_mem_append.2 ⟨hnumbers, hword⟩⟩

theorem Plain.words (h : e.Plain) : ∀ w ∈ e.words, ' ' ∉ w.toList :=
  forall_mem_words (fun t => by cases t <;> decide) (by decide)
    (not_mem_toString rfl (by decide)) h.host fun _ => h.setId

/-- The text of a plain descriptor falls apart into its words. -/
theorem Plain.splitOn_text (h : e.Plain) :
    e.text.toList.splitOn ' ' = e.words.map String.toList := by
  rw [text_eq_intercalate, String.toList_intercalate]
  exact List.splitOn_intercalate ' ' (List.forall_mem_map.2 h.words) (List.cons_ne_nil _ _)

/-- A descriptor is made of its words. -/
theorem words_inj (h : a.words = b.words) : a = b := by
  cases a
  cases b
  simp only [words, List.cons_append, List.nil_append, List.cons.injEq, true_and] at h
  obtain ⟨htransport, rfl, hport, htimeout, hflag, hweight, hset⟩ := h
  cases Transport.name_inj htransport
  cases UInt16.toNat_inj.1 (repr_inj hport)
  cases UInt32.toNat_inj.1 (repr_inj htimeout)
  cases WeightType.flag_inj (repr_inj hflag)
  cases Int32.toInt_inj.1 (toString_inj hweight)
  congr
  split at hset <;> split at hset <;> simp_all

/-- Plain descriptors with one text are the same. -/
theorem text_inj (ha : a.Plain) (hb : b.Plain) (h : a.text = b.text) : a = b := by
  have hwords := congrArg (fun text => text.toList.splitOn ' ') h
  rw [ha.splitOn_text, hb.splitOn_text] at hwords
  exact words_inj ((List.map_inj_right fun _ _ => String.toList_inj.1).1 hwords)

end Endpoint

end TaggedRpc
