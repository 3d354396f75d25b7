import Mathlib.Data.List.Induction
import TaggedRpc.Text.Blank
import TaggedRpc.Text.Number

/-!
# Reading back what is written

A text falls apart at its blanks into words, and at a separator into parts; both are what the list
of its characters is split into (`Text.words_eq_splitOnP`, `Text.split_eq_splitOn`). So texts
without blanks can be had back from what they make with blanks between them, and texts without the
separator from what they make with it. The text of a number is read as that number
(`Text.nat?_repr`, `Text.int?_toString`).
-/

namespace TaggedRpc.Text

variable {s t w : String} {cs : List Char} {c sep : Char}

/-- What a list is split into is made of its elements, without those at which it is split. -/
theorem mem_splitOnPPrepend {α : Type} {p : α → Bool} {xs acc part : List α} {x : α}
    (hpart : part ∈ xs.splitOnPPrepend p acc) (hx : x ∈ part) : x ∈ acc ∨ x ∈ xs ∧ p x = false := by
  induction xs generalizing acc with
  | nil => simp_all [List.splitOnPPrepend_nil]
  | cons y xs ih =>
    rw [List.splitOnPPrepend_cons_eq_if] at hpart
    split at hpart
    · rcases List.mem_cons.1 hpart with rfl | hpart
      · exact .inl (List.mem_reverse.1 hx)
      · rw [← List.splitOnPPrepend_nil_right] at hpart
        have := ih hpart
        simp_all
    · have := ih hpart
      grind

theorem mem_splitOnP {α : Type} {p : α → Bool} {xs part : List α} {x : α}
    (hpart : part ∈ xs.splitOnP p) (hx : x ∈ part) : x ∈ xs ∧ p x = false := by
  rw [← List.splitOnPPrepend_nil_right] at hpart
  simpa using mem_splitOnPPrepend hpart hx

/-! ## Words -/

/-- A text has no blanks. -/
def Blankless (s : String) : Prop := ∀ c ∈ s.toList, isBlank c = false

instance : DecidablePred Blankless :=
  fun s => List.decidableBAll (fun c => isBlank c = false) s.toList

theorem wordsFrom_eq (word cs : List Char) :
    wordsFrom word cs = (cs.splitOnPPrepend isBlank word).filter (· ≠ []) := by
  induction cs generalizing word with
  | nil => rcases word with - | ⟨c, word⟩ <;> simp [wordsFrom, List.splitOnPPrepend_nil]
  | cons c cs ih =>
    rw [wordsFrom, List.splitOnPPrepend_cons_eq_if, ih, ih, List.splitOnPPrepend_nil_right]
    by_cases hc : isBlank c = true <;> rcases word with - | ⟨d, word⟩ <;> simp [hc]

theorem words_eq_splitOnP (s : String) :
    words s = ((s.toList.splitOnP isBlank).filter (· ≠ [])).map String.ofList := by
  rw [words, wordsFrom_eq, List.splitOnPPrepend_nil_right]

/-- A word of a text is not empty, has no blanks, and is made of characters of the text. -/
theorem of_mem_words (hw : w ∈ words s) :
    w ≠ "" ∧ Blankless w ∧ ∀ c ∈ w.toList, c ∈ s.toList := by
  rw [words_eq_splitOnP] at hw
  obtain ⟨cs, hcs, rfl⟩ := List.mem_map.1 hw
  obtain ⟨hmem, hne⟩ := List.mem_filter.1 hcs
  simp only [Blankless, String.toList_ofList]
  exact ⟨by simpa using hne, fun c hc => (mem_splitOnP hmem hc).2,
    fun c hc => (mem_splitOnP hmem hc).1⟩

theorem words_append (s t : String) : words (s ++ " " ++ t) = words s ++ words t := by
  have hblank : isBlank ' ' = true := by decide
  simp [words_eq_splitOnP, List.splitOnP_append_cons _ _ hblank]

theorem words_of_blankless (h : Blankless s) : words s = [s].filter (· ≠ "") := by
  by_cases hs : s = "" <;> simp [words_eq_splitOnP, List.splitOnP_eq_singleton h, hs]

/-- Texts without blanks are the words of what they make with a blank between any two of them, apart
    from empty ones. -/
theorem words_intercalate {ws : List String} (h : ∀ w ∈ ws, Blankless w) :
    words (" ".intercalate ws) = ws.filter (· ≠ "") := by
  induction ws with
  | nil => rfl
  | cons w ws ih =>
    rw [List.forall_mem_cons] at h
    rcases eq_or_ne ws [] with rfl | hne
    · exact words_of_blankless h.1
    · rw [String.intercalate_cons_of_ne_nil hne, words_append, words_of_blankless h.1, ih h.2,
        ← List.filter_append]
      rfl

/-! ## Ends -/

theorem trimChars_prefix (cs : List Char) : trimChars cs <+: cs.dropWhile isBlank := by
  have hsuffix := List.dropWhile_suffix isBlank (l := (cs.dropWhile isBlank).reverse)
  simpa [trimChars] using List.reverse_prefix.2 hsuffix

/-- A text without blanks at its ends does not start with one. -/
theorem isBlank_of_trimChars_eq {c : Char} {cs : List Char} (h : trimChars (c :: cs) = c :: cs) :
    isBlank c = false := by
  by_contra hc
  rw [Bool.not_eq_false] at hc
  have hle := (h ▸ trimChars_prefix (c :: cs)).length_le
  have hdrop := (List.dropWhile_suffix isBlank (l := cs)).length_le
  rw [List.dropWhile_cons_of_pos hc, List.length_cons] at hle
  omega

theorem dropWhile_eq_self {p : Char → Bool} {cs : List Char} (h : ∀ c ∈ cs.head?, p c = false) :
    cs.dropWhile p = cs := by
  rcases cs with - | ⟨c, cs⟩
  · rfl
  · exact List.dropWhile_cons_of_neg (by simp [h c rfl])

theorem trimChars_eq_self {cs : List Char} (hhead : ∀ c ∈ cs.head?, isBlank c = false)
    (hlast : ∀ c ∈ cs.getLast?, isBlank c = false) : trimChars cs = cs := by
  rw [trimChars, dropWhile_eq_self hhead, dropWhile_eq_self, List.reverse_reverse]
  rwa [List.head?_reverse]

/-- Texts end together as the last one of them does. -/
theorem exists_getLast?_intercalate {P : Char → Prop} (sep : String) {ts : List String}
    (hne : ts ≠ []) (h : ∀ t ∈ ts, ∃ c, t.toList.getLast? = some c ∧ P c) :
    ∃ c, (sep.intercalate ts).toList.getLast? = some c ∧ P c := by
  induction ts, hne using List.recNeNil with
  | singleton t => simpa using h
  | cons t ts hts ih =>
    rw [List.forall_mem_cons] at h
    obtain ⟨c, hc, hP⟩ := ih h.2
    refine ⟨c, ?_, hP⟩
    rw [String.intercalate_cons_of_ne_nil hts, String.toList_append, List.getLast?_append, hc]
    rfl

/-- Texts end with the last one of them. -/
theorem intercalate_concat (sep : String) (ts : List String) (t : String) :
    sep.intercalate (ts ++ [t]) = sep.intercalate (ts ++ [""]) ++ t := by
  induction ts with
  | nil => simp
  | cons u ts ih =>
    have hne (t : String) : ts ++ [t] ≠ [] := List.concat_ne_nil t ts
    rw [List.cons_append, String.intercalate_cons_of_ne_nil (hne t), ih, List.cons_append,
      String.intercalate_cons_of_ne_nil (hne "")]
    simp only [String.append_assoc]

theorem Blankless.exists_getLast? (h : Blankless s) (hne : s ≠ "") :
    ∃ c, s.toList.getLast? = some c ∧ isBlank c = false := by
  have hlist : s.toList ≠ [] := by simpa using hne
  exact ⟨_, List.getLast?_eq_some_getLast hlist, h _ (List.getLast_mem hlist)⟩

theorem not_mem_intercalate {c : Char} {sep : String} {ts : List String} (hsep : c ∉ sep.toList)
    (h : ∀ t ∈ ts, c ∉ t.toList) : c ∉ (sep.intercalate ts).toList := by
  induction ts with
  | nil => simp
  | cons t ts ih =>
    rw [List.forall_mem_cons] at h
    rcases eq_or_ne ts [] with rfl | hts
    · simpa using h.1
    · rw [String.intercalate_cons_of_ne_nil hts, String.toList_append, String.toList_append]
      simp only [List.mem_append, not_or]
      exact ⟨⟨h.1, hsep⟩, ih h.2⟩

/-! ## Parts -/

theorem splitFrom_eq (sep : Char) (part cs : List Char) :
    splitFrom sep part cs = cs.splitOnPPrepend (· == sep) part := by
  induction cs generalizing part with
  | nil => rfl
  | cons c cs ih =>
    rw [splitFrom, List.splitOnPPrepend_cons_eq_if, ih, ih, List.splitOnPPrepend_nil_right]
    simp only [beq_iff_eq]

theorem split_eq_splitOn (sep : Char) (s : String) :
    split sep s = (s.toList.splitOn sep).map String.ofList := by
  rw [split, splitFrom_eq, List.splitOnPPrepend_nil_right, List.splitOn_eq_splitOnP]

/-- A part has no separators. -/
theorem not_mem_of_mem_split (hs : s ∈ split sep t) : sep ∉ s.toList := by
  rw [split_eq_splitOn, List.splitOn_eq_splitOnP] at hs
  obtain ⟨cs, hcs, rfl⟩ := List.mem_map.1 hs
  rw [String.toList_ofList]
  exact fun hmem => by simpa using (mem_splitOnP hcs hmem).2

theorem split_append (sep : Char) (s t : String) :
    split sep (s ++ sep.toString ++ t) = split sep s ++ split sep t := by
  simp [split_eq_splitOn, List.splitOn_append_cons_self, Char.toString]

theorem split_intercalate (sep : Char) {ts : List String} (hne : ts ≠ []) :
    split sep (sep.toString.intercalate ts) = ts.flatMap (split sep) := by
  induction ts, hne using List.recNeNil with
  | singleton t => simp
  | cons t ts hts ih =>
    rw [String.intercalate_cons_of_ne_nil hts, split_append, ih, List.flatMap_cons]

theorem split_eq_singleton (h : sep ∉ s.toList) : split sep s = [s] := by
  rw [split_eq_splitOn, List.splitOn_eq_singleton h, List.map_singleton, String.ofList_toList]

/-- A text falls apart at its first separator. -/
theorem exists_eq_append (h : sep ∈ s.toList) :
    ∃ u v, s = u ++ sep.toString ++ v ∧ sep ∉ u.toList := by
  obtain ⟨as, bs, hs, has⟩ := List.eq_append_cons_of_mem h
  refine ⟨String.ofList as, String.ofList bs, String.toList_inj.1 ?_, by simpa using has⟩
  simp [hs, Char.toString]

/-- A text falls apart at its last separator. -/
theorem exists_eq_append_last (h : sep ∈ s.toList) :
    ∃ u v, s = u ++ sep.toString ++ v ∧ sep ∉ v.toList := by
  obtain ⟨as, bs, hs, has⟩ := List.eq_append_cons_of_mem (List.mem_reverse.2 h)
  refine ⟨String.ofList bs.reverse, String.ofList as.reverse, String.toList_inj.1 ?_,
    by simpa using has⟩
  simpa [Char.toString] using congrArg List.reverse hs

/-- A text without separators is in one part with what follows it up to the first separator. -/
theorem exists_append_mem_split (h : sep ∉ s.toList) (t : String) :
    ∃ u, s ++ u ∈ split sep (s ++ t) ∧ sep ∉ u.toList ∧ ∀ c ∈ u.toList, c ∈ t.toList := by
  by_cases ht : sep ∈ t.toList
  · obtain ⟨u, v, rfl, hu⟩ := exists_eq_append ht
    refine ⟨u, ?_, hu, fun c hc => ?_⟩
    · rw [← String.append_assoc, ← String.append_assoc, split_append, split_eq_singleton]
      · exact List.mem_append_left _ List.mem_cons_self
      · simp [h, hu]
    · simp [hc]
  · refine ⟨t, ?_, ht, fun _ => id⟩
    rw [split_eq_singleton]
    · exact List.mem_cons_self
    · simp [h, ht]

/-! ## Numbers -/

theorem digits?_toDigits (n : Nat) : digits? (Nat.toDigits 10 n) = some n := by
  have hdigits : ∀ c ∈ Nat.toDigits 10 n, c.isDigit = true :=
    fun c hc => Nat.isDigit_of_mem_toDigits (by decide) (by decide) hc
  rw [digits?, if_neg]
  · exact congrArg some Nat.ofDigitChars_ten_toDigits
  · simpa [Nat.toDigits_ne_nil] using hdigits

/-- The digits of a number start with a digit. -/
theorem exists_toDigits_eq_cons (n : Nat) :
    ∃ c cs, Nat.toDigits 10 n = c :: cs ∧ c.isDigit = true := by
  obtain ⟨c, cs, hcs⟩ := List.exists_cons_of_ne_nil (Nat.toDigits_ne_nil (n := n) (b := 10))
  exact ⟨c, cs, hcs, Nat.isDigit_of_mem_toDigits (b := 10) (by decide) (by decide)
    (hcs ▸ List.mem_cons_self)⟩

theorem nat?_repr {n bound : Nat} (h : n ≤ bound) : nat? bound n.repr = some n := by
  obtain ⟨c, cs, hcs, hc⟩ := exists_toDigits_eq_cons n
  have hplus : c ≠ '+' := by
    rintro rfl
    exact absurd hc (by decide)
  have hdigits : digits? (c :: cs) = some n := hcs ▸ digits?_toDigits n
  simp [nat?, Nat.toList_repr, hcs, hplus, hdigits, h]

theorem toList_toString_negSucc (n : Nat) :
    (toString (Int.negSucc n)).toList = '-' :: (n + 1).repr.toList := by
  show ("-" ++ (n + 1).repr).toList = _
  rw [String.toList_append]
  rfl

theorem int?_toString {low high i : Int} (hlow : low ≤ i) (hhigh : i ≤ high) :
    int? low high (toString i) = some i := by
  rcases i with n | n
  · obtain ⟨c, cs, hcs, hc⟩ := exists_toDigits_eq_cons n
    have hsign : c ≠ '-' ∧ c ≠ '+' := by
      constructor <;> rintro rfl <;> exact absurd hc (by decide)
    have hdigits : digits? (c :: cs) = some n := hcs ▸ digits?_toDigits n
    have hlist : (toString (Int.ofNat n)).toList = c :: cs := Nat.toList_repr.trans hcs
    simp_all [int?]
  · have hdigits : digits? (n + 1).repr.toList = some (n + 1) :=
      Nat.toList_repr ▸ digits?_toDigits (n + 1)
    rw [int?, toList_toString_negSucc]
    simp_all [Int.negSucc_eq]

theorem isBlank_of_isDigit {c : Char} (h : c.isDigit = true) : isBlank c = false := by
  have hc : 48 ≤ c.toNat ∧ c.toNat ≤ 57 := by simpa [Char.isDigit, UInt32.le_iff_toNat_le] using h
  simp only [isBlank, blankRanges, List.any_cons, List.any_nil]
  grind

theorem blankless_repr (n : Nat) : Blankless n.repr := by
  intro c hc
  rw [Nat.toList_repr] at hc
  exact isBlank_of_isDigit (Nat.isDigit_of_mem_toDigits (by decide) (by decide) hc)

theorem blankless_toString (i : Int) : Blankless (toString i) := by
  rcases i with n | n
  · exact blankless_repr n
  · rw [Blankless, toList_toString_negSucc]
    exact List.forall_mem_cons.2 ⟨by decide, blankless_repr (n + 1)⟩

theorem toString_ne_empty (i : Int) : toString i ≠ "" := by
  rcases i with n | n <;> intro h <;> have hlist := congrArg String.toList h
  · exact Nat.toDigits_ne_nil (Nat.toList_repr.symm.trans hlist)
  · rw [toList_toString_negSucc] at hlist
    exact absurd hlist (List.cons_ne_nil _ _)

end TaggedRpc.Text
