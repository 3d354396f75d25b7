import TaggedRpc.Endpoint.Parser
import TaggedRpc.Proofs.Endpoint.Text
import TaggedRpc.Proofs.Text.Reading

/-!
# Descriptors read back

The canonical text of an endpoint says all that there is to say about it. What descriptors can
describe (`Endpoint.Describable`) is what comes out of reading them, whatever they look like
(`Endpoint.exists_parse_iff`): the host is a word, the set is a word or empty, and a weight that
counts is clamped. The canonical text of such an endpoint is read as the same endpoint again
(`Endpoint.parse_text_of_describable`), for every value in it comes right after its flag, so that it
does not matter what it looks like. Endpoints that are built step by step are such ones if their
names are (`Endpoint.parse_text_eq_self`).
-/

namespace TaggedRpc.Endpoint

variable {e : Endpoint} {d d' : Draft} {s : String}

/-- A descriptor can describe the endpoint. -/
structure Describable (e : Endpoint) : Prop where
  host_ne : e.host ≠ ""
  host : Text.Blankless e.host
  setId : Text.Blankless e.setId
  /-- A weight that counts is clamped. -/
  weight : e.weightType = .static → clampWeight e.weight = e.weight

@[simp] theorem clampWeight_clampWeight (w : Int32) :
    clampWeight (clampWeight w) = clampWeight w := by
  by_cases h : w = -1 ∨ maxStaticWeight < w
  · simp only [clampWeight, if_pos h]
    decide
  · simp only [clampWeight, if_neg h]

/-! ## What is written is read -/

theorem transport?_name (t : Transport) : transport? t.name = .ok t := by
  rcases t with - | - | - <;> rfl

theorem setAll_flag {word value : String} (flag : Char) (hflag : flag? word = some flag)
    (hset : d.set flag value = .ok d') (rest : List String) :
    d.setAll (word :: value :: rest) = d'.setAll rest := by
  rw [Draft.setAll.eq_def]
  simp only [hflag, hset]

theorem setAll_numbers (d : Draft) (e : Endpoint) (rest : List String) :
    d.setAll (e.numbers ++ rest) = Draft.setAll
      { endpoint := { d.endpoint with
          port := e.port, timeoutMs := e.timeoutMs, weight := e.weight },
        weightFlag := e.weightType.flag } rest := by
  have hport : Text.nat? 0xFFFF (toString e.port) = some e.port.toNat :=
    Text.nat?_repr (Nat.le_of_lt_succ e.port.toNat_lt)
  have htimeout : Text.nat? 0xFFFFFFFF (toString e.timeoutMs) = some e.timeoutMs.toNat :=
    Text.nat?_repr (Nat.le_of_lt_succ e.timeoutMs.toNat_lt)
  have hflag : Text.int? (-0x80000000) 0x7FFFFFFF (toString e.weightType.flag) =
      some (e.weightType.flag : Int) := by
    rcases e.weightType with - | - <;> rfl
  have hweight : Text.int? (-0x80000000) 0x7FFFFFFF (toString e.weight.toInt) =
      some e.weight.toInt :=
    Text.int?_toString e.weight.le_toInt (Int.le_of_lt_add_one e.weight.toInt_lt)
  rw [numbers]
  simp only [List.cons_append, List.nil_append]
  rw [setAll_flag 'p' rfl (by simp only [Draft.set, hport]; rfl),
    setAll_flag 't' rfl (by simp only [Draft.set, htimeout]; rfl),
    setAll_flag 'v' rfl (by simp only [Draft.set, hflag]; rfl),
    setAll_flag 'w' rfl (by simp only [Draft.set, hweight]; rfl)]
  simp

theorem Describable.blankless_words (h : e.Describable) : ∀ w ∈ e.words, Text.Blankless w :=
  forall_mem_words (fun t => by rcases t with - | - | - <;> decide) (by decide)
    Text.blankless_toString h.host fun _ => h.setId

theorem Describable.ne_of_mem_words (h : e.Describable) : ∀ w ∈ e.words, w ≠ "" :=
  forall_mem_words (fun t => by rcases t with - | - | - <;> decide) (by decide)
    Text.toString_ne_empty h.host_ne id

theorem Describable.words_text (h : e.Describable) : Text.words e.text = e.words := by
  rw [text_eq_intercalate, Text.words_intercalate h.blankless_words, List.filter_eq_self]
  simpa using h.ne_of_mem_words

theorem Describable.finish (h : e.Describable) :
    Draft.finish { endpoint := { e with weightType := .loop }, weightFlag := e.weightType.flag } =
      .ok e := by
  rcases e with ⟨host, port, transport, timeoutMs, weight, weightType, setId⟩
  rcases weightType with - | -
  · simp [Draft.finish, h.host_ne, WeightType.flag]
  · simpa [Draft.finish, h.host_ne, WeightType.flag, withStaticWeight] using h.weight rfl

/-- The text of an endpoint that a descriptor can describe is a descriptor of this endpoint. -/
theorem parse_text_of_describable (h : e.Describable) : parse e.text = .ok e := by
  have hset : Draft.setAll
      { endpoint := { e with weightType := .loop, setId := "" }, weightFlag := e.weightType.flag }
      (if e.setId = "" then [] else ["-s", e.setId]) =
        .ok { endpoint := { e with weightType := .loop }, weightFlag := e.weightType.flag } := by
    split
    · next hempty =>
      simp [Draft.setAll, ← hempty]
    · rw [setAll_flag 's' rfl rfl]
      simp [Draft.setAll]
  rw [parse, h.words_text, words_eq]
  simp only [transport?_name, bind, Except.bind]
  rw [setAll_flag 'h' rfl rfl, setAll_numbers]
  simp only [hset]
  exact h.finish

/-! ## What is read can be written -/

/-- Setting a flag changes the host or the set to the value of the flag, or leaves them. -/
theorem set_frame {flag : Char} {value : String} (h : d.set flag value = .ok d') :
    d'.endpoint.weightType = d.endpoint.weightType ∧
      (d'.endpoint.host = d.endpoint.host ∨ d'.endpoint.host = value) ∧
      (d'.endpoint.setId = d.endpoint.setId ∨ d'.endpoint.setId = value) := by
  revert h
  fun_cases Draft.set d flag value <;> rintro ⟨⟩ <;> simp +zetaDelta

/-- What the values of flags keep, the flags among words keep. -/
theorem setAll_induction {Q : Draft → Prop} {words : List String}
    (hset : ∀ value ∈ words, ∀ flag d d', Draft.set d flag value = .ok d' → Q d → Q d')
    (hd : Q d) (h : d.setAll words = .ok d') : Q d' := by
  fun_induction Draft.setAll d words with
  | case1 d => exact Except.ok.inj h ▸ hd
  | case2 d word rest _ ih => exact ih (List.forall_mem_cons.1 hset).2 hd h
  | case3 => cases h
  | case4 d word flag value rest _ d₁ hd₁ ih =>
    obtain ⟨hvalue, hrest⟩ := List.forall_mem_cons.1 (List.forall_mem_cons.1 hset).2
    exact ih hrest (hvalue flag d d₁ hd₁ hd) h
  | case5 => cases h

theorem exists_of_bind_eq_ok {ε α β : Type} {x : Except ε α} {f : α → Except ε β} {b : β}
    (h : x >>= f = .ok b) : ∃ a, x = .ok a ∧ f a = .ok b := by
  rcases x with error | a
  · cases h
  · exact ⟨a, rfl, h⟩

theorem exists_of_parse (h : parse s = .ok e) :
    ∃ word flags t d, Text.words s = word :: flags ∧ transport? word = .ok t ∧
      Draft.setAll { endpoint := { host := "", port := 0, transport := t } } flags = .ok d ∧
      d.finish = .ok e := by
  rw [parse] at h
  split at h
  · cases h
  · next word flags hwords =>
    obtain ⟨t, ht, h⟩ := exists_of_bind_eq_ok h
    obtain ⟨d, hd, h⟩ := exists_of_bind_eq_ok h
    exact ⟨word, flags, t, d, hwords, ht, hd, h⟩

theorem finish_eq_ok (h : d.finish = .ok e) : d.endpoint.host ≠ "" ∧
    (e = d.endpoint ∨ e = d.endpoint.withStaticWeight d.endpoint.weight) := by
  revert h
  fun_cases Draft.finish d <;> rintro ⟨⟩ <;> simp_all

/-- The host and the set of an endpoint are words of its descriptor, or empty. -/
theorem names_of_parse {P : String → Prop} (hempty : P "") (hwords : ∀ w ∈ Text.words s, P w)
    (h : parse s = .ok e) : P e.host ∧ P e.setId := by
  obtain ⟨word, flags, t, d, hs, -, hd, he⟩ := exists_of_parse h
  rw [hs, List.forall_mem_cons] at hwords
  have hnames : P d.endpoint.host ∧ P d.endpoint.setId := by
    refine setAll_induction (Q := fun d => P d.endpoint.host ∧ P d.endpoint.setId)
      (fun value hvalue flag d d' hset hd => ?_) ⟨hempty, hempty⟩ hd
    obtain ⟨-, hhost, hsetId⟩ := set_frame hset
    have hvalue : P value := hwords.2 value hvalue
    exact ⟨hhost.elim (fun h => h ▸ hd.1) fun h => h ▸ hvalue,
      hsetId.elim (fun h => h ▸ hd.2) fun h => h ▸ hvalue⟩
  obtain ⟨-, rfl | rfl⟩ := finish_eq_ok he <;> exact hnames

theorem describable_of_parse (h : parse s = .ok e) : e.Describable := by
  obtain ⟨hhost, hsetId⟩ := names_of_parse (P := Text.Blankless) (by decide)
    (fun w hw => (Text.of_mem_words hw).2.1) h
  obtain ⟨word, flags, t, d, -, -, hd, he⟩ := exists_of_parse h
  obtain ⟨hne, he⟩ := finish_eq_ok he
  have hloop : d.endpoint.weightType = .loop :=
    setAll_induction (Q := fun d => d.endpoint.weightType = .loop)
      (fun _ _ _ _ _ hset hd => (set_frame hset).1.trans hd) rfl hd
  refine ⟨?_, hhost, hsetId, ?_⟩
  · rcases he with rfl | rfl <;> exact hne
  · rcases he with rfl | rfl
    · rw [hloop]
      exact nofun
    · exact fun _ => clampWeight_clampWeight _

/-- Descriptors describe the endpoints that they can describe, and no others. -/
theorem exists_parse_iff : (∃ s, parse s = .ok e) ↔ e.Describable :=
  ⟨fun ⟨_, h⟩ => describable_of_parse h, fun h => ⟨e.text, parse_text_of_describable h⟩⟩

/-! ## Building -/

/-- An endpoint is built step by step. -/
inductive Built : Endpoint → Prop
  | new (host : String) (port : UInt16) (transport : Transport) : Built { host, port, transport }
  | withStaticWeight {e : Endpoint} (w : Int32) : Built e → Built (e.withStaticWeight w)
  | withSetId {e : Endpoint} (setId : String) : Built e → Built (e.withSetId setId)

theorem Built.weight (h : Built e) : e.weightType = .static → clampWeight e.weight = e.weight := by
  induction h with
  | new => exact nofun
  | withStaticWeight w => exact fun _ => clampWeight_clampWeight w
  | withSetId setId _ ih => exact ih

/-- The canonical text of an endpoint is a descriptor of this endpoint, if the endpoint comes from
    any descriptor, or if it was built from names without blanks and its host is not empty. -/
theorem parse_text_eq_self :
    (∀ s e, parse s = .ok e → parse e.text = .ok e) ∧
    ∀ e, Built e → e.host ≠ "" → Text.Blankless e.host → Text.Blankless e.setId →
      parse e.text = .ok e :=
  ⟨fun _ _ h => parse_text_of_describable (describable_of_parse h),
    fun _ hbuilt hne hhost hsetId => parse_text_of_describable ⟨hne, hhost, hsetId, hbuilt.weight⟩⟩

/-- An endpoint whose host and set look like flags. -/
def flaglike : Endpoint :=
  { host := "-p", port := 80, transport := .udp, weight := 100, weightType := .static,
    setId := "-s" }

/-- An endpoint that was built from a host with colons. -/
def clamped : Endpoint :=
  (withStaticWeight { host := "::1", port := 443, transport := .tls } 250).withSetId "app.sz.1"

theorem parse_text_eq_self_flaglike :
    (parse " UDP\u3000-host -p -p +80 x -w -5 -v 7\t-q 1 -w 250 -s -s" = .ok flaglike ∧
      parse flaglike.text = .ok flaglike) ∧
    (Built clamped ∧ clamped.host ≠ "" ∧ Text.Blankless clamped.host ∧
      Text.Blankless clamped.setId ∧ parse clamped.text = .ok clamped) := by
  have hparse :
      parse " UDP\u3000-host -p -p +80 x -w -5 -v 7\t-q 1 -w 250 -s -s" = .ok flaglike := by
    decide +kernel
  have hbuilt : Built clamped := ((Built.new _ _ _).withStaticWeight 250).withSetId "app.sz.1"
  have hne : clamped.host ≠ "" := by decide
  have hhost : Text.Blankless clamped.host := by decide
  have hsetId : Text.Blankless clamped.setId := by decide
  exact ⟨⟨hparse, parse_text_eq_self.1 _ _ hparse⟩, hbuilt, hne, hhost, hsetId,
    parse_text_eq_self.2 _ hbuilt hne hhost hsetId⟩

end TaggedRpc.Endpoint
