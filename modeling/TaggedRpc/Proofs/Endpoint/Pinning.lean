import Mathlib.Data.List.Basic
import TaggedRpc.Endpoint.Reference
import TaggedRpc.Proofs.Endpoint.RoundTrip

/-!
# Pinned endpoints

A reference can pin endpoints by their texts, with colons between them (`Reference.pinning`). It is
read as these endpoints if and only if no host and no set has a colon in it
(`Reference.parse_pinning_iff`): a reference falls apart at every colon, so no endpoint with a colon
in its host or its set comes out of any reference (`Reference.colonless_of_parse`).

So the hosts that are addresses with colons in them cannot be pinned
(`Reference.not_parse_pinning`); references with such hosts are refused. A colon in a set may cost a
part of the set.
-/

namespace TaggedRpc

namespace Endpoint

variable {e : Endpoint} {d d' : Draft}

/-- Neither the host nor the set has a colon. -/
structure Colonless (e : Endpoint) : Prop where
  host : ':' ∉ e.host.toList
  setId : ':' ∉ e.setId.toList

instance (e : Endpoint) : Decidable e.Colonless :=
  decidable_of_iff (':' ∉ e.host.toList ∧ ':' ∉ e.setId.toList)
    ⟨fun h => ⟨h.1, h.2⟩, fun h => ⟨h.host, h.setId⟩⟩

theorem Colonless.not_mem_text (h : e.Colonless) : ':' ∉ e.text.toList := by
  rw [text_eq_intercalate]
  exact Text.not_mem_intercalate (by decide) (forall_mem_words
    (fun t => by rcases t with - | - | - <;> decide) (by decide)
    (not_mem_toString rfl (by decide)) h.host fun _ => h.setId)

/-- A descriptor without colons describes an endpoint without colons. -/
theorem colonless_of_parse {s : String} (hs : ':' ∉ s.toList) (h : parse s = .ok e) :
    e.Colonless := by
  obtain ⟨hhost, hsetId⟩ := names_of_parse (P := fun w => ':' ∉ w.toList) (by decide)
    (fun w hw hcolon => hs ((Text.of_mem_words hw).2.2 _ hcolon)) h
  exact ⟨hhost, hsetId⟩

theorem Describable.exists_getLast?_text (h : e.Describable) :
    ∃ c, e.text.toList.getLast? = some c ∧ Text.isBlank c = false := by
  rw [text_eq_intercalate]
  exact Text.exists_getLast?_intercalate _ (List.cons_ne_nil _ _) fun w hw =>
    (h.blankless_words w hw).exists_getLast? (h.ne_of_mem_words w hw)

/-! ## What is left of a host after a colon -/

/-- The end of the text of an endpoint, from the last colon of the host to the first colon of the
    set. -/
def remnant (e : Endpoint) (host setId : String) : String :=
  " ".intercalate (host :: (e.numbers ++ if e.setId = "" then [] else ["-s", setId]))

theorem words_remnant (e : Endpoint) {host setId : String} (hhost : Text.Blankless host)
    (hsetId : Text.Blankless setId) : Text.words (e.remnant host setId) = [host].filter (· ≠ "") ++
      (e.numbers ++ if e.setId = "" then [] else "-s" :: [setId].filter (· ≠ "")) := by
  have hnumbers : ∀ w ∈ e.numbers, Text.Blankless w :=
    forall_mem_numbers (by decide) Text.blankless_toString
  have hne : ∀ w ∈ e.numbers, w ≠ "" := forall_mem_numbers (by decide) Text.toString_ne_empty
  have hset : ∀ w ∈ if e.setId = "" then [] else ["-s", setId], Text.Blankless w := by
    have hflag : Text.Blankless "-s" := by decide
    split <;> simp [hflag, hsetId]
  rw [remnant, Text.words_intercalate
    (List.forall_mem_cons.2 ⟨hhost, List.forall_mem_append.2 ⟨hnumbers, hset⟩⟩)]
  rw [← List.singleton_append, List.filter_append, List.filter_append,
    List.filter_eq_self.2 fun w hw => decide_eq_true (hne w hw)]
  split <;> rfl

theorem host_setAll_set {value? : List String} (hvalue : value?.length ≤ 1)
    (h : d.setAll ("-s" :: value?) = .ok d') : d'.endpoint.host = d.endpoint.host := by
  rcases value? with - | ⟨value, - | ⟨value', rest⟩⟩
  · rw [Draft.setAll.eq_def] at h
    cases h
  · rw [setAll_flag 's' rfl rfl, Draft.setAll] at h
    cases h
    rfl
  · simp at hvalue

/-- What is left of an endpoint is no descriptor: it has no host. -/
theorem parse_remnant_ne_ok (e e' : Endpoint) {host setId : String} (hhost : Text.Blankless host)
    (hsetId : Text.Blankless setId) : parse (e.remnant host setId) ≠ .ok e' := by
  intro h
  obtain ⟨word, flags, t, d, hwords, ht, hd, hfinish⟩ := exists_of_parse h
  rw [words_remnant e hhost hsetId] at hwords
  by_cases hempty : host = ""
  · -- The first word is the flag of the port.
    simp only [hempty, numbers] at hwords
    obtain ⟨rfl, -⟩ := List.cons.inj hwords
    cases ht
  · have hfilter : [host].filter (· ≠ "") = [host] := by simpa using hempty
    rw [hfilter, List.singleton_append] at hwords
    obtain ⟨-, rfl⟩ := List.cons.inj hwords
    rw [setAll_numbers] at hd
    refine (finish_eq_ok hfinish).1 ?_
    split at hd
    · rw [Draft.setAll] at hd
      cases hd
      rfl
    · exact host_setAll_set (List.length_filter_le _ _) hd

theorem words_remnant_ne_nil (e : Endpoint) {host setId : String} (hhost : Text.Blankless host)
    (hsetId : Text.Blankless setId) : Text.words (e.remnant host setId) ≠ [] := by
  rw [words_remnant e hhost hsetId]
  exact List.append_ne_nil_of_right_ne_nil _ (List.cons_ne_nil _ _)

theorem remnant_concat (h : e.setId ≠ "") (host setId : String) :
    e.remnant host setId = e.remnant host "" ++ setId := by
  simp only [remnant, if_neg h]
  exact Text.intercalate_concat " " (host :: (e.numbers ++ ["-s"])) setId

theorem not_mem_remnant {host : String} (h : ':' ∉ host.toList) :
    ':' ∉ (e.remnant host "").toList := by
  have hnumbers : ∀ w ∈ e.numbers, ':' ∉ w.toList :=
    forall_mem_numbers (by decide) (not_mem_toString rfl (by decide))
  refine Text.not_mem_intercalate (by decide) (List.forall_mem_cons.2 ⟨h, ?_⟩)
  refine List.forall_mem_append.2 ⟨hnumbers, ?_⟩
  split <;> decide

/-- The text of an endpoint up to a place in the host and from there on. -/
theorem text_eq_append {u v : String} (h : e.host = u ++ v) :
    e.text = " ".intercalate [e.transport.name, "-h", ""] ++ u ++ e.remnant v e.setId := by
  rw [text_eq_intercalate, words_eq, h, remnant]
  simp only [String.intercalate_cons_cons, String.intercalate_cons_append,
    String.intercalate_singleton, String.append_assoc, String.empty_append]

/-- If the host has a colon, what is left of it is among the parts of the text. -/
theorem Describable.exists_remnant_mem_split (h : e.Describable) (hcolon : ':' ∈ e.host.toList) :
    ∃ host setId, Text.Blankless host ∧ Text.Blankless setId ∧
      e.remnant host setId ∈ Text.split ':' e.text := by
  obtain ⟨u, v, hhost, hv⟩ := Text.exists_eq_append_last hcolon
  have hblankless : Text.Blankless v := fun c hc => h.host c (by simp [hhost, hc])
  rw [text_eq_append hhost, ← String.append_assoc, Text.split_append]
  by_cases hset : e.setId = ""
  · refine ⟨v, e.setId, hblankless, h.setId, List.mem_append_right _ ?_⟩
    rw [hset, Text.split_eq_singleton (not_mem_remnant hv)]
    exact List.mem_cons_self
  · -- The set may have colons, too. The part then ends before the first of these.
    obtain ⟨setId, hmem, -, hsub⟩ :=
      Text.exists_append_mem_split (not_mem_remnant (e := e) hv) e.setId
    refine ⟨v, setId, hblankless, fun c hc => h.setId c (hsub c hc), List.mem_append_right _ ?_⟩
    rwa [remnant_concat hset v setId, remnant_concat hset v e.setId]

end Endpoint

namespace Reference

open Endpoint (Describable Colonless)

variable {parts : List String} {es : List Endpoint} {name s : String}

/-! ## Parts -/

/-- Parts are read if each of them is blank or a descriptor; the descriptors among them then say
    what is read. -/
theorem parseParts_eq_ok_iff : parseParts parts = .ok es ↔
    (parts.filter (Text.words · ≠ [])).map Endpoint.parse = es.map .ok := by
  induction parts generalizing es with
  | nil => rcases es with - | ⟨e, es⟩ <;> simp [parseParts]
  | cons part parts ih =>
    rw [parseParts]
    by_cases hpart : Text.words part = []
    · simp [hpart, ih]
    · rw [if_neg (by simpa using hpart), List.filter_cons_of_pos (by simpa using hpart),
        List.map_cons]
      rcases Endpoint.parse part with error | e
      · rcases es with - | ⟨e', es⟩ <;> simp [bind, Except.bind]
      · rcases es with - | ⟨e', es⟩
        · rcases parseParts parts <;> simp [bind, Except.bind, pure, Except.pure]
        · rw [List.map_cons, List.cons.injEq, ← ih]
          rcases parseParts parts <;> simp [bind, Except.bind, pure, Except.pure]

/-- Endpoints that were read come from parts. -/
theorem exists_of_mem_parseParts (h : parseParts parts = .ok es) :
    ∀ e ∈ es, ∃ part ∈ parts, Endpoint.parse part = .ok e := by
  intro e he
  have hmem : .ok e ∈ es.map (Except.ok (ε := Endpoint.ParseError)) := List.mem_map_of_mem he
  rw [← parseParts_eq_ok_iff.1 h] at hmem
  obtain ⟨part, hpart, hparse⟩ := List.mem_map.1 hmem
  exact ⟨part, (List.mem_filter.1 hpart).1, hparse⟩

/-- A part with words in it is a descriptor, if the parts are read. -/
theorem exists_parse_of_mem (h : parseParts parts = .ok es) {part : String} (hpart : part ∈ parts)
    (hwords : Text.words part ≠ []) : ∃ e, Endpoint.parse part = .ok e := by
  have hmem : part ∈ parts.filter (Text.words · ≠ []) :=
    List.mem_filter.2 ⟨hpart, decide_eq_true hwords⟩
  have hparse := List.mem_map_of_mem (f := Endpoint.parse) hmem
  rw [parseParts_eq_ok_iff.1 h] at hparse
  obtain ⟨e, -, he⟩ := List.mem_map.1 hparse
  exact ⟨e, he.symm⟩

theorem parseParts_map_text (h : ∀ e ∈ es, e.Describable) :
    parseParts (es.map Endpoint.text) = .ok es := by
  have hfilter : (es.map Endpoint.text).filter (Text.words · ≠ []) = es.map Endpoint.text := by
    refine List.filter_eq_self.2 (List.forall_mem_map.2 fun e he => ?_)
    simp [(h e he).words_text, Endpoint.words_eq]
  rw [parseParts_eq_ok_iff, hfilter, List.map_map, List.map_inj_left]
  intro e he
  rw [Function.comp_apply, Endpoint.parse_text_of_describable (h e he)]

/-! ## References -/

/-- What comes after the name and the sign is read part by part. -/
theorem parse_append_eq_ok_iff (hname : '@' ∉ name.toList) (htrim : Text.trim name = name)
    {rest : String} (hrest : ∃ c, rest.toList.getLast? = some c ∧ Text.isBlank c = false)
    {r : Reference} : parse (name ++ "@" ++ rest) = .ok r ↔
      ∃ es, parseParts (Text.split ':' rest) = .ok es ∧ es ≠ [] ∧ r = ⟨name, some es⟩ := by
  have hchars : Text.trimChars name.toList = name.toList := by
    simpa [Text.trim] using congrArg String.toList htrim
  have hself : Text.trimChars (name ++ "@" ++ rest).toList = name.toList ++ '@' :: rest.toList := by
    obtain ⟨c, hc, hblank⟩ := hrest
    have hlist : (name ++ "@" ++ rest).toList = name.toList ++ '@' :: rest.toList := by simp
    rw [hlist]
    refine Text.trimChars_eq_self ?_ (by simp_all [List.getLast?_cons])
    rcases hcs : name.toList with - | ⟨c', cs⟩
    · simpa using (by decide : Text.isBlank '@' = false)
    · simpa using Text.isBlank_of_trimChars_eq (hcs ▸ hchars)
  have hat : ∀ c ∈ name.toList, (decide (c ≠ '@')) = true := fun c hc =>
    decide_eq_true fun h => hname (h ▸ hc)
  rw [parse, hself, List.takeWhile_append_of_pos hat, List.dropWhile_append_of_pos hat,
    List.takeWhile_cons_of_neg (by simp), List.dropWhile_cons_of_neg (by simp), List.append_nil]
  simp only [hchars, String.ofList_toList]
  rcases parseParts (Text.split ':' rest) with error | - | ⟨e, es⟩ <;>
    simp [bind, Except.bind, pure, Except.pure, eq_comm]

/-- No colon is left in the hosts and the sets of pinned endpoints. -/
theorem colonless_of_parse {r : Reference} (h : parse s = .ok r) :
    ∀ es ∈ r.direct, ∀ e ∈ es, e.Colonless := by
  rw [parse] at h
  split at h
  · cases h
    simp
  · obtain ⟨es, hes, h⟩ := Endpoint.exists_of_bind_eq_ok h
    split at h
    · cases h
    · obtain rfl := Except.ok.inj h
      simp only [Option.mem_some, forall_eq']
      intro e he
      obtain ⟨part, hpart, hparse⟩ := exists_of_mem_parseParts hes e he
      exact Endpoint.colonless_of_parse (Text.not_mem_of_mem_split hpart) hparse

/-! ## Pinning -/

/-- A reference that pins endpoints. -/
def pinning (name : String) (es : List Endpoint) : String :=
  name ++ "@" ++ ":".intercalate (es.map Endpoint.text)

theorem parse_pinning_eq_ok_iff (hname : '@' ∉ name.toList) (htrim : Text.trim name = name)
    (hne : es ≠ []) (h : ∀ e ∈ es, e.Describable) {r : Reference} :
    parse (pinning name es) = .ok r ↔
      ∃ es', parseParts (es.flatMap (Text.split ':' ·.text)) = .ok es' ∧
        es' ≠ [] ∧ r = ⟨name, some es'⟩ := by
  have hmap : es.map Endpoint.text ≠ [] := by simpa using hne
  have hsplit : Text.split ':' (":".intercalate (es.map Endpoint.text)) =
      (es.map Endpoint.text).flatMap (Text.split ':') := Text.split_intercalate ':' hmap
  rw [pinning, parse_append_eq_ok_iff hname htrim, hsplit, List.flatMap_map]
  exact Text.exists_getLast?_intercalate _ hmap
    (List.forall_mem_map.2 fun e he => (h e he).exists_getLast?_text)

theorem parse_pinning (hname : '@' ∉ name.toList) (htrim : Text.trim name = name)
    (hne : es ≠ []) (h : ∀ e ∈ es, e.Describable) (hcolon : ∀ e ∈ es, e.Colonless) :
    parse (pinning name es) = .ok ⟨name, some es⟩ := by
  have hparts : es.flatMap (Text.split ':' ·.text) = es.map Endpoint.text := by
    rw [List.map_eq_flatMap]
    exact List.flatMap_congr fun e he => Text.split_eq_singleton (hcolon e he).not_mem_text
  rw [parse_pinning_eq_ok_iff hname htrim hne h, hparts]
  exact ⟨es, parseParts_map_text h, hne, rfl⟩

/-- A reference is refused if a host in it has a colon. -/
theorem exists_parse_pinning_eq_error (hname : '@' ∉ name.toList) (htrim : Text.trim name = name)
    (h : ∀ e ∈ es, e.Describable) (hcolon : ∃ e ∈ es, ':' ∈ e.host.toList) :
    ∃ error, parse (pinning name es) = .error error := by
  obtain ⟨e, he, hcolon⟩ := hcolon
  rcases hparse : parse (pinning name es) with error | r
  · exact ⟨error, rfl⟩
  · exfalso
    obtain ⟨es', hes', -, -⟩ :=
      (parse_pinning_eq_ok_iff hname htrim (List.ne_nil_of_mem he) h).1 hparse
    obtain ⟨host, setId, hhost, hsetId, hmem⟩ := (h e he).exists_remnant_mem_split hcolon
    obtain ⟨e', he'⟩ := exists_parse_of_mem hes' (List.mem_flatMap.2 ⟨e, he, hmem⟩)
      (e.words_remnant_ne_nil hhost hsetId)
    exact e.parse_remnant_ne_ok e' hhost hsetId he'

/-- A reference that pins endpoints by their texts is read as these endpoints if and only if no host
    and no set among them has a colon. It is refused if a host has one. -/
theorem parse_pinning_iff (hname : '@' ∉ name.toList) (htrim : Text.trim name = name)
    (hne : es ≠ []) (h : ∀ e ∈ es, ∃ s, Endpoint.parse s = .ok e) :
    (parse (pinning name es) = .ok ⟨name, some es⟩ ↔ ∀ e ∈ es, e.Colonless) ∧
      ((∃ e ∈ es, ':' ∈ e.host.toList) → ∃ error, parse (pinning name es) = .error error) := by
  have hdescribable : ∀ e ∈ es, e.Describable := fun e he => Endpoint.exists_parse_iff.1 (h e he)
  exact ⟨⟨fun hparse => colonless_of_parse hparse es rfl,
    parse_pinning hname htrim hne hdescribable⟩,
    exists_parse_pinning_eq_error hname htrim hdescribable⟩

/-- An endpoint with a name for its host. -/
def gateway : Endpoint :=
  { host := "gate.local", port := 80, transport := .tcp, setId := "app.sz.1" }

/-- An endpoint with an address with colons for its host. -/
def loopback : Endpoint := { host := "::1", port := 80, transport := .tcp }

theorem parse_gateway : Endpoint.parse "tcp -p 80 -h gate.local -s app.sz.1" = .ok gateway := by
  decide +kernel

theorem parse_loopback : Endpoint.parse "tcp -h ::1 -p 80" = .ok loopback := by
  decide +kernel

theorem parse_pinning_iff_loopback :
    parse (pinning "App.Server.Obj" [gateway, gateway]) =
      .ok ⟨"App.Server.Obj", some [gateway, gateway]⟩ ∧
    ∃ error, parse (pinning "App.Server.Obj" [gateway, loopback]) = .error error := by
  have hname : '@' ∉ "App.Server.Obj".toList := by decide
  have htrim : Text.trim "App.Server.Obj" = "App.Server.Obj" := by decide
  have hgateway : ∃ s, Endpoint.parse s = .ok gateway := ⟨_, parse_gateway⟩
  have hloopback : ∃ s, Endpoint.parse s = .ok loopback := ⟨_, parse_loopback⟩
  constructor
  · exact (parse_pinning_iff hname htrim (List.cons_ne_nil _ _) (by simp [hgateway])).1.2
      (by decide)
  · exact (parse_pinning_iff hname htrim (List.cons_ne_nil _ _) (by simp [hgateway, hloopback])).2
      ⟨loopback, by decide, by decide⟩

/-- A colon at the end of a set is not seen. -/
example : parse (pinning "echo" [{ gateway with setId := "app.sz.1:" }]) =
    .ok ⟨"echo", some [gateway]⟩ := by
  decide +kernel

/-- Not all endpoints can be pinned. -/
theorem not_parse_pinning : ¬∀ (name : String) (es : List Endpoint), '@' ∉ name.toList →
    Text.trim name = name → es ≠ [] → (∀ e ∈ es, ∃ s, Endpoint.parse s = .ok e) →
    parse (pinning name es) = .ok ⟨name, some es⟩ := by
  intro h
  have hparse := h "App.Server.Obj" [loopback] (by decide) (by decide) (List.cons_ne_nil _ _)
    (List.forall_mem_singleton.2 ⟨_, parse_loopback⟩)
  exact absurd (colonless_of_parse hparse _ rfl loopback List.mem_cons_self) (by decide)

end Reference

end TaggedRpc
