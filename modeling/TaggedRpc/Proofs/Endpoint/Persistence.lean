import TaggedRpc.Endpoint.Cache
import TaggedRpc.Proofs.Bytes
import TaggedRpc.Proofs.Json.RoundTrip

/-!
# What a cache remembers

What is written to the file of a cache is read back from it, entry by entry and with every field of
their endpoints (`Cache.parse?_render`). A store puts one entry for its *slot*, an object in a set
under a locator, and leaves the other slots alone (`Cache.find?_upsert`, `Cache.nodup_upsert`).

A history is a list of deeds, the latest first: stores, and openings of the cache again. After each
of them the cache knows what has been stored last, each slot once, and has it on file
(`Cache.Sound`). So opening it again changes nothing, and it is a map (`Cache.remembers`).
-/

namespace TaggedRpc

/-! ## The file -/

theorem Transport.named?_fileName (t : Transport) :
    Json.named? [("tcp", .tcp), ("udp", .udp), ("tls", .tls)] (.string t.fileName) = some t := by
  cases t <;> decide

theorem WeightType.named?_fileName (t : WeightType) :
    Json.named? [("loop", .loop), ("static", .static)] (.string t.fileName) = some t := by
  cases t <;> decide

namespace Endpoint

theorem ofJson?_toJson (e : Endpoint) : ofJson? e.toJson = some e := by
  have hfields : e.toJson.record? ["host", "port", "transport", "timeout_ms", "weight",
      "weight_type", "set_id"] = some [some (.string e.host), some (.nat e.port.toNat),
        some (.string e.transport.fileName), some (.nat e.timeoutMs.toNat),
        some (.int e.weight.toInt), some (.string e.weightType.fileName),
        some (.string e.setId)] := Json.record?_ofMembers (by simp)
  have hport : (Json.nat e.port.toNat).nat? 0xFFFF = some e.port.toNat :=
    Json.nat?_nat (Nat.le_of_lt_succ e.port.toNat_lt)
  have htimeout : (Json.nat e.timeoutMs.toNat).nat? 0xFFFFFFFF = some e.timeoutMs.toNat :=
    Json.nat?_nat (Nat.le_of_lt_succ e.timeoutMs.toNat_lt)
  have hweight : (Json.int e.weight.toInt).int? (-0x80000000) 0x7FFFFFFF = some e.weight.toInt :=
    Json.int?_int e.weight.le_toInt (Int.le_of_lt_add_one e.weight.toInt_lt)
  rw [ofJson?, hfields]
  simp [Json.text?, Json.orDefault, hport, htimeout, hweight, e.transport.named?_fileName,
    e.weightType.named?_fileName]

theorem plain_toJson (e : Endpoint) : e.toJson.Plain := by
  refine .object ?_ ?_
  · simp
  · simp [Json.Plain.string, Json.plain_int, Json.plain_nat]

end Endpoint

namespace CacheEntry

theorem ofJson?_toJson (c : CacheEntry) : ofJson? c.toJson = some c := by
  have hfields : c.toJson.record? ["name", "set_id", "locator", "endpoints",
      "inactive_endpoints"] = some [some (.string c.name), some (.string c.setId),
        some (.string c.locator), some (.array (c.roster.active.map Endpoint.toJson)),
        some (.array (c.roster.inactive.map Endpoint.toJson))] :=
    Json.record?_ofMembers (by simp)
  rw [ofJson?, hfields]
  simp [Json.text?, Json.orDefault, Json.list?_map Endpoint.ofJson?_toJson]

theorem plain_toJson (c : CacheEntry) : c.toJson.Plain := by
  have hlist (es : List Endpoint) : (Json.array (es.map Endpoint.toJson)).Plain := .array (by
    simp [Endpoint.plain_toJson])
  refine .object ?_ ?_
  · simp
  · simp [Json.Plain.string, hlist]

end CacheEntry

namespace Cache

/-- What is written to the file is what is read from it. -/
theorem parse?_render (entries : List CacheEntry) {time : Nat} (h : time ≤ 0xFFFFFFFFFFFFFFFF) :
    parse? (Bytes.ofText (render entries time)) = some entries := by
  have hplain : (Json.ofMembers [("modify_time", .nat time),
      ("objects", .array (entries.map CacheEntry.toJson))]).Plain := by
    refine .object (by simp) ?_
    have hlist : (Json.array (entries.map CacheEntry.toJson)).Plain :=
      .array (by simp [CacheEntry.plain_toJson])
    simp [Json.plain_nat, hlist]
  have hfields : (Json.ofMembers [("modify_time", .nat time),
      ("objects", .array (entries.map CacheEntry.toJson))]).record? ["modify_time", "objects"] =
        some [some (.nat time), some (.array (entries.map CacheEntry.toJson))] :=
    Json.record?_ofMembers (by simp)
  rw [parse?, Bytes.text?_ofText, render]
  simp [Json.parse?_pretty hplain, hfields, Json.nat?_nat h,
    Json.list?_map CacheEntry.ofJson?_toJson]

end Cache

/-! ## Entries -/

namespace CacheEntry

/-- What an entry is about: an object in a set under a locator. -/
structure Slot where
  name : String
  setId : String
  locator : String
  deriving DecidableEq, Repr

def slot (c : CacheEntry) : Slot := ⟨c.name, c.setId, c.locator⟩

theorem matches_eq_decide (c : CacheEntry) (slot : Slot) :
    c.matches slot.name slot.setId slot.locator = decide (c.slot = slot) := by
  cases slot
  rw [Bool.eq_iff_iff, decide_eq_true_iff]
  simp [CacheEntry.matches, CacheEntry.slot, and_assoc]

end CacheEntry

namespace Cache

open CacheEntry

theorem lookup?_eq_find? (c : Cache) (slot : Slot) :
    c.lookup? slot.name slot.setId slot.locator =
      (c.entries.find? fun e => e.slot = slot).map CacheEntry.roster := by
  simp only [lookup?, matches_eq_decide]

theorem upsert_cons (entry e : CacheEntry) (es : List CacheEntry) :
    upsert entry (e :: es) =
      if e.slot = entry.slot then entry :: es else e :: upsert entry es := by
  rw [upsert, show e.matches entry.name entry.setId entry.locator = _ from
    matches_eq_decide e entry.slot]
  simp only [decide_eq_true_eq]

/-- An entry is found in its own slot, and every other one as before. -/
theorem find?_upsert (entry : CacheEntry) (es : List CacheEntry) (slot : Slot) :
    ((upsert entry es).find? fun e => e.slot = slot) =
      if entry.slot = slot then some entry else es.find? fun e => e.slot = slot := by
  induction es with
  | nil => by_cases hslot : entry.slot = slot <;> simp [upsert, hslot]
  | cons e es ih =>
    rw [upsert_cons]
    by_cases he : e.slot = entry.slot
    · by_cases hslot : entry.slot = slot <;> simp [he, hslot]
    · rw [if_neg he]
      by_cases hslot : e.slot = slot
      · have hne : ¬entry.slot = slot := fun h => he (hslot.trans h.symm)
        simp [hslot, hne]
      · simp [hslot, ih]

/-- A slot is added if it is not there, and the others stay where they are. -/
theorem map_slot_upsert (entry : CacheEntry) (es : List CacheEntry) :
    (upsert entry es).map slot =
      if entry.slot ∈ es.map slot then es.map slot else es.map slot ++ [entry.slot] := by
  induction es with
  | nil => rfl
  | cons e es ih =>
    rw [upsert_cons]
    by_cases he : e.slot = entry.slot
    · simp [he]
    · rw [if_neg he, List.map_cons, ih, List.map_cons]
      by_cases hmem : entry.slot ∈ es.map slot
      · rw [if_pos hmem, if_pos (List.mem_cons_of_mem _ hmem)]
      · have hnot : entry.slot ∉ e.slot :: es.map slot :=
          List.not_mem_cons_of_ne_of_not_mem (Ne.symm he) hmem
        rw [if_neg hmem, if_neg hnot, List.cons_append]

theorem nodup_upsert {entry : CacheEntry} {es : List CacheEntry} (h : (es.map slot).Nodup) :
    ((upsert entry es).map slot).Nodup := by
  rw [map_slot_upsert]
  split_ifs with hmem
  · exact h
  · exact List.concat_eq_append ▸ h.concat hmem

/-! ## Histories -/

/-- What is done with a cache. -/
inductive Deed where
  /-- The endpoints for a slot are stored, at a time in seconds. -/
  | store (slot : Slot) (roster : Roster) (time : UInt64)
  /-- It is opened again. -/
  | reopen
  deriving DecidableEq, Repr

def apply (c : Cache) : Deed → Cache
  | .store slot roster time => (c.store slot.name slot.setId slot.locator roster time.toNat).2
  | .reopen => c.reopen

/-- The cache over a file that can be written, after deeds, the latest first. -/
def after (file : Option Bytes) (deeds : List Deed) : Cache :=
  deeds.foldr (fun deed c => c.apply deed) (load file true)

/-- What has been stored last for a slot. -/
def stored (slot : Slot) : List Deed → Option Roster
  | [] => none
  | .store slot' roster _ :: earlier => if slot' = slot then some roster else stored slot earlier
  | .reopen :: earlier => stored slot earlier

/-- A cache that knows what deeds have left, each slot once, and has it on file. -/
structure Sound (deeds : List Deed) (c : Cache) : Prop where
  writable : c.writable = true
  onFile : (c.file.bind parse?).getD [] = c.entries
  nodup : (c.entries.map CacheEntry.slot).Nodup
  lookup?_eq : ∀ slot : Slot, c.lookup? slot.name slot.setId slot.locator = stored slot deeds

theorem Sound.store {deeds : List Deed} {c : Cache} (h : Sound deeds c) (slot : Slot)
    (roster : Roster) (time : UInt64) :
    Sound (.store slot roster time :: deeds) (c.apply (.store slot roster time)) := by
  obtain ⟨entry, rfl, rfl⟩ : ∃ entry : CacheEntry, entry.slot = slot ∧ entry.roster = roster :=
    ⟨⟨slot.name, slot.setId, slot.locator, roster⟩, rfl, rfl⟩
  have happly : c.apply (.store entry.slot entry.roster time) =
      { c with
        entries := upsert entry c.entries
        file := some (Bytes.ofText (render (upsert entry c.entries) time.toNat)) } := by
    rw [apply, Cache.store, h.writable]
    rfl
  rw [happly]
  refine ⟨h.writable, ?_, nodup_upsert h.nodup, fun slot => ?_⟩
  · rw [Option.bind_some, parse?_render _ (Nat.le_of_lt_succ time.toNat_lt)]
    rfl
  · rw [lookup?_eq_find?, find?_upsert, stored]
    split_ifs with hslot
    · rfl
    · rw [← h.lookup?_eq slot, lookup?_eq_find?]

/-- What is on file is what is known, so it is still known. -/
theorem Sound.reopen_eq {deeds : List Deed} {c : Cache} (h : Sound deeds c) : c.reopen = c := by
  rw [Cache.reopen, load, h.onFile]

theorem Sound.reopen {deeds : List Deed} {c : Cache} (h : Sound deeds c) :
    Sound (.reopen :: deeds) (c.apply .reopen) := by
  rw [apply, h.reopen_eq]
  exact ⟨h.writable, h.onFile, h.nodup, h.lookup?_eq⟩

theorem sound_load {file : Option Bytes} (h : file.bind parse? = none) :
    Sound [] (load file true) := by
  have hentries : (load file true).entries = [] := by rw [load, h]; rfl
  exact ⟨rfl, rfl, hentries ▸ List.nodup_nil, fun slot => by rw [lookup?_eq_find?, hentries]; rfl⟩

theorem sound_after {file : Option Bytes} (h : file.bind parse? = none) (deeds : List Deed) :
    Sound deeds (after file deeds) := by
  induction deeds with
  | nil => exact sound_load h
  | cons deed deeds ih =>
    cases deed with
    | store slot roster time => exact ih.store slot roster time
    | reopen => exact ih.reopen

/-- A cache over a file that is missing or cannot be read is a map from then on: it finds what has
    been stored last for an object in a set under a locator. A store succeeds, and other slots keep
    what they have. The file never has two entries for one slot, and opening the cache again changes
    nothing. -/
theorem remembers {file : Option Bytes} (h : file.bind parse? = none) (deeds : List Deed) :
    let c := after file deeds
    (∀ name setId locator, c.lookup? name setId locator = stored ⟨name, setId, locator⟩ deeds) ∧
    (∀ (slot : Slot) (roster : Roster) (time : UInt64),
      (c.store slot.name slot.setId slot.locator roster time.toNat).1 = true ∧
      ∀ name setId locator, slot ≠ ⟨name, setId, locator⟩ →
        (c.apply (.store slot roster time)).lookup? name setId locator =
          c.lookup? name setId locator) ∧
    (∀ entries, c.file.bind parse? = some entries → (entries.map CacheEntry.slot).Nodup) ∧
    c.reopen = c := by
  intro c
  have hsound : Sound deeds c := sound_after h deeds
  refine ⟨fun name setId locator => hsound.lookup?_eq ⟨name, setId, locator⟩,
    fun slot roster time => ⟨?_, fun name setId locator hne => ?_⟩, fun entries hfile => ?_,
    hsound.reopen_eq⟩
  · rw [store, hsound.writable]
    rfl
  · have hstored := (hsound.store slot roster time).lookup?_eq ⟨name, setId, locator⟩
    rw [stored, if_neg hne] at hstored
    exact hstored.trans (hsound.lookup?_eq ⟨name, setId, locator⟩).symm
  · have hentries := hsound.onFile
    rw [hfile, Option.getD_some] at hentries
    exact hentries ▸ hsound.nodup

/-- Two rosters of one object, in a set and as such. -/
def scattered : Roster :=
  ⟨[{ host := "a", port := 1, weight := 30, weightType := .static }, { host := "b\n", port := 2 }],
    [{ host := "\"", port := 0, transport := .tls, timeoutMs := 0, setId := "x" }]⟩

def gathered : Roster := ⟨[{ host := "c", port := 3, transport := .udp }], []⟩

/-- Over a file that is cut off, an object in a set and the same object as such are kept apart, and
    the later one of two rosters counts, through two times that the cache is opened again. -/
theorem remembers_torn :
    let file := some (Bytes.ofText "\x7bnot json")
    let deeds : List Deed := [.reopen, .store ⟨"echo", "", "loc"⟩ scattered 2,
      .store ⟨"echo", "x", "loc"⟩ gathered 1, .reopen, .store ⟨"echo", "", "loc"⟩ gathered 0]
    file.bind parse? = none ∧
      (after file deeds).lookup? "echo" "" "loc" = some scattered ∧
      (after file deeds).lookup? "echo" "x" "loc" = some gathered ∧
      (after file deeds).lookup? "echo" "" "" = none ∧
      (after file deeds).reopen = after file deeds := by
  intro file deeds
  have hfile : file.bind parse? = none := by decide
  obtain ⟨hlookup, -, -, hreopen⟩ := remembers hfile deeds
  exact ⟨hfile, (hlookup ..).trans (by decide), (hlookup ..).trans (by decide),
    (hlookup ..).trans (by decide), hreopen⟩

end Cache

end TaggedRpc
