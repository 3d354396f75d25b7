import TaggedRpc.Wire.Script
import TaggedRpc.Proofs.Wire.RoundTrip
import TaggedRpc.Proofs.Wire.Skipping
import Mathlib.Data.List.TakeWhile

/-!
# Structs read by other schemas

The schema that a struct is read by need not be the one it was written by. A
reader may ask for any of the fields that were written, skipping the others, and
for fields that were not, as long as it asks in the order of the tags; it gets
what was written or is told that the field is absent, and ends behind the struct.

* `Query`, `Schema.readStruct`: what a reader asks of a struct;
* `Schema.answer`: what it is to be told, given the fields that were written;
* `Schema.exists_yields_ask`: one query takes the reader past some fields, all
  with tags up to the one that is asked for, so that what was true of the fields
  ahead is still true of those that are left;
* `Schema.readStruct_encodeAll`: from there to the end of the struct.

Every reader of a type seeks its field first, and what follows tells what an
absent field reads as (`Read.ReadsField`).
-/

namespace TaggedRpc.Wire

/-- A field of a struct as it was written. -/
structure Written where
  /-- The tag of the field. -/
  tag : Tag
  /-- The type that the value was written at. -/
  type : Ty
  /-- The value of the field. -/
  value : Val

/-- What a reader asks of a struct: one of its fields. -/
structure Query where
  /-- The tag of the field. -/
  tag : Tag
  /-- Whether the field must be present. -/
  required : Bool
  /-- The type to read at. -/
  type : Ty
  /-- Whether to tell that a scalar, a text or a byte sequence is absent, rather
      than to give its default. -/
  optional : Bool

namespace Schema

variable (σ : Schema)

/-- Writes fields one after another. -/
def encodeAll (fs : List Written) : Bytes :=
  fs.flatMap fun f => σ.encode f.type f.value f.tag

/-- Reads the field of a query. -/
def ask (q : Query) : Read (Option Val) :=
  if q.optional then Script.readOptional σ q.tag q.required q.type
  else some <$> σ.decode q.type q.tag q.required

/-- Reads the fields of queries one after another. -/
def askAll : List Query → Read (List (Option Val))
  | [] => pure []
  | q :: qs => do
    let a ← ask σ q
    let as ← askAll qs
    pure (a :: as)

/-- Enters the struct at a tag and asks for its fields, if the struct is there. -/
def readStruct (tag : Tag) (required : Bool) (asked : List Query) :
    Read (Option (List (Option Val))) := do
  if ← Read.enterStruct tag required then some <$> Read.nested (askAll σ asked)
  else pure none

/-- What a query is told of an absent field: that it is absent, or its default. -/
def absent (q : Query) : Option Val :=
  match q.type with
  | .list _ | .map _ _ | .struct _ => some (σ.default q.type)
  | _ => if q.optional then none else some (σ.default q.type)

/-- What a query is told, given the fields of the struct. -/
def answer (fs : List Written) (q : Query) : Option Val :=
  match fs.find? (·.tag == q.tag) with
  | some f => some f.value.settled
  | none => σ.absent q

end Schema

/-! ## Readers of one field -/

namespace Read

variable {α β γ : Type} {tag : Tag} {required : Bool}

/-- A computation reads the field at a tag and goes on from there, with `b` and
    nothing else to read where the field is absent. -/
def ReadsField (tag : Tag) (required : Bool) (b : β) (x : Read β) : Prop :=
  ∃ (α : Type) (payload : WireType → Read α) (f : Option α → Read β),
    x = field tag required payload >>= f ∧ f none = pure b

theorem readsField_field (payload : WireType → Read α) :
    ReadsField tag required none (field tag required payload) :=
  ⟨α, payload, pure, (bind_pure _).symm, rfl⟩

theorem ReadsField.bind {b : β} {c : γ} {x : Read β} {f : β → Read γ}
    (h : ReadsField tag required b x) (hf : f b = pure c) :
    ReadsField tag required c (x >>= f) := by
  obtain ⟨α, payload, g, rfl, hg⟩ := h
  have hnone : g none >>= f = pure c := by rw [hg, pure_bind, hf]
  exact ⟨α, payload, fun a => g a >>= f, bind_assoc _ _ _, hnone⟩

theorem ReadsField.bind_pure {b : β} {x : Read β} (h : ReadsField tag required b x) (f : β → γ) :
    ReadsField tag required (f b) (do pure (f (← x))) :=
  h.bind rfl

theorem ReadsField.map {b : β} {x : Read β} (h : ReadsField tag required b x) (f : β → γ) :
    ReadsField tag required (f b) (f <$> x) := by
  rw [map_eq_pure_bind]
  exact h.bind_pure f

variable {depth pos : Nat} {more : Bytes} {ty : WireType} {t : Tag} {b : β} {x : Read β}

/-- A field that cannot come any more. -/
theorem ReadsField.yields_absent (h : ReadsField tag false b x)
    (hstop : ty = .structEnd ∨ tag < t) :
    Yields x depth [] (Writer.head ty t ++ more) b := by
  obtain ⟨α, payload, f, rfl, hf⟩ := h
  intro pos
  rw [bind_of_ok (yields_field_none hstop pos), hf]
  rfl

/-- A reader of a field goes past every field with a lower tag. -/
theorem ReadsField.writeFields_append {fs : List (Tag × Tree)} (h : ReadsField tag required b x)
    (hskip : ∀ f ∈ fs, f.2.SkippedBy skipField depth) (htag : ∀ f ∈ fs, f.1 < tag)
    (hstop : ty = .structEnd ∨ tag ≤ t) :
    x ⟨Tree.writeFields fs ++ (Writer.head ty t ++ more), pos, depth⟩ =
      x ⟨Writer.head ty t ++ more, pos + (Tree.writeFields fs).length, depth⟩ := by
  -- Everything after the first step depends on what that step finds.
  obtain ⟨α, payload, f, rfl, -⟩ := h
  exact bind_eq_of_eq (bind_eq_of_eq (seek_writeFields_append hskip htag hstop))

end Read

namespace Schema

open Read

variable {σ : Schema} {tag : Tag} {required : Bool}

theorem readsField_bool : ReadsField tag required none (Read.bool tag required) :=
  (readsField_field _).bind_pure (Option.map (· != 0))

/-- An unsigned word is a wider signed word that is checked after it is read. -/
theorem readsField_unsigned {α β : Type} {payload : WireType → Read α} {toInt : α → Int}
    {bound : Nat} {target : String} {f : Nat → β} :
    ReadsField tag required none (do
      let v ← field tag required payload
      pure ((← unsigned tag bound target (v.map toInt)).map f)) :=
  (readsField_field payload).bind rfl

theorem readsField_decodeInt (t : IntType) :
    ReadsField tag required none (decodeInt tag required t) := by
  cases t
  case int8 => exact (readsField_field _).bind_pure (Option.map Int8.toInt)
  case int16 => exact (readsField_field _).bind_pure (Option.map Int16.toInt)
  case int32 => exact (readsField_field _).bind_pure (Option.map Int32.toInt)
  case int64 => exact (readsField_field _).bind_pure (Option.map Int64.toInt)
  case uint8 => exact readsField_unsigned.bind_pure (Option.map fun v : UInt8 => (v.toNat : Int))
  case uint16 => exact readsField_unsigned.bind_pure (Option.map fun v : UInt16 => (v.toNat : Int))
  case uint32 => exact readsField_unsigned.bind_pure (Option.map fun v : UInt32 => (v.toNat : Int))

theorem readsField_decodeWith (fields : String → Read Val) (t : Ty) :
    ReadsField tag required (σ.default t) (σ.decodeWith fields t tag required) := by
  cases t
  -- The default of a struct is taken from the schema, as in the reader itself.
  case struct name => exact ((readsField_field _).bind_pure Option.isSome).bind rfl
  all_goals rw [default, defaultWithin]
  case bool => exact readsField_bool.bind_pure fun b => Val.bool (b.getD false)
  case int t => exact (readsField_decodeInt t).bind_pure fun n => Val.int (n.getD 0)
  case float32 => exact (readsField_field _).bind_pure fun b => Val.float32 (b.getD 0)
  case float64 => exact (readsField_field _).bind_pure fun b => Val.float64 (b.getD 0)
  case string => exact (readsField_field _).bind_pure fun s => Val.string (s.getD "")
  case bytes => exact (readsField_field _).bind_pure fun bs => Val.bytes (bs.getD [])
  case list t => exact (readsField_field _).bind rfl
  case map k v => exact (readsField_field _).bind rfl

/-! ## One query -/

variable {depth pos : Nat} {rest more tail : Bytes} {q : Query} {ty : WireType} {t : Tag}

/-- A value that was written, to a reader that can tell it from an absent one. -/
theorem yields_readOptional : ∀ {v : Val} {t : Ty}, σ.Fits t v → depth + v.structs ≤ maxNesting →
    Yields (Script.readOptional σ tag required t) depth (σ.encode t v tag) rest (some v.settled)
  | .bool v, .bool, _, _ => (yields_bool v).bind_pure (Option.map Val.bool)
  | .int v, .int t, h, _ => by
    rw [Fits] at h
    rw [encode, encodeInt_eq_integer h]
    exact (yields_decodeInt h).bind_pure (Option.map Val.int)
  | .float32 bits, .float32, _, _ => (yields_float32 bits).bind_pure (Option.map Val.float32)
  | .float64 bits, .float64, _, _ => (yields_float64 bits).bind_pure (Option.map Val.float64)
  | .string s, .string, h, _ => by
    rw [Fits] at h
    exact (yields_string h).bind_pure (Option.map Val.string)
  | .bytes bs, .bytes _, h, _ => by
    rw [Fits] at h
    exact (yields_bytes h).bind_pure (Option.map Val.bytes)
  | .list _, .list _, h, hd | .map _, .map _ _, h, hd | .struct _, .struct _, h, hd =>
    (yields_decode h hd).map some

/-- A field that is right ahead. -/
theorem yields_ask {f : Written} (htag : f.tag = q.tag) (htype : f.type = q.type)
    (h : σ.Fits f.type f.value) (hd : depth + f.value.structs ≤ maxNesting) :
    Yields (σ.ask q) depth (σ.encode f.type f.value f.tag) rest (some f.value.settled) := by
  rw [htype] at h ⊢
  rw [htag, ask]
  split
  · exact yields_readOptional h hd
  · exact (yields_decode h hd).map some

/-- At a depth, a query is a reader of one field, to which an absent field reads
    as the query is to be told. -/
theorem exists_readsField_ask (σ : Schema) (depth : Nat) (q : Query) :
    ∃ x, ReadsField q.tag q.required (σ.absent q) x ∧
      ∀ rest pos, σ.ask q ⟨rest, pos, depth⟩ = x ⟨rest, pos, depth⟩ := by
  obtain ⟨tag, required, type, optional⟩ := q
  -- How many levels are left is read off the depth, which is given here.
  have hdecode : ∃ x, ReadsField tag required (some (σ.default type)) x ∧
      ∀ rest pos, (some <$> σ.decode type tag required : Read (Option Val)) ⟨rest, pos, depth⟩ =
        x ⟨rest, pos, depth⟩ :=
    ⟨_, (readsField_decodeWith (σ.decodeFieldsWithin (maxNesting - depth)) type).map some,
      fun _ _ => rfl⟩
  cases optional
  case false =>
    have habsent : σ.absent ⟨tag, required, type, false⟩ = some (σ.default type) := by
      cases type <;> rfl
    rwa [habsent]
  case true =>
    cases type
    case list | map | struct => exact hdecode
    case bool =>
      exact ⟨_, readsField_bool.bind_pure (Option.map Val.bool), fun _ _ => rfl⟩
    case int t =>
      exact ⟨_, (readsField_decodeInt t).bind_pure (Option.map Val.int), fun _ _ => rfl⟩
    case float32 =>
      exact ⟨_, (readsField_field _).bind_pure (Option.map Val.float32), fun _ _ => rfl⟩
    case float64 =>
      exact ⟨_, (readsField_field _).bind_pure (Option.map Val.float64), fun _ _ => rfl⟩
    case string =>
      exact ⟨_, (readsField_field _).bind_pure (Option.map Val.string), fun _ _ => rfl⟩
    case bytes =>
      exact ⟨_, (readsField_field _).bind_pure (Option.map Val.bytes), fun _ _ => rfl⟩

/-- A field that cannot come any more. -/
theorem yields_ask_absent (hreq : q.required = false) (hstop : ty = .structEnd ∨ q.tag < t) :
    Yields (σ.ask q) depth [] (Writer.head ty t ++ more) (σ.absent q) := by
  obtain ⟨x, hx, hask⟩ := exists_readsField_ask σ depth q
  rw [hreq] at hx
  intro pos
  rw [hask]
  exact hx.yields_absent hstop pos

/-! ## Queries among the fields of a struct -/

/-- A field that was written fits its type, and at a depth there is room for it. -/
structure FitsAt (σ : Schema) (depth : Nat) (f : Written) : Prop where
  /-- The value fits its type. -/
  fits : σ.Fits f.type f.value
  /-- The containers in the value, on top of those around it, are not too many. -/
  room : depth + f.value.containers ≤ maxNesting

/-- The tag and the tree of a field that was written. -/
def eraseField (σ : Schema) (f : Written) : Tag × Tree := (f.tag, σ.erase f.type f.value)

theorem encodeAll_cons (f : Written) (fs : List Written) :
    σ.encodeAll (f :: fs) = σ.encode f.type f.value f.tag ++ σ.encodeAll fs :=
  List.flatMap_cons

theorem encodeAll_append (fs gs : List Written) :
    σ.encodeAll (fs ++ gs) = σ.encodeAll fs ++ σ.encodeAll gs :=
  List.flatMap_append

theorem encodeAll_eq_writeFields {fs : List Written}
    (h : ∀ f ∈ fs, σ.Writable f.type f.value) :
    σ.encodeAll fs = Tree.writeFields (fs.map σ.eraseField) := by
  induction fs with
  | nil => rfl
  | cons f fs ih =>
    rw [List.forall_mem_cons] at h
    rw [encodeAll_cons, encode_eq_write h.1, ih h.2]
    rfl

theorem FitsAt.skippedBy {f : Written} (h : σ.FitsAt depth f) :
    (σ.eraseField f).2.SkippedBy skipField depth :=
  Tree.skippedBy_skipField (fits_erase h.fits.writable) (nesting_erase h.fits.writable ▸ h.room)

/-- A query goes past every field with a lower tag. -/
theorem yields_ask_encodeAll_append {low : List Written} {bs : Bytes} {a : Option Val}
    (hlow : ∀ f ∈ low, σ.FitsAt depth f) (htag : ∀ f ∈ low, f.tag < q.tag)
    (hstop : ty = .structEnd ∨ q.tag ≤ t) (hahead : bs ++ rest = Writer.head ty t ++ more)
    (h : Yields (σ.ask q) depth bs rest a) :
    Yields (σ.ask q) depth (σ.encodeAll low ++ bs) rest a := by
  obtain ⟨x, hx, hask⟩ := exists_readsField_ask σ depth q
  have hskip : ∀ f ∈ low.map σ.eraseField, f.2.SkippedBy skipField depth :=
    List.forall_mem_map.2 fun f hf => (hlow f hf).skippedBy
  have hwrite := encodeAll_eq_writeFields fun f hf => (hlow f hf).fits.writable
  -- Both sides of the law of skipping stand at heads, which `bs` and `rest` begin with.
  intro pos
  rw [List.append_assoc, hahead, hwrite, hask,
    hx.writeFields_append hskip (List.forall_mem_map.2 htag) hstop, ← hask, ← hahead, h,
    List.length_append, Nat.add_assoc]

/-- Fields with other tags do not matter to a query. -/
theorem answer_append_of_ne {low high : List Written} (h : ∀ f ∈ low, f.tag ≠ q.tag) :
    σ.answer (low ++ high) q = σ.answer high q := by
  have hnone : low.find? (·.tag == q.tag) = none :=
    List.find?_eq_none.2 fun f hf => by simpa using h f hf
  rw [answer, List.find?_append, hnone, Option.none_or, answer]

theorem answer_of_ne {fs : List Written} (h : ∀ f ∈ fs, f.tag ≠ q.tag) :
    σ.answer fs q = σ.absent q := by
  rw [← List.append_nil fs, answer_append_of_ne h]
  rfl

theorem answer_cons_self {f : Written} {fs : List Written} (h : f.tag = q.tag) :
    σ.answer (f :: fs) q = some f.value.settled := by
  rw [answer, List.find?_cons_of_pos (by simpa using h)]

/-- Fields up to the first one whose tag is not below another. -/
theorem exists_below_append (tag : Tag) (fs : List Written) :
    ∃ low high, fs = low ++ high ∧ (∀ f ∈ low, f.tag < tag) ∧ ∀ f ∈ high.head?, tag ≤ f.tag := by
  refine ⟨fs.takeWhile (·.tag < tag), fs.dropWhile (·.tag < tag),
    List.takeWhile_append_dropWhile.symm, fun f hf => ?_, fun f hf => ?_⟩
  · simpa using List.mem_takeWhile_imp hf
  · have hstop := List.head?_dropWhile_not (fun f : Written => f.tag < tag) fs
    rw [Option.mem_def.1 hf] at hstop
    simpa using hstop

/-- One query among fields in the order of their tags: the reader goes past some
    of them, all with tags up to that of the query, and answers as it is to. -/
theorem exists_yields_ask (tail : Bytes) {fs : List Written}
    (hsorted : fs.Pairwise (·.tag < ·.tag))
    (hfits : ∀ f ∈ fs, σ.FitsAt depth f) (htype : ∀ f ∈ fs, f.tag = q.tag → f.type = q.type)
    (hreq : q.required = true → ∃ f ∈ fs, f.tag = q.tag) :
    ∃ done left, fs = done ++ left ∧ (∀ f ∈ done, f.tag ≤ q.tag) ∧
      Yields (σ.ask q) depth (σ.encodeAll done)
        (σ.encodeAll left ++ (Writer.head .structEnd 0 ++ tail)) (σ.answer fs q) := by
  obtain ⟨low, high, rfl, hlow, hhigh⟩ := exists_below_append q.tag fs
  have hfitsLow : ∀ f ∈ low, σ.FitsAt depth f := fun f hf =>
    hfits f (List.mem_append_left high hf)
  have hle : ∀ f ∈ low, f.tag ≤ q.tag := fun f hf => UInt8.le_of_lt (hlow f hf)
  rw [answer_append_of_ne fun f hf => UInt8.ne_of_lt (hlow f hf)]
  -- Where no field has the tag, none may be required.
  have hoptional : (∀ f ∈ high, f.tag ≠ q.tag) → q.required = false := by
    intro hne
    rw [← Bool.not_eq_true]
    intro hq
    obtain ⟨f, hf, heq⟩ := hreq hq
    rcases List.mem_append.1 hf with hf | hf
    · exact UInt8.ne_of_lt (hlow f hf) heq
    · exact hne f hf heq
  cases high with
  | nil =>
    -- Only the end of the struct is ahead.
    refine ⟨low, [], rfl, hle, ?_⟩
    rw [← List.append_nil (σ.encodeAll low)]
    exact yields_ask_encodeAll_append hfitsLow hlow (.inl rfl) rfl
      (yields_ask_absent (hoptional (List.forall_mem_nil _)) (.inl rfl))
  | cons f high =>
    have hf : σ.FitsAt depth f := hfits f (List.mem_append_right low List.mem_cons_self)
    obtain ⟨ty, payload, hhead⟩ : ∃ ty payload, σ.encode f.type f.value f.tag =
        Writer.head ty f.tag ++ payload := ⟨_, _, encode_eq_write hf.fits.writable⟩
    have hge : q.tag ≤ f.tag := hhigh f rfl
    by_cases heq : f.tag = q.tag
    · -- The field that is asked for.
      have hdone : σ.encodeAll (low ++ [f]) = σ.encodeAll low ++ σ.encode f.type f.value f.tag := by
        rw [encodeAll_append, encodeAll_cons]
        exact congrArg _ (List.append_nil _)
      refine ⟨low ++ [f], high, (List.append_assoc low [f] high).symm,
        List.forall_mem_append.2 ⟨hle, List.forall_mem_singleton.2 (UInt8.le_of_eq heq)⟩, ?_⟩
      have hahead : σ.encode f.type f.value f.tag ++
          (σ.encodeAll high ++ (Writer.head .structEnd 0 ++ tail)) = Writer.head ty f.tag ++
            (payload ++ (σ.encodeAll high ++ (Writer.head .structEnd 0 ++ tail))) := by
        rw [hhead, List.append_assoc]
      have hstructs : depth + f.value.structs ≤ maxNesting :=
        Nat.le_trans (Nat.add_le_add_left (Val.structs_le_containers _) _) hf.room
      rw [answer_cons_self heq, hdone]
      exact yields_ask_encodeAll_append hfitsLow hlow (.inr hge) hahead
        (yields_ask heq (htype f (List.mem_append_right low List.mem_cons_self) heq) hf.fits hstructs)
    · -- The fields that are left have higher tags.
      have hlt : q.tag < f.tag := UInt8.lt_of_le_of_ne hge (Ne.symm heq)
      have hhigher := (List.pairwise_cons.1 (List.pairwise_append.1 hsorted).2.1).1
      have hne : ∀ g ∈ f :: high, g.tag ≠ q.tag := List.forall_mem_cons.2
        ⟨heq, fun g hg => (UInt8.ne_of_lt (UInt8.lt_trans hlt (hhigher g hg))).symm⟩
      have hahead : σ.encodeAll (f :: high) ++ (Writer.head .structEnd 0 ++ tail) =
          Writer.head ty f.tag ++
            (payload ++ (σ.encodeAll high ++ (Writer.head .structEnd 0 ++ tail))) := by
        rw [encodeAll_cons, hhead, List.append_assoc, List.append_assoc]
      refine ⟨low, f :: high, rfl, hle, ?_⟩
      rw [answer_of_ne hne, ← List.append_nil (σ.encodeAll low), hahead]
      exact yields_ask_encodeAll_append hfitsLow hlow (.inr hge) rfl
        (yields_ask_absent (hoptional hne) (.inr hlt))

/-! ## Queries one after another -/

/-- The queries of a reader, in the order of their tags. -/
theorem exists_yields_askAll (tail : Bytes) {asked : List Query} {fs : List Written}
    (hasked : asked.Pairwise (·.tag < ·.tag)) (hsorted : fs.Pairwise (·.tag < ·.tag))
    (hfits : ∀ f ∈ fs, σ.FitsAt depth f)
    (htype : ∀ q ∈ asked, ∀ f ∈ fs, f.tag = q.tag → f.type = q.type)
    (hreq : ∀ q ∈ asked, q.required = true → ∃ f ∈ fs, f.tag = q.tag) :
    ∃ done left, fs = done ++ left ∧
      Yields (σ.askAll asked) depth (σ.encodeAll done)
        (σ.encodeAll left ++ (Writer.head .structEnd 0 ++ tail)) (asked.map (σ.answer fs)) := by
  induction asked generalizing fs with
  | nil => exact ⟨[], fs, rfl, yields_pure []⟩
  | cons q asked ih =>
    rw [List.forall_mem_cons] at htype hreq
    rw [List.pairwise_cons] at hasked
    obtain ⟨done, left, rfl, hdone, hq⟩ :=
      exists_yields_ask tail hsorted hfits htype.1 hreq.1
    -- The queries that follow have higher tags than the fields behind.
    have hother : ∀ p ∈ asked, ∀ f ∈ done, f.tag ≠ p.tag := fun p hp f hf =>
      UInt8.ne_of_lt (UInt8.lt_of_le_of_lt (hdone f hf) (hasked.1 p hp))
    have hleft : ∀ p ∈ asked, p.required = true → ∃ f ∈ left, f.tag = p.tag := by
      intro p hp hpreq
      obtain ⟨f, hf, heq⟩ := hreq.2 p hp hpreq
      rcases List.mem_append.1 hf with hf | hf
      · exact absurd heq (hother p hp f hf)
      · exact ⟨f, hf, heq⟩
    obtain ⟨done', left', rfl, hqs⟩ := ih hasked.2 (List.pairwise_append.1 hsorted).2.1
      (fun f hf => hfits f (List.mem_append_right done hf))
      (fun p hp f hf => htype.2 p hp f (List.mem_append_right done hf)) hleft
    have hanswers : asked.map (σ.answer (done' ++ left')) =
        asked.map (σ.answer (done ++ (done' ++ left'))) :=
      List.map_congr_left fun p hp => (answer_append_of_ne (hother p hp)).symm
    refine ⟨done ++ done', left', (List.append_assoc _ _ _).symm, ?_⟩
    rw [hanswers] at hqs
    rw [encodeAll_append] at hq ⊢
    rw [List.append_assoc] at hq
    exact hq.bind (hqs.bind_pure (_ :: ·))

/-- The fields that are left of a struct, and its end. -/
theorem yields_skipToStructEnd_encodeAll {fs : List Written} (h : ∀ f ∈ fs, σ.FitsAt depth f) :
    Yields skipToStructEnd depth (σ.encodeAll fs ++ Writer.head .structEnd 0) rest () := by
  rw [encodeAll_eq_writeFields fun f hf => (h f hf).fits.writable]
  exact yields_skipToStructEnd_writeFields
    (List.forall_mem_map.2 fun f hf => (h f hf).skippedBy)

/-- A reader that asks a struct for some fields in the order of their tags, each
    at the type that it was written at if it was written, and requires none that
    was not, is told the values that were written and which fields are absent. It
    ends at the first byte behind the struct, whatever follows. -/
theorem readStruct_encodeAll {written : List Written} {asked : List Query} (tag : Tag)
    (required : Bool) (tail : Bytes) (pos : Nat) (hdepth : depth < maxNesting)
    (hwritten : written.Pairwise (·.tag < ·.tag)) (hfits : ∀ f ∈ written, σ.FitsAt (depth + 1) f)
    (hasked : asked.Pairwise (·.tag < ·.tag))
    (htype : ∀ q ∈ asked, ∀ f ∈ written, f.tag = q.tag → f.type = q.type)
    (hreq : ∀ q ∈ asked, q.required = true → ∃ f ∈ written, f.tag = q.tag) :
    σ.readStruct tag required asked
        ⟨Writer.struct (σ.encodeAll written) tag ++ tail, pos, depth⟩ =
        .ok (some (asked.map (σ.answer written)))
          ⟨tail, pos + (Writer.struct (σ.encodeAll written) tag).length, depth⟩ ∧
      ∀ f ∈ written, f.value.Alike f.value.settled := by
  refine ⟨?_, fun f hf => Val.alike_settled (hfits f hf).fits⟩
  obtain ⟨done, left, rfl, hasks⟩ :=
    exists_yields_askAll tail hasked hwritten hfits htype hreq
  have hleft : ∀ f ∈ left, σ.FitsAt (depth + 1) f := fun f hf =>
    hfits f (List.mem_append_right done hf)
  -- The fields that no query has reached are skipped together with the end.
  rw [← List.append_assoc] at hasks
  have hbody := (yields_nested hdepth hasks (yields_skipToStructEnd_encodeAll hleft)).map some
  rw [← List.append_assoc, ← encodeAll_append] at hbody
  exact (yields_enterStruct.bind hbody) pos

/-! ## Departures -/

/-- The fields of a departure, the first of which holds all kinds of containers. -/
def departure : List Written :=
  [⟨1, .struct "Station", terminus⟩, ⟨3, .int .int64, .int (-1)⟩, ⟨20, .string, .string "x"⟩,
    ⟨21, .bytes .blob, .bytes [11, 11]⟩]

/-- The questions of a reader that knows other fields of a departure. -/
def inquiry : List Query :=
  [⟨0, false, .int .int32, true⟩, ⟨3, true, .int .int64, false⟩, ⟨5, false, .string, false⟩,
    ⟨20, true, .string, true⟩, ⟨255, false, .list .bool, true⟩]

theorem fitsAt_departure : ∀ f ∈ departure, station.FitsAt 60 f := by
  rw [departure]
  simp only [List.forall_mem_cons]
  refine ⟨⟨fits_terminus, by decide⟩, ⟨?_, by decide⟩, ⟨?_, by decide⟩, ⟨?_, by decide⟩,
    List.forall_mem_nil _⟩
  all_goals rw [Fits]; decide

theorem readStruct_encodeAll_departure :
    station.readStruct 9 false inquiry
        ⟨Writer.struct (station.encodeAll departure) 9 ++ [11, 0], 5, 59⟩ =
      .ok (some [none, some (.int (-1)), some (.string ""), some (.string "x"), some (.list [])])
        ⟨[11, 0], 62, 59⟩ :=
  (readStruct_encodeAll 9 false [11, 0] 5 (by decide) (by decide) fitsAt_departure (by decide)
    (by decide) (by decide)).1.trans (by rfl)

end Schema

end TaggedRpc.Wire
