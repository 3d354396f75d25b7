import TaggedRpc.Proofs.Wire.Evolution
import TaggedRpc.Proofs.Wire.Failing
import TaggedRpc.Proofs.Wire.Loops

/-!
# Fields that are too deep to skip

Reading by a type enters structs only, while skipping enters lists and maps too, and
both may be inside `maxNesting` containers at most. So a reader that knows the type
of a field may accept what one that does not know it cannot pass over: a chain of
structs, each in a list of the one before, takes twice as many levels to skip as to
read.

Nothing else stands in the way (`Schema.skipAny_encode`): what is accepted is passed
over, up to the same position, or its containers are too many, on top of those around
the reader, and it is refused for that reason (`Tree.refuses_skipField`).

Lengths beyond what the counts of the wire hold are left out. They wrap around, and
then even the positions may differ: a text of 2 ^ 32 bytes goes after the length 0, and
its bytes are taken for fields, of which the key of a map and the value behind it may
pass over any number, but skipping passes over two.
-/

namespace TaggedRpc.Wire

namespace Read

variable {α β : Type} {depth : Nat} {bs ahead : Bytes} {a : α}

/-- At a depth, `x` fails because containers nest too deep, wherever the bytes stand. -/
def Refuses (x : Read α) (depth : Nat) (ahead : Bytes) : Prop :=
  ∀ pos, ∃ s, x ⟨ahead, pos, depth⟩ = .error (.tooDeep maxNesting) s

theorem Refuses.bind {x : Read α} (hx : Refuses x depth ahead) (f : α → Read β) :
    Refuses (x >>= f) depth ahead :=
  Fails.bind hx f

theorem Yields.bind_refuses {x : Read α} {f : α → Read β} (hx : Yields x depth bs ahead a)
    (hf : Refuses (f a) depth ahead) : Refuses (x >>= f) depth (bs ++ ahead) :=
  hx.bind_fails hf

/-- One container more is refused where there are enough, and where what is inside is. -/
theorem refuses_deeper {x : Read α} (h : depth < maxNesting → Refuses x (depth + 1) ahead) :
    Refuses (deeper x) depth ahead := by
  intro pos
  by_cases hd : depth < maxNesting
  · obtain ⟨s, hs⟩ := h hd pos
    exact ⟨{ s with depth := s.depth - 1 }, by simp only [deeper, if_pos hd, hs]⟩
  · exact ⟨⟨ahead, pos, depth⟩, by simp only [deeper, if_neg hd]⟩

end Read

/-! ## Payloads -/

namespace Tree

open Read

/-- A whole field is skipped, if its payload is. -/
theorem SkippedBy.yields_skipAny {v : Tree} {depth : Nat} (h : v.SkippedBy skipField depth)
    (tag : Tag) (rest : Bytes) : Yields skipAny depth (v.write tag) rest () :=
  (yields_head v.wireType tag).bind (h rest)

/-- A whole field is refused, if its payload is. -/
theorem refuses_skipAny {v : Tree} {depth : Nat} {ahead : Bytes}
    (h : Refuses (skipField v.wireType) depth (v.payload ++ ahead)) (tag : Tag) :
    Refuses skipAny depth (v.write tag ++ ahead) := by
  rw [write, List.append_assoc]
  exact (yields_head v.wireType tag).bind_refuses h

mutual

/-- A payload is refused, where its containers are too many. -/
theorem refuses_skipField : ∀ {v : Tree} {depth : Nat}, v.Fits → depth ≤ maxNesting →
    maxNesting < depth + v.nesting → ∀ rest,
    Refuses (skipField v.wireType) depth (v.payload ++ rest)
  | int _, _, _, hd, hn, _ | float32 _, _, _, hd, hn, _ | float64 _, _, _, hd, hn, _
  | string _, _, _, hd, hn, _ | rawString _, _, _, hd, hn, _ | bytes _, _, _, hd, hn, _ =>
    absurd hn (Nat.not_lt.2 hd)
  | list vs, depth, h, hd, hn, rest => by
    rw [Fits] at h
    rw [nesting] at hn
    rw [wireType, payload, skipField_list, List.append_assoc]
    exact (yields_length_append h.1 (length_le_writeElements vs)).bind_refuses
      (refuses_deeper fun hd => refuses_times_writeElements h.2 hd (by omega) rest)
  | map ps, depth, h, hd, hn, rest => by
    rw [Fits] at h
    rw [nesting] at hn
    have hroom := length_le_writePairs ps
    rw [wireType, payload, skipField_map, List.append_assoc]
    exact (yields_length_append h.1 (by omega)).bind_refuses
      (refuses_deeper fun hd => refuses_times_writePairs h.2 hd (by omega) rest)
  | struct fs, depth, h, hd, hn, rest => by
    rw [Fits] at h
    rw [nesting] at hn
    rw [wireType, payload, skipField_structBegin, List.append_assoc]
    exact refuses_deeper fun hd => refuses_skipToStructEnd h hd (by omega) _

/-- Elements are refused, where the containers of one of them are too many. Those before
    it are skipped. -/
theorem refuses_times_writeElements : ∀ {vs : List Tree} {depth : Nat}, FitsAll vs →
    depth ≤ maxNesting → maxNesting < depth + nestingAll vs → ∀ rest,
    Refuses (times skipAny vs.length) depth (writeElements vs ++ rest)
  | [], _, _, hd, hn, _ => absurd hn (Nat.not_lt.2 hd)
  | v :: vs, depth, h, hd, hn, rest => by
    rw [FitsAll] at h
    rw [nestingAll] at hn
    rw [writeElements, ← write, List.append_assoc, List.length_cons]
    by_cases hv : depth + v.nesting ≤ maxNesting
    · exact ((skippedBy_skipField h.1 hv).yields_skipAny 0 _).bind_refuses
        (refuses_times_writeElements h.2 hd (by omega) rest)
    · exact (refuses_skipAny (refuses_skipField h.1 hd (by omega) _) 0).bind _

theorem refuses_times_writePairs : ∀ {ps : List (Tree × Tree)} {depth : Nat}, FitsPairs ps →
    depth ≤ maxNesting → maxNesting < depth + nestingPairs ps → ∀ rest,
    Refuses (times skipAny (2 * ps.length)) depth (writePairs ps ++ rest)
  | [], _, _, hd, hn, _ => absurd hn (Nat.not_lt.2 hd)
  | (k, v) :: ps, depth, h, hd, hn, rest => by
    rw [FitsPairs] at h
    rw [nestingPairs] at hn
    rw [writePairs, ← write, ← write, List.append_assoc, List.append_assoc, List.length_cons,
      Nat.mul_succ]
    by_cases hk : depth + k.nesting ≤ maxNesting
    · refine ((skippedBy_skipField h.1 hk).yields_skipAny 0 _).bind_refuses ?_
      by_cases hv : depth + v.nesting ≤ maxNesting
      · exact ((skippedBy_skipField h.2.1 hv).yields_skipAny 1 _).bind_refuses
          (refuses_times_writePairs h.2.2 hd (by omega) rest)
      · exact (refuses_skipAny (refuses_skipField h.2.1 hd (by omega) _) 1).bind _
    · exact (refuses_skipAny (refuses_skipField h.1 hd (by omega) _) 0).bind _

theorem refuses_skipToStructEnd : ∀ {fs : List (Tag × Tree)} {depth : Nat}, FitsFields fs →
    depth ≤ maxNesting → maxNesting < depth + nestingFields fs → ∀ rest,
    Refuses skipToStructEnd depth (writeFields fs ++ rest)
  | [], _, _, hd, hn, _ => absurd hn (Nat.not_lt.2 hd)
  | (tag, v) :: fs, depth, h, hd, hn, rest => by
    rw [FitsFields] at h
    rw [nestingFields] at hn
    rw [loop_skipToStructEnd.turns, turnThen, structTurn, bind_assoc, writeFields,
      List.append_assoc, List.append_assoc]
    refine (yields_head v.wireType tag).bind_refuses ?_
    rw [if_neg (wireType_ne_structEnd v), bind_assoc]
    by_cases hv : depth + v.nesting ≤ maxNesting
    · exact (skippedBy_skipField h.1 hv _).bind_refuses
        (refuses_skipToStructEnd h.2 hd (by omega) rest)
    · exact (refuses_skipField h.1 hd (by omega) _).bind _

end

end Tree

/-! ## Typed fields -/

namespace Schema

open Read

variable {σ : Schema} {v : Val} {t : Ty} {depth : Nat}

/-- A field is skipped, where there is room for its containers. -/
theorem yields_skipAny_encode (h : σ.Fits t v) (hd : depth + v.containers ≤ maxNesting)
    (tag : Tag) (rest : Bytes) : Yields skipAny depth (σ.encode t v tag) rest () := by
  rw [encode_eq_write h.writable]
  exact (Tree.skippedBy_skipField (fits_erase h.writable)
    (nesting_erase h.writable ▸ hd)).yields_skipAny tag rest

/-- A field is refused, where there is none. -/
theorem refuses_skipAny_encode (h : σ.Fits t v) (hd : depth ≤ maxNesting)
    (hn : maxNesting < depth + v.containers) (tag : Tag) (rest : Bytes) :
    Refuses skipAny depth (σ.encode t v tag ++ rest) := by
  rw [encode_eq_write h.writable]
  exact Tree.refuses_skipAny
    (Tree.refuses_skipField (fits_erase h.writable) hd (nesting_erase h.writable ▸ hn) rest) tag

/-- Where a reader of the type accepts a value, skipping passes over the same bytes,
    unless there is no room for the containers of the value: then it is refused as too
    deep. -/
theorem skipAny_encode {tag : Tag} {required : Bool} {rest : Bytes} {pos : Nat} {a : Val}
    {s : Reader} (h : σ.Fits t v) (hd : depth ≤ maxNesting)
    (hdecode : σ.decode t tag required ⟨σ.encode t v tag ++ rest, pos, depth⟩ = .ok a s) :
    (depth + v.containers ≤ maxNesting →
        skipAny ⟨σ.encode t v tag ++ rest, pos, depth⟩ = .ok () s) ∧
      (maxNesting < depth + v.containers →
        ∃ s', skipAny ⟨σ.encode t v tag ++ rest, pos, depth⟩ =
          .error (.tooDeep maxNesting) s') := by
  refine ⟨fun hn => ?_, fun hn => refuses_skipAny_encode h hd hn tag rest pos⟩
  have hstructs : depth + v.structs ≤ maxNesting :=
    Nat.le_trans (Nat.add_le_add_left (Val.structs_le_containers v) depth) hn
  rw [yields_decode h hstructs pos] at hdecode
  cases hdecode
  exact yields_skipAny_encode h hn tag rest pos

theorem skipAny_encode_terminus :
    skipAny ⟨station.encode (.struct "Station") terminus 200 ++ [12], 0, 60⟩ =
        .ok () ⟨[12], 43, 60⟩ ∧
      ∃ s, skipAny ⟨station.encode (.struct "Station") terminus 200 ++ [12], 0, 62⟩ =
        .error (.tooDeep 64) s :=
  have hread {depth : Nat} (hd : depth + terminus.structs ≤ maxNesting) :
      Yields (station.decode (.struct "Station") 200 true) depth
        (station.encode (.struct "Station") terminus 200) [12] terminus.settled :=
    yields_decode fits_terminus hd
  ⟨(skipAny_encode fits_terminus (by decide) (hread (by decide) 0)).1 (by decide),
    (skipAny_encode fits_terminus (by decide) (hread (by decide) 0)).2 (by decide)⟩

/-! ## Folders -/

/-- A schema with a struct that holds itself in a list and nothing else of note. -/
def folders : Schema :=
  [("Folder", [⟨"id", 0, false, .int .int64⟩, ⟨"kids", 1, false, .list (.struct "Folder")⟩])]

/-- A folder with so many others inside one another. -/
def folder : Nat → Val
  | 0 => .struct [.int 0, .list []]
  | n + 1 => .struct [.int 0, .list [folder n]]

theorem layout_folders :
    folders.layout "Folder" =
      [⟨"id", 0, false, .int .int64⟩, ⟨"kids", 1, false, .list (.struct "Folder")⟩] := rfl

theorem fits_folder (n : Nat) : folders.Fits (.struct "Folder") (folder n) := by
  have hid : IntType.int64.Holds 0 := by decide
  induction n with
  | zero => simp [folder, layout_folders, Fits, FitsFields, FitsAll, hid]
  | succ n ih => simp [folder, layout_folders, Fits, FitsFields, FitsAll, hid, ih]

theorem structs_folder (n : Nat) : (folder n).structs = n + 1 := by
  induction n with
  | zero => rfl
  | succ n ih => simpa [folder, Val.structs, Val.nesting, Val.nestingAll] using ih

theorem containers_folder (n : Nat) : (folder n).containers = 2 * n + 2 := by
  induction n with
  | zero => rfl
  | succ n ih =>
    rw [Val.containers] at ih
    simp [folder, Val.containers, Val.nesting, Val.nestingAll, ih]
    omega

/-! ## Lengths that wrap around -/

/-- A text that begins with the bytes of two zero fields, at the tags 0 and 1. -/
def zeros (n : Nat) : String := String.ofList ('\x0c' :: '\x1c' :: List.replicate n 'a')

theorem ofText_zeros (n : Nat) :
    Bytes.ofText (zeros n) =
      Writer.head .zero 0 ++ (Writer.head .zero 1 ++ List.replicate n 97) := by
  have hflat : (List.replicate n 'a').flatMap String.utf8EncodeChar = List.replicate n 97 := by
    induction n with
    | zero => rfl
    | succ n ih => rw [List.replicate_succ, List.flatMap_cons, ih]; rfl
  show (List.toByteArray (List.flatMap String.utf8EncodeChar _)).data.toList = _
  rw [List.data_toByteArray, List.flatMap_cons, List.flatMap_cons, hflat]
  rfl

/-- A map with a text for its only key. -/
def mark (s : String) : Val := .map [(.string s, .bool true)]

/-- A text of 2 ^ 32 bytes goes after the length 0. -/
theorem encode_mark {s : String} {bs : Bytes} (hs : Bytes.ofText s = bs)
    (hlen : bs.length = 2 ^ 32) :
    σ.encode (.map .string .bool) (mark s) 0 =
      Writer.mapHeader 1 0 ++ (Writer.head .string4 0 ++ Bytes.ofNat 4 0 ++
        (bs ++ Writer.bool true 1)) := by
  rw [mark, encode, encodePairs, encodePairs, encode, encode, Writer.string, hs, hlen,
    List.append_nil, List.append_assoc, List.append_assoc, List.append_assoc]
  rfl

variable {tag : Tag} {required : Bool} {rest : Bytes}

/-- The empty text in the longer layout. -/
theorem yields_string_empty :
    Yields (Read.string tag required) depth (Writer.head .string4 tag ++ Bytes.ofNat 4 0) rest
      (some "") :=
  yields_string_of_payload nofun
    (List.append_nil (Bytes.ofNat 4 0) ▸ yields_rawNat_bind (by decide) (yields_take rfl))

/-- A reader of the type takes the second zero for the value, past the first one. -/
theorem yields_decode_zeros (hrest : 1 ≤ rest.length) :
    Yields (σ.decode (.map .string .bool) 0 true) depth
      (Writer.mapHeader 1 0 ++ (Writer.head .string4 0 ++ Bytes.ofNat 4 0 ++
        (Writer.head .zero 0 ++ Writer.head .zero 1))) rest
      (.map [(.string "", .bool false)]) := by
  have hskip : ∀ f ∈ [((0 : Tag), Tree.int 0)], f.2.SkippedBy skipField depth :=
    List.forall_mem_singleton.2 fun rest => by
      rw [skipField_eq]
      exact Tree.skippedBy_int 0 rest
  have hvalue : Yields (Read.bool 1 true) depth (Writer.head .zero 0 ++ Writer.head .zero 1) rest
      (some false) := by
    intro pos
    rw [List.append_assoc]
    exact (readsField_bool.writeFields_append hskip (by decide) (.inr (UInt8.le_refl 1))).trans
      (yields_bool false _)
  have hpair : Yields (do
      let key ← σ.decodeWith (σ.decodeFieldsWithin (maxNesting - depth)) .string 0 true
      let value ← σ.decodeWith (σ.decodeFieldsWithin (maxNesting - depth)) .bool 1 true
      pure (key, value)) depth (Writer.head .string4 0 ++ Bytes.ofNat 4 0 ++
        (Writer.head .zero 0 ++ Writer.head .zero 1)) rest (.string "", .bool false) :=
    (yields_string_empty.bind_pure fun s => Val.string (s.getD "")).bind
      ((hvalue.bind_pure fun b => Val.bool (b.getD false)).bind_pure (Val.string "", ·))
  have hheader : Yields (mapLength 0 true) depth (Writer.mapHeader 1 0)
      ((Writer.head .string4 0 ++ Bytes.ofNat 4 0 ++
        (Writer.head .zero 0 ++ Writer.head .zero 1)) ++ rest) (some 1) :=
    .field (by decide) (yields_length (by decide) (by rw [List.length_append]; omega))
  have hpairs : Yields (replicate _ 1) depth _ rest [(Val.string "", Val.bool false)] :=
    hpair.replicate_succ (yields_pure [])
  rw [List.append_nil] at hpairs
  exact fun pos => (hheader.bind (hpairs.bind_pure fun ps => Val.map (Val.ofPairs ps))) pos

/-- Skipping takes the first zero for the value. -/
theorem yields_skipAny_zero (hd : depth < maxNesting) (hrest : 1 ≤ rest.length) :
    Yields skipAny depth
      (Writer.mapHeader 1 0 ++ (Writer.head .string4 0 ++ Bytes.ofNat 4 0 ++ Writer.head .zero 0))
      rest () := by
  have hkey {rest : Bytes} :
      Yields skipAny (depth + 1) (Writer.head .string4 0 ++ Bytes.ofNat 4 0) rest () := by
    refine (yields_head .string4 0).bind ?_
    rw [skipField_eq]
    exact List.append_nil (Bytes.ofNat 4 0) ▸ yields_rawNat_bind (by decide) (yields_skip rfl)
  have hzero : Yields skipAny (depth + 1) (Writer.head .zero 0) rest () := by
    rw [← List.append_nil (Writer.head .zero 0)]
    refine (yields_head .zero 0).bind ?_
    rw [skipField_eq]
    exact yields_pure ()
  have htimes : Yields (times skipAny 2) (depth + 1) _ rest () :=
    hkey.times_succ (hzero.times_succ (yields_pure ()))
  rw [List.append_nil] at htimes
  rw [Writer.mapHeader, List.append_assoc]
  refine (yields_head .map 0).bind ?_
  rw [skipField_map]
  exact (yields_length (by decide) (by rw [List.length_append]; omega)).bind
    (yields_deeper hd htimes)

/-- Two values that a reader of the type accepts: 33 folders inside one another, which
    are refused as too deep, and a text whose length wraps around, where skipping stops
    at another position. -/
theorem accepted_not_skipped :
    (folders.decode (.struct "Folder") 0 true
          (Reader.ofBytes (folders.encode (.struct "Folder") (folder 32) 0)) =
        .ok (folder 32).settled ⟨[], (folders.encode (.struct "Folder") (folder 32) 0).length, 0⟩ ∧
      ∃ s, skipAny (Reader.ofBytes (folders.encode (.struct "Folder") (folder 32) 0)) =
        .error (.tooDeep 64) s) ∧
    folders.decode (.map .string .bool) 0 true
          (Reader.ofBytes (folders.encode (.map .string .bool) (mark (zeros (2 ^ 32 - 2))) 0)) =
        .ok (.map [(.string "", .bool false)])
          ⟨List.replicate (2 ^ 32 - 2) 97 ++ Writer.bool true 1, 10, 0⟩ ∧
      skipAny (Reader.ofBytes (folders.encode (.map .string .bool) (mark (zeros (2 ^ 32 - 2))) 0)) =
        .ok () ⟨Writer.head .zero 1 ++ (List.replicate (2 ^ 32 - 2) 97 ++ Writer.bool true 1),
          9, 0⟩ := by
  refine ⟨⟨?_, ?_⟩, ?_⟩
  · have hread : Yields (folders.decode (.struct "Folder") 0 true) 0 _ [] (folder 32).settled :=
      yields_decode (fits_folder 32) (by rw [structs_folder]; decide)
    have hstart := hread 0
    rwa [List.append_nil, Nat.zero_add] at hstart
  · have hskip : Refuses skipAny 0 (folders.encode (.struct "Folder") (folder 32) 0 ++ []) :=
      refuses_skipAny_encode (fits_folder 32) (by decide) (by rw [containers_folder]; decide) 0 []
    rw [List.append_nil] at hskip
    exact hskip 0
  · have hlen : (Bytes.ofText (zeros (2 ^ 32 - 2))).length = 2 ^ 32 := by
      rw [ofText_zeros, List.length_append, List.length_append, List.length_replicate]
      rfl
    -- What is ahead of both readers after they have gone past the first zero.
    let ahead : Bytes := List.replicate (2 ^ 32 - 2) 97 ++ Writer.bool true 1
    have hahead : 1 ≤ ahead.length := by
      rw [List.length_append, List.length_replicate]
      omega
    have hread : Yields (folders.decode (.map .string .bool) 0 true) 0 _ ahead _ :=
      yields_decode_zeros hahead
    have hskip : Yields skipAny 0 _ (Writer.head .zero 1 ++ ahead) () :=
      yields_skipAny_zero (by decide) (by rw [List.length_append]; omega)
    have hreadStart := hread 0
    have hskipStart := hskip 0
    rw [encode_mark rfl hlen, ofText_zeros]
    simp only [ahead, List.append_assoc] at hreadStart hskipStart ⊢
    exact ⟨hreadStart, hskipStart⟩

end Schema

end TaggedRpc.Wire
