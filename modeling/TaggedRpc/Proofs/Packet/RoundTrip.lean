import TaggedRpc.Packet.Basic
import TaggedRpc.Proofs.Connection.Reassembly
import TaggedRpc.Proofs.Wire.Evolution
import TaggedRpc.Proofs.Wire.Loops

/-!
# Packets read back

A packet reads back from its frame as it was written, if the lengths in it have room on
the wire and the frame declares its own length without wrapping around
(`Request.Fits`, `Response.Fits`): fewer than 2 ^ 31 bytes or entries, and fewer than
2 ^ 32 bytes in the frame. The texts are inside the frame, so they fit as well.

A response may leave out its description, its context or both. The reader takes an
optional field for absent where nothing is ahead or a higher tag
(`Read.Beyond`), and never looks behind the last field that it asks for, so fields with
higher tags change nothing.

* `Frame.parse_pack_append`: a frame at the front of a buffer;
* `Context.yields_decode`: a map of texts;
* `Request.unpack_pack_append`, `Response.unpack_pack_append`: packets in a frame that may
  hold more than them;
* `Packet.unpack_pack`: all of it together.
-/

namespace TaggedRpc

/-! ## Frames -/

namespace Frame

variable {body more : Bytes}

theorem length_pack (body : Bytes) : (pack body).length = headerSize + body.length := by
  rw [pack, List.length_append, Bytes.length_ofNat]

/-- The body of a frame, whatever its header declares. -/
theorem body_pack (body : Bytes) : Frame.body (pack body) = body :=
  List.drop_left' (Bytes.length_ofNat headerSize _)

theorem declaredLength_pack (h : (pack body).length < 2 ^ 32) :
    declaredLength (pack body ++ more) = (pack body).length := by
  rw [declaredLength_append (by rw [length_pack]; omega), declaredLength, pack,
    List.take_left' (Bytes.length_ofNat headerSize _), ← pack, ← length_pack]
  exact Bytes.toNat_ofNat_of_lt h

/-- A frame that is not too long stands complete at the front, whatever follows. -/
theorem parse_pack_append {maxLength : Nat} (h : (pack body).length < 2 ^ 32)
    (hmax : (pack body).length ≤ maxLength) (more : Bytes) :
    parse (pack body ++ more) maxLength = .complete (pack body).length := by
  have hheader : headerSize ≤ (pack body).length := by rw [length_pack]; omega
  have hlength : (pack body).length ≤ (pack body ++ more).length := by
    rw [List.length_append]
    omega
  exact parse_eq_complete.2
    ⟨Nat.le_trans hheader hlength, declaredLength_pack h, hheader, hmax, hlength⟩

end Frame

/-! ## Fields -/

namespace Wire.Writer

theorem length_string_pos (s : String) (t : Tag) : 0 < (string s t).length := by
  have := Read.head_length_pos .string1 t
  have := Read.head_length_pos .string4 t
  simp only [string]
  split <;> simp only [List.length_append] <;> omega

/-- A text is no longer than its field. -/
theorem length_ofText_le_string (s : String) (t : Tag) :
    (Bytes.ofText s).length ≤ (string s t).length := by
  simp only [string]
  split <;> simp only [List.length_append] <;> omega

end Wire.Writer

namespace Wire.Read

variable {α : Type} {tag t : Tag} {required : Bool} {depth : Nat} {bs rest : Bytes}

theorem yields_int8 (v : Int8) :
    Yields (int8 tag required) depth (Writer.int8 v tag) rest (some v) := by
  have hv : IntType.int8.Holds v.toInt := ⟨v.le_toInt, Int.le_of_lt_add_one v.toInt_lt⟩
  rw [Writer.int8_eq_integer]
  exact (yields_intField hv Int8.ofInt).congr (congrArg some v.ofInt_toInt)

theorem yields_int16 (v : Int16) :
    Yields (int16 tag required) depth (Writer.int16 v tag) rest (some v) := by
  have hv : IntType.int16.Holds v.toInt := ⟨v.le_toInt, Int.le_of_lt_add_one v.toInt_lt⟩
  rw [Writer.int16_eq_integer]
  exact (yields_intField hv Int16.ofInt).congr (congrArg some v.ofInt_toInt)

theorem yields_int32 (v : Int32) :
    Yields (int32 tag required) depth (Writer.int32 v tag) rest (some v) := by
  have hv : IntType.int32.Holds v.toInt := ⟨v.le_toInt, Int.le_of_lt_add_one v.toInt_lt⟩
  rw [Writer.int32_eq_integer]
  exact (yields_intField hv Int32.ofInt).congr (congrArg some v.ofInt_toInt)

/-- Nothing is ahead, or a field with a tag above another. -/
def Beyond (tag : Tag) (bs : Bytes) : Prop :=
  bs = [] ∨ ∃ h : Head, tag < h.tag ∧
    ∀ pos depth, peekHead ⟨bs, pos, depth⟩ = .ok h ⟨bs, pos, depth⟩

theorem beyond_head (ty : WireType) (h : tag < t) (bs : Bytes) :
    Beyond tag (Writer.head ty t ++ bs) :=
  .inr ⟨_, h, fun pos _ => peekHead_head ty t pos⟩

theorem Beyond.mono (h : Beyond t bs) (hle : tag ≤ t) : Beyond tag bs :=
  h.imp_right fun ⟨head, hlt, hpeek⟩ => ⟨head, UInt8.lt_of_le_of_lt hle hlt, hpeek⟩

/-- Fields with tags above another. -/
theorem beyond_writeFields {fs : List (Tag × Tree)} (h : ∀ f ∈ fs, tag < f.1) :
    Beyond tag (Tree.writeFields fs) := by
  cases fs with
  | nil => exact .inl rfl
  | cons f fs =>
    rw [Tree.writeFields, List.append_assoc]
    exact beyond_head _ (h f List.mem_cons_self) _

/-- A field that cannot come any more. -/
theorem ReadsField.yields_beyond {b : α} {x : Read α} (h : ReadsField tag false b x)
    (hrest : Beyond tag rest) : Yields x depth [] rest b := by
  obtain ⟨β, payload, f, rfl, hf⟩ := h
  intro pos
  have hseek : seek tag false ⟨rest, pos, depth⟩ = .ok none ⟨rest, pos, depth⟩ := by
    rw [(loop_seek tag false).turns, turnThen]
    rcases hrest with rfl | ⟨head, htag, hpeek⟩
    · rfl
    · have hturn : seekTurn tag false ⟨rest, pos, depth⟩ = .ok (some none) ⟨rest, pos, depth⟩ := by
        rw [seekTurn, get_bind]
        split
        · rfl
        · rw [bind_of_ok (hpeek pos depth), if_pos (.inr htag)]
          rfl
      rw [bind_of_ok hturn]
      rfl
  have hfield : field tag false payload ⟨rest, pos, depth⟩ = .ok none ⟨rest, pos, depth⟩ := by
    rw [field, bind_of_ok hseek]
    rfl
  rw [List.nil_append, bind_of_ok hfield, hf]
  rfl

/-- An optional field that may be left out where nothing but higher tags comes. -/
theorem ReadsField.yields_optional {a b : α} {x : Read α} {present : Bool}
    (h : ReadsField tag false b x) (hthere : present = true → Yields x depth bs rest a)
    (habsent : present = false → Beyond tag rest) :
    Yields x depth (if present then bs else []) rest (if present then a else b) := by
  cases present with
  | true => exact hthere rfl
  | false => exact h.yields_beyond (habsent rfl)

theorem Yields.runOn {x : Read α} {a : α} (h : Yields x 0 bs rest a) :
    x.runOn (bs ++ rest) = .ok a := by
  rw [Read.runOn, Reader.ofBytes, h 0]

end Wire.Read

/-! ## Contexts -/

namespace Context

open Wire Wire.Read

variable {tag : Tag} {required : Bool} {depth : Nat} {rest : Bytes}

/-- A key above all others comes in behind them. -/
theorem insertPair_of_lt {k v : String} : ∀ {ps : List (String × String)}, (∀ p ∈ ps, p.1 < k) →
    insertPair k v ps = ps ++ [(k, v)]
  | [], _ => rfl
  | (l, w) :: ps, h => by
    rw [List.forall_mem_cons] at h
    have hne : k ≠ l := fun heq => String.lt_irrefl l (heq ▸ h.1)
    rw [insertPair, if_neg (String.lt_asymm h.1), if_neg hne, insertPair_of_lt h.2]
    rfl

/-- Entries in the order of their keys come in behind those that are there. -/
theorem pairs_foldl_insert {ps : List (String × String)} {c : Context}
    (h : (c.pairs ++ ps).Pairwise fun a b => a.1 < b.1) :
    (ps.foldl (fun c (k, v) => c.insert k v) c).pairs = c.pairs ++ ps := by
  induction ps generalizing c with
  | nil => exact (List.append_nil _).symm
  | cons p ps ih =>
    obtain ⟨k, v⟩ := p
    have hlast : (c.insert k v).pairs = c.pairs ++ [(k, v)] :=
      insertPair_of_lt fun q hq =>
        (List.pairwise_append.1 h).2.2 q hq (k, v) List.mem_cons_self
    rw [List.foldl_cons, ih (by rwa [hlast, List.append_assoc]), hlast, List.append_assoc]
    rfl

/-- A map is that of its entries. -/
theorem ofList_pairs (c : Context) : ofList c.pairs = c := by
  have hpairs : (ofList c.pairs).pairs = c.pairs := pairs_foldl_insert c.sorted
  generalize ofList c.pairs = d at hpairs ⊢
  obtain ⟨ps, hs⟩ := d
  obtain ⟨qs, hq⟩ := c
  cases hpairs
  rfl

/-- The bytes of some entries. -/
def encodePairs (ps : List (String × String)) : Bytes :=
  ps.flatMap fun (k, v) => Writer.string k 0 ++ Writer.string v 1

/-- Reads one entry. -/
def decodePair : Read (String × String) := do
  let k ← Read.string 0 true
  let v ← Read.string 1 true
  pure (k.getD "", v.getD "")

theorem length_le_encodePairs (ps : List (String × String)) :
    ps.length ≤ (encodePairs ps).length := by
  induction ps with
  | nil => exact Nat.zero_le _
  | cons p ps ih =>
    have := Writer.length_string_pos p.1 0
    rw [encodePairs, List.flatMap_cons, ← encodePairs, List.length_append, List.length_append,
      List.length_cons]
    omega

theorem yields_decodePairs {ps : List (String × String)} (h : (encodePairs ps).length < 2 ^ 32) :
    Yields (replicate decodePair ps.length) depth (encodePairs ps) rest ps := by
  induction ps with
  | nil => exact yields_pure []
  | cons p ps ih =>
    have hk := Writer.length_ofText_le_string p.1 0
    have hv := Writer.length_ofText_le_string p.2 1
    rw [encodePairs, List.flatMap_cons, ← encodePairs] at h ⊢
    rw [List.length_append, List.length_append] at h
    have hpair : Yields decodePair depth (Writer.string p.1 0 ++ Writer.string p.2 1)
        (encodePairs ps ++ rest) p :=
      (yields_string (by omega)).bind ((yields_string (by omega)).bind_pure fun v => (p.1, v.getD ""))
    exact hpair.replicate_succ (ih (by omega))

/-- A map reads back, if its bytes are no more than a frame holds. -/
theorem yields_decode {c : Context} (hn : c.pairs.length < 2 ^ 31)
    (h : (c.encode tag).length < 2 ^ 32) :
    Yields (decode tag required) depth (c.encode tag) rest c := by
  have hlength : (encodePairs c.pairs).length ≤ (c.encode tag).length := by
    rw [encode, List.length_append]
    exact Nat.le_add_left _ _
  have hheader : Yields (mapLength tag required) depth (Writer.mapHeader c.pairs.length tag)
      (encodePairs c.pairs ++ rest) (some c.pairs.length) :=
    .field (by decide) (yields_length_append hn (length_le_encodePairs c.pairs))
  exact hheader.bind
    (((yields_decodePairs (by omega)).map ofList).congr (ofList_pairs c))

theorem readsField_decode : ReadsField tag required empty (decode tag required) :=
  (readsField_field _).bind rfl

end Context

/-! ## Requests -/

namespace Request

open Wire Wire.Read

variable {r : Request} {depth : Nat} {rest : Bytes}

/-- The lengths in a request have room on the wire. -/
structure Fits (r : Request) : Prop where
  buffer : r.buffer.length < 2 ^ 31
  context : r.context.pairs.length < 2 ^ 31
  status : r.status.pairs.length < 2 ^ 31
  frame : r.pack.length < 2 ^ 32

theorem yields_decode (h : r.Fits) : Yields decode depth r.encode rest r := by
  have hframe := h.frame
  have hservant := Writer.length_ofText_le_string r.servant 5
  have hfunc := Writer.length_ofText_le_string r.func 6
  rw [pack, Frame.length_pack] at hframe
  rw [encode] at hframe ⊢
  simp only [List.length_append] at hframe
  simp only [List.append_assoc]
  exact (yields_int16 r.version).bind <| (yields_int8 r.packetType).bind <|
    (yields_int32 r.messageType).bind <| (yields_int32 r.requestId).bind <|
    (yields_string (by omega)).bind <| (yields_string (by omega)).bind <|
    (yields_bytes h.buffer).bind <| (yields_int32 r.timeout).bind <|
    (Context.yields_decode h.context (by omega)).bind <|
    (Context.yields_decode h.status (by omega)).bind_pure _

/-- A request reads back from its frame, also with more behind its fields. -/
theorem unpack_pack_append (h : r.Fits) (more : Bytes) :
    unpack (Frame.pack (r.encode ++ more)) = .ok r := by
  rw [unpack, Frame.body_pack]
  exact (yields_decode h).runOn

end Request

/-! ## Responses -/

namespace Response

open Wire Wire.Read

variable {r : Response} {described contextual : Bool} {depth : Nat} {rest : Bytes}

/-- The bare fields of a response, with its description and its context or without. -/
def encodeSome (r : Response) (described contextual : Bool) : Bytes :=
  Writer.int16 r.version 1 ++ Writer.int8 r.packetType 2 ++ Writer.int32 r.requestId 3 ++
    Writer.int32 r.messageType 4 ++ Writer.int32 r.ret 5 ++ Writer.bytes r.buffer 6 ++
    r.status.encode 7 ++ (if described then Writer.string r.description 8 else []) ++
    (if contextual then r.context.encode 9 else [])

/-- A response with its description and its context or with empty ones. -/
def keep (r : Response) (described contextual : Bool) : Response :=
  { r with
    description := if described then r.description else ""
    context := if contextual then r.context else .empty }

/-- The lengths in the fields that are written have room on the wire. -/
structure Fits (r : Response) (described contextual : Bool) : Prop where
  buffer : r.buffer.length < 2 ^ 31
  status : r.status.pairs.length < 2 ^ 31
  context : contextual = true → r.context.pairs.length < 2 ^ 31
  frame : (Frame.pack (r.encodeSome described contextual)).length < 2 ^ 32

theorem encodeSome_true (r : Response) : r.encodeSome true true = r.encode := rfl

theorem keep_true (r : Response) : r.keep true true = r := rfl

theorem yields_decode (h : r.Fits described contextual)
    (hrest : contextual = false → Beyond 9 rest) :
    Yields decode depth (r.encodeSome described contextual) rest (r.keep described contextual) := by
  have hframe := h.frame
  have hlength := Writer.length_ofText_le_string r.description 8
  rw [Frame.length_pack] at hframe
  rw [encodeSome] at hframe ⊢
  simp only [List.length_append] at hframe
  simp only [List.append_assoc]
  have hcontext : Yields (Context.decode 9 false) depth
      (if contextual then r.context.encode 9 else []) rest
      (if contextual then r.context else .empty) := by
    refine Context.readsField_decode.yields_optional (fun hthere => ?_) hrest
    rw [if_pos hthere] at hframe
    exact Context.yields_decode (h.context hthere) (by omega)
  -- Behind the place of the description stands the context, or what is behind that.
  have hbehind : Beyond 8 ((if contextual then r.context.encode 9 else []) ++ rest) := by
    cases contextual with
    | true =>
      rw [if_pos rfl, Context.encode, Writer.mapHeader, List.append_assoc, List.append_assoc]
      exact beyond_head .map (by decide) _
    | false => exact (hrest rfl).mono (by decide)
  have hdescription : Yields (Read.string 8 false) depth
      (if described then Writer.string r.description 8 else [])
      ((if contextual then r.context.encode 9 else []) ++ rest)
      (if described then some r.description else none) := by
    refine (readsField_field _).yields_optional (fun hthere => ?_) fun _ => hbehind
    rw [if_pos hthere] at hframe
    exact yields_string (by omega)
  refine Yields.congr ((yields_int16 r.version).bind <| (yields_int8 r.packetType).bind <|
    (yields_int32 r.requestId).bind <| (yields_int32 r.messageType).bind <|
    (yields_int32 r.ret).bind <| (yields_bytes h.buffer).bind <|
    (Context.yields_decode h.status (by omega)).bind <| hdescription.bind <|
    hcontext.bind_pure _) ?_
  cases described <;> rfl

/-- What was written of a response reads back from its frame, and what was left out reads
    as empty, also with more behind the fields: anything behind a context, and fields with
    higher tags where there is none. -/
theorem unpack_pack_append (h : r.Fits described contextual) (more : Bytes)
    (hmore : contextual = false → Beyond 9 more) :
    unpack (Frame.pack (r.encodeSome described contextual ++ more)) =
      .ok (r.keep described contextual) := by
  rw [unpack, Frame.body_pack]
  exact (yields_decode h hmore).runOn

end Response

/-! ## Packets -/

namespace Packet

open Wire Wire.Read

/-- Requests and responses read back from their frames, which stand complete in front of
    whatever follows. A response without its description or its context reads back with
    empty ones. Further fields with higher tags change nothing. -/
theorem unpack_pack :
    (∀ r : Request, r.Fits →
      Request.unpack r.pack = .ok r ∧
        (∀ more maxLength, r.pack.length ≤ maxLength →
          Frame.parse (r.pack ++ more) maxLength = .complete r.pack.length) ∧
        ∀ more, Request.unpack (Frame.pack (r.encode ++ more)) = .ok r) ∧
    (∀ r : Response, r.Fits true true →
      Response.unpack r.pack = .ok r ∧
        (∀ more maxLength, r.pack.length ≤ maxLength →
          Frame.parse (r.pack ++ more) maxLength = .complete r.pack.length) ∧
        ∀ more, Response.unpack (Frame.pack (r.encode ++ more)) = .ok r) ∧
    ∀ (r : Response) (described contextual : Bool), r.Fits described contextual →
      Response.unpack (Frame.pack (r.encodeSome described contextual)) =
          .ok (r.keep described contextual) ∧
        ∀ more, Beyond 9 more →
          Response.unpack (Frame.pack (r.encodeSome described contextual ++ more)) =
            .ok (r.keep described contextual) := by
  refine ⟨fun r h => ⟨?_, fun more maxLength hmax => ?_, Request.unpack_pack_append h⟩,
    fun r h => ⟨?_, fun more maxLength hmax => ?_, fun more => ?_⟩,
    fun r described contextual h => ⟨?_, fun more hmore => ?_⟩⟩
  · have hread := Request.unpack_pack_append h []
    rwa [List.append_nil] at hread
  · exact Frame.parse_pack_append h.frame hmax more
  · have hread := Response.unpack_pack_append h [] nofun
    rwa [List.append_nil, Response.encodeSome_true, Response.keep_true] at hread
  · exact Frame.parse_pack_append h.frame hmax more
  · have hread := Response.unpack_pack_append h more nofun
    rwa [Response.encodeSome_true, Response.keep_true] at hread
  · have hread := Response.unpack_pack_append h [] fun _ => .inl rfl
    rwa [List.append_nil] at hread
  · exact Response.unpack_pack_append h more fun _ => hmore

/-- A call with a text and an entry in its context. -/
def echo : Request where
  version := version
  packetType := normal
  messageType := 0
  requestId := 7
  servant := "App.Server.EchoObj"
  func := "echo"
  buffer := [1, 2, 3]
  timeout := 3000
  context := .insert .empty "trace" "abc"
  status := .empty

/-- The answer to the call, with more to say than a reader needs. -/
def echoed : Response :=
  { Response.replyTo echo 0 [3, 2, 1] with
    description := "done"
    context := .insert .empty "trace" "abc" }

theorem unpack_pack_echo :
    Request.unpack echo.pack = .ok echo ∧
      Frame.parse (echo.pack ++ [0xFF]) 1024 = .complete 63 ∧
      Response.unpack echoed.pack = .ok echoed ∧
      Response.unpack (Frame.pack (echoed.encodeSome false false ++
          Tree.writeFields [(10, .list [.int 5]), (200, .struct [(1, .string "new")])])) =
        .ok { echoed with description := "", context := .empty } := by
  have hecho : echo.Fits := ⟨by decide, by decide, by decide, by decide⟩
  have hwhole : echoed.Fits true true := ⟨by decide, by decide, fun _ => by decide, by decide⟩
  have hbare : echoed.Fits false false := ⟨by decide, by decide, nofun, by decide⟩
  have hlength : echo.pack.length = 63 := rfl
  exact ⟨(unpack_pack.1 echo hecho).1,
    ((unpack_pack.1 echo hecho).2.1 [0xFF] 1024 (by decide)).trans (congrArg _ hlength),
    (unpack_pack.2.1 echoed hwhole).1,
    (unpack_pack.2.2 echoed false false hbare).2 _ (beyond_writeFields (by decide))⟩

end Packet

end TaggedRpc
