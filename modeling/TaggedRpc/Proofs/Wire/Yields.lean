import TaggedRpc.Wire.Reader
import TaggedRpc.Wire.Writer

/-!
# Reading exactly one piece

A computation *yields* a value from a piece of bytes in front of a rest if it
consumes the piece, no byte less and none more, and gives the value, wherever
the piece stands; the depth is the same afterwards. What follows the piece is
part of the notion, as the count of a container is compared with the bytes left.

Pieces compose: what is read one after another is yielded from the pieces
appended (`Yields.bind`), so that the law of a field is put together from the
laws of its parts, without a word about positions.

* `yields_head`, `yields_field`: heads, and fields that stand right ahead;
* `yields_deeper`, `yields_replicate`, `yields_times`: containers;
* `yields_untilStructEnd`: the fields up to a struct end.
-/

namespace TaggedRpc.Wire.Read

variable {α β : Type} {depth n : Nat} {bs cs rest : Bytes} {a : α} {b : β}

/-- At a depth, `x` consumes exactly `bs` in front of `rest` and gives `a`. -/
def Yields (x : Read α) (depth : Nat) (bs rest : Bytes) (a : α) : Prop :=
  ∀ pos, x ⟨bs ++ rest, pos, depth⟩ = .ok a ⟨rest, pos + bs.length, depth⟩

/-! ## Composing -/

/-- What comes after a computation that succeeds. -/
theorem bind_of_ok {x : Read α} {f : α → Read β} {r s : Reader} (h : x r = .ok a s) :
    (x >>= f) r = f a s := by
  show EStateM.bind x f r = f a s
  rw [EStateM.bind, h]

/-- What comes after two computations with the same outcome. -/
theorem bind_eq_of_eq {x y : Read α} {f : α → Read β} {r s : Reader} (h : x r = y s) :
    (x >>= f) r = (y >>= f) s := by
  show EStateM.bind x f r = EStateM.bind y f s
  rw [EStateM.bind, EStateM.bind, h]

theorem yields_pure (a : α) : Yields (pure a) depth [] rest a := fun _ => rfl

theorem get_bind (f : Reader → Read α) (r : Reader) : ((get : Read Reader) >>= f) r = f r r := rfl

theorem Yields.bind {x : Read α} {f : α → Read β} (hx : Yields x depth bs (cs ++ rest) a)
    (hf : Yields (f a) depth cs rest b) : Yields (x >>= f) depth (bs ++ cs) rest b := by
  intro pos
  rw [List.append_assoc, bind_of_ok (hx pos), hf, List.length_append, Nat.add_assoc]

theorem Yields.map {x : Read α} (hx : Yields x depth bs rest a) (f : α → β) :
    Yields (f <$> x) depth bs rest (f a) := by
  intro pos
  show EStateM.map f x _ = _
  rw [EStateM.map, hx pos]

theorem Yields.bind_pure {x : Read α} (hx : Yields x depth bs rest a) (f : α → β) :
    Yields (do pure (f (← x))) depth bs rest (f a) :=
  List.append_nil bs ▸ hx.bind (yields_pure (f a))

theorem Yields.congr {x : Read α} {a' : α} (hx : Yields x depth bs rest a) (h : a = a') :
    Yields x depth bs rest a' :=
  h ▸ hx

/-! ## Bytes -/

theorem yields_take (h : bs.length = n) : Yields (take n) depth bs rest bs := by
  intro pos
  subst h
  simp only [take, List.take_left, List.drop_left, Nat.lt_irrefl, if_false]

theorem yields_skip (h : bs.length = n) : Yields (skip n) depth bs rest () :=
  (yields_take h).bind_pure fun _ => ()

theorem yields_rawNat (h : bs.length = n) : Yields (rawNat n) depth bs rest (Bytes.toNat bs) :=
  (yields_take h).map _

theorem yields_rawInt (h : bs.length = n) : Yields (rawInt n) depth bs rest (Bytes.toInt bs) :=
  (yields_take h).map _

/-! ## Containers -/

theorem yields_deeper {x : Read α} (hd : depth < maxNesting)
    (hx : Yields x (depth + 1) bs rest a) : Yields (deeper x) depth bs rest a := by
  intro pos
  simp only [deeper, if_pos hd, hx pos, Nat.add_sub_cancel]

theorem Yields.replicate_succ {x : Read α} {as : List α} (hx : Yields x depth bs (cs ++ rest) a)
    (hxs : Yields (replicate x n) depth cs rest as) :
    Yields (replicate x (n + 1)) depth (bs ++ cs) rest (a :: as) :=
  hx.bind (List.append_nil cs ▸ hxs.bind (yields_pure _))

theorem Yields.times_succ {x : Read Unit} (hx : Yields x depth bs (cs ++ rest) ())
    (hxs : Yields (times x n) depth cs rest ()) :
    Yields (times x (n + 1)) depth (bs ++ cs) rest () :=
  hx.bind hxs

/-! ## Heads -/

theorem head_length_pos (ty : WireType) (tag : Tag) : 0 < (Writer.head ty tag).length := by
  unfold Writer.head
  split <;> simp

/-- What the first byte of a head says: its high half is the tag, or the
    sentinel before a tag in a byte of its own. -/
theorem peekHead_cons {first : UInt8} {ty : WireType} {high : Nat}
    (h : first.toNat = 16 * high + ty.code) (more : Bytes) (pos : Nat) :
    peekHead ⟨first :: more, pos, depth⟩ =
      if high < tagSentinel then .ok ⟨ty, UInt8.ofNat high, 1⟩ ⟨first :: more, pos, depth⟩
      else match more with
        | [] => .error (.unexpectedEnd (pos + 1) 1) ⟨first :: more, pos, depth⟩
        | tag :: _ => .ok ⟨ty, tag, 2⟩ ⟨first :: more, pos, depth⟩ := by
  -- The halves of the byte are the digits of its number in base 16.
  have hc := ty.code_lt
  have hm : first.toNat % 16 = ty.code := by omega
  have hq : first.toNat / 16 = high := by omega
  simp only [peekHead, hm, hq, WireType.ofCode?_code]
  rfl

theorem peekHead_head (ty : WireType) (tag : Tag) (pos : Nat) :
    peekHead ⟨Writer.head ty tag ++ rest, pos, depth⟩ =
      .ok ⟨ty, tag, (Writer.head ty tag).length⟩ ⟨Writer.head ty tag ++ rest, pos, depth⟩ := by
  have hc := ty.code_lt
  have hfit : ∀ high, high ≤ tagSentinel →
      (UInt8.ofNat (16 * high + ty.code)).toNat = 16 * high + ty.code := by
    intro high hh
    rw [UInt8.toNat_ofNat', Nat.mod_eq_of_lt]
    rw [tagSentinel] at hh
    omega
  unfold Writer.head
  split
  · rename_i ht
    rw [List.singleton_append, peekHead_cons (hfit _ (Nat.le_of_lt ht)), if_pos ht,
      UInt8.ofNat_toNat, List.length_singleton]
  · rw [List.cons_append, peekHead_cons (hfit _ (Nat.le_refl _)), if_neg (Nat.lt_irrefl _)]
    rfl

theorem yields_head (ty : WireType) (tag : Tag) :
    Yields head depth (Writer.head ty tag) rest ⟨ty, tag, (Writer.head ty tag).length⟩ := by
  intro pos
  rw [head, bind_of_ok (peekHead_head ty tag pos)]
  exact (Yields.map (yields_skip rfl) fun _ => Head.mk ty tag (Writer.head ty tag).length) pos

/-! ## Seeking -/

variable {ty : WireType} {tag t : Tag} {turns pos : Nat}

theorem isEmpty_head_append (ty : WireType) (t : Tag) (rest : Bytes) :
    (Writer.head ty t ++ rest).isEmpty = false := by
  have := head_length_pos ty t
  rw [List.isEmpty_eq_false_iff]
  exact List.append_ne_nil_of_left_ne_nil (List.length_pos_iff.1 this) rest

/-- One turn of seeking, at a head. -/
theorem seekWithin_succ_head :
    seekWithin tag (turns + 1) ⟨Writer.head ty t ++ rest, pos, depth⟩ =
      if ty = .structEnd ∨ tag < t then .ok none ⟨Writer.head ty t ++ rest, pos, depth⟩
      else if t = tag then .ok (some ty) ⟨rest, pos + (Writer.head ty t).length, depth⟩
      else (do skipField ty; seekWithin tag turns)
        ⟨rest, pos + (Writer.head ty t).length, depth⟩ := by
  have hskip : Yields (skip (Writer.head ty t).length) depth (Writer.head ty t) rest () :=
    yields_skip rfl
  rw [seekWithin, get_bind, isEmpty_head_append, if_neg Bool.false_ne_true,
    bind_of_ok (peekHead_head ty t pos)]
  split
  · rfl
  · rw [bind_of_ok (hskip pos)]
    split <;> rfl

/-- Where seeking stops, one turn is as good as many. -/
theorem seekWithin_succ_stop {turns' : Nat} (hstop : ty = .structEnd ∨ tag ≤ t) :
    seekWithin tag (turns + 1) ⟨Writer.head ty t ++ rest, pos, depth⟩ =
      seekWithin tag (turns' + 1) ⟨Writer.head ty t ++ rest, pos, depth⟩ := by
  rw [seekWithin_succ_head, seekWithin_succ_head]
  by_cases hend : ty = .structEnd ∨ tag < t
  · rw [if_pos hend, if_pos hend]
  · have ht : t = tag := by
      rw [not_or, UInt8.not_lt] at hend
      exact UInt8.le_antisymm hend.2 (hstop.resolve_left hend.1)
    rw [if_neg hend, if_neg hend, if_pos ht, if_pos ht]

/-- The bytes ahead of a head give a loop at least one turn. -/
theorem exists_length_head_append (ty : WireType) (t : Tag) (rest : Bytes) :
    ∃ turns, (Writer.head ty t ++ rest).length = turns + 1 := by
  have := head_length_pos ty t
  exact ⟨(Writer.head ty t ++ rest).length - 1, by rw [List.length_append]; omega⟩

theorem yields_seek {required : Bool} (hty : ty ≠ .structEnd) :
    Yields (seek tag required) depth (Writer.head ty tag) rest (some ty) := by
  intro pos
  obtain ⟨turns, hturns⟩ := exists_length_head_append ty tag rest
  have hhit : seekWithin tag (turns + 1) ⟨Writer.head ty tag ++ rest, pos, depth⟩ =
      .ok (some ty) ⟨rest, pos + (Writer.head ty tag).length, depth⟩ := by
    rw [seekWithin_succ_head, if_neg (by simp [hty]), if_pos rfl]
  rw [seek, get_bind, hturns, bind_of_ok hhit]
  rfl

/-- A field that stands right ahead. -/
theorem Yields.field {required : Bool} {payload : WireType → Read α} (hty : ty ≠ .structEnd)
    (h : Yields (payload ty) depth bs rest a) :
    Yields (field tag required payload) depth (Writer.head ty tag ++ bs) rest (some a) :=
  (yields_seek hty).bind (h.map some)

/-- A field that cannot come any more: the struct ends, or a higher tag is ahead. -/
theorem yields_seek_none (hstop : ty = .structEnd ∨ tag < t) :
    Yields (seek tag false) depth [] (Writer.head ty t ++ rest) none := by
  intro pos
  obtain ⟨turns, hturns⟩ := exists_length_head_append ty t rest
  have hmiss : seekWithin tag (turns + 1) ⟨Writer.head ty t ++ rest, pos, depth⟩ =
      .ok none ⟨Writer.head ty t ++ rest, pos, depth⟩ := by
    rw [seekWithin_succ_head, if_pos hstop]
  rw [seek, get_bind, List.nil_append, hturns, bind_of_ok hmiss]
  rfl

theorem yields_field_none {payload : WireType → Read α} (hstop : ty = .structEnd ∨ tag < t) :
    Yields (field tag false payload) depth [] (Writer.head ty t ++ rest) none := by
  intro pos
  rw [field, bind_of_ok (yields_seek_none hstop pos)]
  rfl

/-- One turn of skipping to a struct end, at a head. -/
theorem untilStructEnd_succ_head {skipPayload : WireType → Read Unit} :
    untilStructEnd skipPayload (turns + 1) ⟨Writer.head ty t ++ rest, pos, depth⟩ =
      if ty = .structEnd then .ok () ⟨rest, pos + (Writer.head ty t).length, depth⟩
      else (do skipPayload ty; untilStructEnd skipPayload turns)
        ⟨rest, pos + (Writer.head ty t).length, depth⟩ := by
  rw [untilStructEnd, bind_of_ok (yields_head ty t pos)]
  split <;> rfl

/-- The rest of a struct in which no field is left. -/
theorem yields_skipToStructEnd :
    Yields skipToStructEnd depth (Writer.head .structEnd t) rest () := by
  intro pos
  obtain ⟨turns, hturns⟩ := exists_length_head_append .structEnd t rest
  rw [skipToStructEnd, get_bind, hturns, untilStructEnd_succ_head, if_pos rfl]

/-- The begin of a struct. -/
theorem yields_enterStruct {required : Bool} :
    Yields (enterStruct tag required) depth (Writer.head .structBegin tag) rest true := by
  -- Nothing of the field is left after its head.
  rw [← List.append_nil (Writer.head .structBegin tag)]
  exact (Yields.field (by decide) (yields_pure ())).bind_pure Option.isSome

/-- The fields of a struct that a body reads, and what is skipped after them. -/
theorem yields_nested {body : Read α} (hd : depth < maxNesting)
    (hbody : Yields body (depth + 1) bs (cs ++ rest) a)
    (hskip : Yields skipToStructEnd (depth + 1) cs rest ()) :
    Yields (nested body) depth (bs ++ cs) rest a :=
  yields_deeper hd (hbody.bind (hskip.bind_pure fun _ => a))

end TaggedRpc.Wire.Read
