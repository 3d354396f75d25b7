import TaggedRpc.Proofs.Wire.Anatomy

/-!
# The operations of a reader

Every operation of a reader is put together from looking at heads, taking bytes and
going one container deeper (`Made`): skipping and seeking, the readers of all
types, typed decoding, and whole scripts (`made_exec`). So whatever follows from an
anatomy holds of them.
-/

namespace TaggedRpc.Wire

namespace Read

variable {α β : Type}

/-- A computation has an anatomy. -/
def Made (x : Read α) : Prop := Nonempty (Anatomy x)

variable {x y : Read α} {f : α → Read β} {r s : Reader}

theorem Made.ahead (h : Made x) (r : Reader) : r.Ahead (x.after r) := h.elim fun c => c.ahead r

theorem Made.ahead_of_ok {a : α} (h : Made x) (heq : x r = .ok a s) : r.Ahead s :=
  after_of_ok heq ▸ h.ahead r

/-! ## Putting together -/

theorem made_pure (a : α) : Made (pure a : Read α) := ⟨.pure a⟩

theorem made_throw (e : DecodeError) : Made (throw e : Read α) := ⟨.throw e⟩

theorem made_get : Made (get : Read Reader) := ⟨.get⟩

theorem made_peekHead : Made peekHead := ⟨.peek⟩

theorem made_take (n : Nat) : Made (take n) := ⟨.take n⟩

theorem Made.bind (hx : Made x) (hf : ∀ a, Made (f a)) : Made (x >>= f) :=
  ⟨.bind (Classical.choice hx) fun a => Classical.choice (hf a)⟩

theorem Made.map (hx : Made x) (f : α → β) : Made (f <$> x) := by
  rw [map_eq_pure_bind]
  exact hx.bind fun a => made_pure (f a)

theorem Made.deeper (hx : Made x) : Made (deeper x) := hx.elim fun c => ⟨.deeper c⟩

theorem Made.attempt (hx : Made x) : Made (attempt x) := hx.elim fun c => ⟨.attempt c⟩

theorem Made.ite {c : Prop} [Decidable c] (hx : Made x) (hy : Made y) :
    Made (if c then x else y) := by
  split
  · exact hx
  · exact hy

/-- A check in front of what follows. -/
theorem Made.check {c : Prop} [Decidable c] {e : DecodeError} {f : Unit → Read α}
    (hf : ∀ u, Made (f u)) : Made (if c then throw e >>= f else f ()) :=
  ((made_throw e).bind hf).ite (hf ())

theorem made_skip (n : Nat) : Made (skip n) := (made_take n).bind fun _ => made_pure ()

theorem made_rawNat (width : Nat) : Made (rawNat width) := (made_take width).map _

theorem made_rawInt (width : Nat) : Made (rawInt width) := (made_take width).map _

theorem Made.times {step : Read Unit} (h : Made step) : ∀ n, Made (times step n)
  | 0 => made_pure ()
  | n + 1 => h.bind fun _ => h.times n

theorem Made.replicate (hx : Made x) : ∀ n, Made (replicate x n)
  | 0 => made_pure []
  | n + 1 => hx.bind fun _ => (hx.replicate n).bind fun _ => made_pure _

/-! ## Heads and counts -/

theorem made_head : Made head :=
  made_peekHead.bind fun h => (made_skip h.size).bind fun _ => made_pure h

theorem made_intPayload (type : WireType) (tag : Tag) (widest : WireType) (expected : String) :
    Made (intPayload type tag widest expected) :=
  (made_pure 0).ite <| (made_rawInt 1).ite <| (made_rawInt 2).ite <| (made_rawInt 4).ite <|
    (made_rawInt 8).ite <| made_throw _

theorem made_length : Made length :=
  made_get.bind fun _ => .check fun _ => made_peekHead.bind fun h => .check fun _ =>
    (made_skip h.size).bind fun _ => (made_intPayload _ _ _ _).bind fun _ => made_get.bind fun _ =>
      .check fun _ => made_pure _

theorem made_simpleListPayload (tag : Tag) : Made (simpleListPayload tag) :=
  made_head.bind fun _ => .check fun _ => made_length.bind made_take

theorem made_stringPayload (type : WireType) (tag : Tag) : Made (stringPayload type tag) := by
  unfold stringPayload
  split
  · exact (made_rawNat 1).bind made_take
  · exact (made_rawNat 4).bind made_take
  · exact made_throw _

/-! ## Skipping and seeking -/

theorem made_untilStructEnd {inner : WireType → Read Unit} (h : ∀ ty, Made (inner ty)) :
    ∀ turns, Made (untilStructEnd inner turns)
  | 0 => made_head.bind fun _ => made_pure ()
  | turns + 1 => made_head.bind fun head =>
    (made_pure ()).ite ((h head.type).bind fun _ => made_untilStructEnd h turns)

theorem made_skipPayload {inner : WireType → Read Unit} (h : ∀ ty, Made (inner ty))
    (ty : WireType) : Made (skipPayload inner ty) := by
  have hfield : Made (do inner (← head).type) := made_head.bind fun head => h head.type
  cases ty
  case byte | short | int | float | long | double => exact made_skip _
  case string1 | string4 => exact (made_rawNat _).bind made_skip
  case map | list => exact made_length.bind fun n => (hfield.times _).deeper
  case simpleList => exact (made_simpleListPayload 0).bind fun _ => made_pure ()
  case structBegin => exact (made_get.bind fun r => made_untilStructEnd h r.rest.length).deeper
  case structEnd | zero => exact made_pure ()

theorem made_skipWithin : ∀ levels ty, Made (skipWithin levels ty)
  | 0 => made_skipPayload fun _ => made_throw _
  | levels + 1 => made_skipPayload (made_skipWithin levels)

theorem made_skipField (ty : WireType) : Made (skipField ty) :=
  made_get.bind fun _ => made_skipWithin _ ty

theorem made_skipAny : Made skipAny := made_head.bind fun h => made_skipField h.type

theorem made_skipToStructEnd : Made skipToStructEnd :=
  made_get.bind fun _ => made_untilStructEnd made_skipField _

theorem made_seekWithin (tag : Tag) : ∀ turns, Made (seekWithin tag turns)
  | 0 => made_pure none
  | turns + 1 => made_get.bind fun _ => (made_pure none).ite <| made_peekHead.bind fun h =>
    (made_pure none).ite <| (made_skip h.size).bind fun _ => (made_pure (some h.type)).ite <|
      (made_skipField h.type).bind fun _ => made_seekWithin tag turns

theorem made_seek (tag : Tag) (required : Bool) : Made (seek tag required) := by
  refine made_get.bind fun r => (made_seekWithin tag _).bind fun ty => ?_
  cases ty with
  | some ty => exact made_pure (some ty)
  | none => exact (made_throw _).ite (made_pure none)

theorem made_field {payload : WireType → Read α} (h : ∀ ty, Made (payload ty)) (tag : Tag)
    (required : Bool) : Made (field tag required payload) := by
  refine (made_seek tag required).bind fun ty => ?_
  cases ty with
  | some ty => exact (h ty).map some
  | none => exact made_pure none

/-! ## Fields of one type -/

variable (tag : Tag) (required : Bool)

theorem made_intField (f : Int → α) (widest : WireType) (expected : String) :
    Made (field tag required fun ty => f <$> intPayload ty tag widest expected) :=
  made_field (fun ty => (made_intPayload ty tag widest expected).map f) tag required

theorem made_bool : Made (bool tag required) :=
  (made_intField tag required _ _ _).bind fun _ => made_pure _

theorem made_unsigned (bound : Nat) (target : String) (v : Option Int) :
    Made (unsigned tag bound target v) := by
  cases v with
  | none => exact made_pure none
  | some v => exact (made_pure _).ite (made_throw _)

theorem made_decodeInt (t : IntType) : Made (Schema.decodeInt tag required t) := by
  have hunsigned : ∀ {α β : Type} (f : Int → α) widest expected (toInt : α → Int) bound target
      (g : Nat → β), Made (do
        let v ← field tag required fun ty => f <$> intPayload ty tag widest expected
        pure ((← unsigned tag bound target (v.map toInt)).map g)) :=
    fun f _ _ _ _ _ _ => (made_intField tag required f _ _).bind fun _ =>
      (made_unsigned tag _ _ _).bind fun _ => made_pure _
  cases t
  case int8 | int16 | int32 | int64 => 
    exact (made_intField tag required _ _ _).bind fun _ => made_pure _
  case uint8 | uint16 | uint32 => exact (hunsigned _ _ _ _ _ _ _).bind fun _ => made_pure _

theorem made_float32 : Made (float32 tag required) := by
  refine made_field (fun ty => ?_) tag required
  split
  · exact made_pure 0
  · exact (made_rawNat 4).map _
  · exact made_throw _

theorem made_float64 : Made (float64 tag required) := by
  refine made_field (fun ty => ?_) tag required
  split
  · exact made_pure 0
  · exact (made_rawNat 4).map _
  · exact (made_rawNat 8).map _
  · exact made_throw _

theorem made_string : Made (string tag required) := by
  refine made_field (fun ty => (made_stringPayload ty tag).bind fun bs => ?_) tag required
  split
  · exact made_pure _
  · exact made_throw _

theorem made_bytes : Made (bytes tag required) := by
  refine made_field (fun ty => ?_) tag required
  split
  · exact made_simpleListPayload tag
  · exact made_length.bind fun n =>
      ((made_intField 0 true _ _ _).bind fun _ => made_pure _).replicate n
  · exact made_throw _

/-! ## Containers -/

theorem made_listLength : Made (listLength tag required) := by
  refine made_field (fun ty => ?_) tag required
  split
  · exact made_length
  · exact made_throw _
  · exact made_throw _

theorem made_mapLength : Made (mapLength tag required) := by
  refine made_field (fun ty => ?_) tag required
  split
  · exact made_length
  · exact made_throw _

theorem made_enterStruct : Made (enterStruct tag required) := by
  refine (made_field (fun ty => ?_) tag required).bind fun _ => made_pure _
  split
  · exact made_pure ()
  · exact made_throw _

theorem Made.nested (hx : Made x) : Made (nested x) :=
  (hx.bind fun a => made_skipToStructEnd.bind fun _ => made_pure a).deeper

end Read

/-! ## Typed decoding -/

namespace Schema

open Read

variable (σ : Schema)

theorem made_decodeWith {fields : String → Read Val} (h : ∀ name, Made (fields name)) :
    ∀ (t : Ty) (tag : Tag) (required : Bool), Made (σ.decodeWith fields t tag required)
  | .bool, tag, required => (made_bool tag required).bind fun _ => made_pure _
  | .int t, tag, required => (made_decodeInt tag required t).bind fun _ => made_pure _
  | .float32, tag, required => (made_float32 tag required).bind fun _ => made_pure _
  | .float64, tag, required => (made_float64 tag required).bind fun _ => made_pure _
  | .string, tag, required => (made_string tag required).bind fun _ => made_pure _
  | .bytes _, tag, required => (made_bytes tag required).bind fun _ => made_pure _
  | .list t, tag, required => by
    refine (made_listLength tag required).bind fun n => ?_
    cases n with
    | none => exact made_pure _
    | some n => exact ((made_decodeWith h t 0 true).replicate n).bind fun _ => made_pure _
  | .map k v, tag, required => by
    refine (made_mapLength tag required).bind fun n => ?_
    cases n with
    | none => exact made_pure _
    | some n =>
      have hpair : Made (do
          let key ← σ.decodeWith fields k 0 true
          let value ← σ.decodeWith fields v 1 true
          pure (key, value)) :=
        (made_decodeWith h k 0 true).bind fun _ => (made_decodeWith h v 1 true).bind fun _ =>
          made_pure _
      exact (hpair.replicate n).bind fun _ => made_pure _
  | .struct name, tag, required => by
    refine (made_enterStruct tag required).bind fun present => ?_
    exact .ite (h name).nested (made_pure _)

theorem made_decodeAll {field : FieldType → Read Val} (h : ∀ f, Made (field f)) :
    ∀ fs, Made (decodeAll field fs)
  | [] => made_pure []
  | f :: fs => (h f).bind fun _ => (made_decodeAll h fs).bind fun _ => made_pure _

theorem made_decodeFieldsWithin : ∀ levels name, Made (σ.decodeFieldsWithin levels name)
  | 0, _ => made_throw _
  | levels + 1, name =>
    (made_decodeAll (fun f => made_decodeWith σ (made_decodeFieldsWithin levels) f.type f.tag
      f.required) (σ.layout name)).bind fun _ => made_pure _

theorem made_decode (t : Ty) (tag : Tag) (required : Bool) : Made (σ.decode t tag required) :=
  made_get.bind fun _ => made_decodeWith σ (made_decodeFieldsWithin σ _) t tag required

end Schema

/-! ## Scripts -/

namespace Script

open Read

variable (σ : Schema)

theorem made_readOptional (tag : Tag) (required : Bool) (t : Ty) :
    Made (readOptional σ tag required t) := by
  cases t
  case bool => exact (made_bool tag required).bind fun _ => made_pure _
  case int t => exact (made_decodeInt tag required t).bind fun _ => made_pure _
  case float32 => exact (made_float32 tag required).bind fun _ => made_pure _
  case float64 => exact (made_float64 tag required).bind fun _ => made_pure _
  case string => exact (made_string tag required).bind fun _ => made_pure _
  case bytes => exact (made_bytes tag required).bind fun _ => made_pure _
  case list | map | struct => exact (σ.made_decode _ tag required).map some

mutual

/-- Every operation of a reader is put together from the few that touch it. -/
theorem made_exec : ∀ step, Made (exec σ step)
  | .peek => made_peekHead.map _
  | .head => made_head.map _
  | .seek tag required => (made_seek tag required).map _
  | .skipField code => by
    rw [exec]
    split
    · exact made_throw _
    · exact (made_skipField _).bind fun _ => made_pure _
  | .skipAny => made_skipAny.bind fun _ => made_pure _
  | .skipToStructEnd => made_skipToStructEnd.bind fun _ => made_pure _
  | .optional type tag required => (made_readOptional σ tag required type).map _
  | .listLength tag required => (made_listLength tag required).map _
  | .mapLength tag required => (made_mapLength tag required).map _
  | .enterStruct tag required => (made_enterStruct tag required).map _
  | .nested body => (made_execAll body).nested.map _
  | .decode type tag required => (σ.made_decode type tag required).bind fun _ => made_pure _
  | .state => made_get.bind fun _ => made_pure _

theorem made_execAll : ∀ steps, Made (execAll σ steps)
  | [] => made_pure []
  | step :: steps => (made_exec step).bind fun _ => made_get.bind fun _ =>
    (made_execAll steps).bind fun _ => made_pure _

end

end Script

end TaggedRpc.Wire
