import TaggedRpc.Proofs.Wire.Evolution
import TaggedRpc.Proofs.Wire.Loops

/-!
# Optional fields that are absent

A reader that asks for an optional field and does not find it has moved all the same: it
has gone past the fields with lower tags, and stands at a higher tag, at a struct end or at
the end of the bytes. A reader that asks for a tag that is no lower goes past these fields
as well, so it does not see whether the other one has asked before it. That holds on any
bytes, also where the fields that are left are no fields at all.

* `Read.Passes`: the way past fields with lower tags, one by one;
* `Read.passes_of_seek`: a miss takes that way;
* `Read.Passes.seek_eq`, `Read.Passes.skipToStructEnd_eq`: what comes to the same from both
  ends of it;
* `Script.misses_hide_nothing`: the same of the operations of a reader, and of scripts.

An operation that asks for an optional field tells that it is absent, or the default of its
type; the former only where it is absent (`Script.seek_of_tellsAbsent`).
-/

namespace TaggedRpc.Wire

namespace Read

variable {α β : Type} {r s : Reader} {tag t u : Tag} {required : Bool}

/-! ## Past lower tags -/

/-- From one place to another, a reader goes past fields, all with tags below another. -/
inductive Passes (tag : Tag) : Reader → Reader → Prop
  | here (r : Reader) : Passes tag r r
  | field {r s t : Reader} {h : Head} : peekHead r = .ok h r → h.type ≠ .structEnd → h.tag < tag →
      skipAny r = .ok () s → Passes tag s t → Passes tag r t

/-- Skipping a field goes past its head first. -/
theorem skipAny_of_peekHead {h : Head} (hpeek : peekHead r = .ok h r) :
    skipAny r = (do skip h.size; skipField h.type) r := by
  rw [skipAny, head, bind_assoc, bind_of_ok hpeek, bind_assoc]
  rfl

theorem isEmpty_of_peekHead {h : Head} (hpeek : peekHead r = .ok h r) :
    r.rest.isEmpty = false := by
  obtain ⟨-, hpos, hsize⟩ := peekHead_eq_ok hpeek
  rw [List.isEmpty_eq_false_iff, ← List.length_pos_iff]
  omega

/-- A turn of seeking goes past a field with a lower tag. -/
theorem seekTurn_of_lt {h : Head} (hpeek : peekHead r = .ok h r) (htype : h.type ≠ .structEnd)
    (htag : h.tag < tag) (hskip : skipAny r = .ok () s) :
    seekTurn tag required r = .ok none s := by
  rw [skipAny_of_peekHead hpeek] at hskip
  obtain ⟨_, v, hhead, hpayload⟩ := exists_of_bind_eq_ok hskip
  have hgo : ¬(h.type = .structEnd ∨ tag < h.tag) := fun hstop =>
    hstop.elim htype (UInt8.lt_asymm htag)
  rw [seekTurn, get_bind, isEmpty_of_peekHead hpeek, if_neg Bool.false_ne_true, bind_of_ok hpeek,
    if_neg hgo, bind_of_ok hhead, if_neg (UInt8.ne_of_lt htag), bind_of_ok hpayload]
  rfl

/-- A turn of skipping to the end of a struct goes past any field. -/
theorem structTurn_of_ne {h : Head} (hpeek : peekHead r = .ok h r) (htype : h.type ≠ .structEnd)
    (hskip : skipAny r = .ok () s) : structTurn r = .ok none s := by
  rw [skipAny_of_peekHead hpeek] at hskip
  obtain ⟨_, v, hhead, hpayload⟩ := exists_of_bind_eq_ok hskip
  rw [structTurn, head, bind_assoc, bind_of_ok hpeek, bind_assoc, bind_of_ok hhead, pure_bind,
    if_neg htype, bind_of_ok hpayload]
  rfl

/-- A turn of seeking that leads on has gone past a field with a lower tag. -/
theorem lt_of_seekTurn (h : seekTurn tag required r = .ok none s) :
    ∃ h : Head, peekHead r = .ok h r ∧ h.type ≠ .structEnd ∧ h.tag < tag ∧
      skipAny r = .ok () s := by
  rw [seekTurn, get_bind] at h
  split at h
  · cases (absent_eq_ok h).2
  obtain ⟨head, v, hpeek, hhead⟩ := exists_of_bind_eq_ok h
  obtain ⟨rfl, -, -⟩ := peekHead_eq_ok hpeek
  split at hhead
  · cases (absent_eq_ok hhead).2
  rename_i hgo
  obtain ⟨_, w, hskip, hfield⟩ := exists_of_bind_eq_ok hhead
  split at hfield
  · cases hfield
  rename_i hne
  obtain ⟨_, x, hpayload, hpure⟩ := exists_of_bind_eq_ok hfield
  cases hpure
  rw [not_or, UInt8.not_lt] at hgo
  refine ⟨head, hpeek, hgo.1, UInt8.lt_of_le_of_ne hgo.2 hne, ?_⟩
  rw [skipAny_of_peekHead hpeek, bind_of_ok hskip, hpayload]

/-- Where a turn of seeking finds that the field is absent, the reader stays. -/
theorem eq_of_seekTurn_absent (h : seekTurn tag false r = .ok (some none) s) : s = r := by
  have habsent : ∀ {r' : Reader}, (some <$> absent tag false : Read _) r' = .ok (some none) s →
      s = r' := fun h => by cases h; rfl
  rw [seekTurn, get_bind] at h
  split at h
  · exact habsent h
  obtain ⟨head, v, hpeek, hhead⟩ := exists_of_bind_eq_ok h
  obtain ⟨rfl, -, -⟩ := peekHead_eq_ok hpeek
  split at hhead
  · exact habsent hhead
  obtain ⟨_, w, hskip, hfield⟩ := exists_of_bind_eq_ok hhead
  split at hfield
  · cases hfield
  · obtain ⟨_, x, hpayload, hpure⟩ := exists_of_bind_eq_ok hfield
    cases hpure

/-- A miss goes past fields with lower tags, and stays where it finds that there is no other. -/
theorem passes_of_seek (h : seek tag false r = .ok none s) : Passes tag r s := by
  -- Every turn leaves fewer bytes ahead.
  induction hn : r.rest.length using Nat.strongRecOn generalizing r with
  | ind n ih =>
    have hloop := loop_seek tag false
    rw [hloop.turns] at h
    obtain ⟨o, v, hturn, hrest⟩ := exists_of_bind_eq_ok h
    cases o with
    | some o =>
      cases hrest
      obtain rfl := eq_of_seekTurn_absent hturn
      exact .here _
    | none =>
      obtain ⟨head, hpeek, htype, htag, hskip⟩ := lt_of_seekTurn hturn
      have hlt := length_rest_lt (made_seekTurn tag false) hloop.consumes hturn
      exact .field hpeek htype htag hskip (ih _ (hn ▸ hlt) hrest rfl)

/-! ## What does not see it -/

/-- A loop does from a reader what it does after a turn that leads on. -/
theorem Loop.eq_of_turn {turn : Read (Option α)} {x : Read α} (hx : Loop turn x)
    (h : turn r = .ok none s) : x r = x s := by
  have hturns := congrFun hx.turns r
  rwa [turnThen, bind_of_ok h] at hturns

/-- A reader that asks for a tag that is no lower goes the same way. -/
theorem Passes.seek_eq (h : Passes t r s) (htu : t ≤ u) (required : Bool) :
    seek u required s = seek u required r := by
  induction h with
  | here r => rfl
  | @field r s _ _ hpeek htype htag hskip _ ih =>
    have hturn : seekTurn u required r = .ok none s :=
      seekTurn_of_lt hpeek htype (UInt8.lt_of_lt_of_le htag htu) hskip
    exact ih.trans ((loop_seek u required).eq_of_turn hturn).symm

/-- So does a reader that skips to the end of the struct. -/
theorem Passes.skipToStructEnd_eq (h : Passes t r s) : skipToStructEnd s = skipToStructEnd r := by
  induction h with
  | here r => rfl
  | field hpeek htype _ hskip _ ih =>
    exact ih.trans (loop_skipToStructEnd.eq_of_turn (structTurn_of_ne hpeek htype hskip)).symm

/-! ## Readers of one field -/

theorem readsField_seek : ReadsField tag required none (seek tag required) := by
  have hseek : field tag required pure = seek tag required := by
    rw [field, ← bind_pure (seek tag required), bind_assoc]
    congr 1
    funext o
    cases o <;> rfl
  rw [← hseek]
  exact readsField_field _

/-- A reader of a field does the same from two places from which seeking it does. -/
theorem ReadsField.eq_of_seek_eq {b : β} {x : Read β} (hx : ReadsField tag required b x)
    (h : seek tag required r = seek tag required s) : x r = x s := by
  obtain ⟨α, payload, f, rfl, -⟩ := hx
  exact bind_eq_of_eq (bind_eq_of_eq h)

/-- A reader of an optional field tells that it is absent where seeking does not find it. -/
theorem ReadsField.of_seek_eq_none {b : β} {x : Read β} (hx : ReadsField tag false b x)
    (h : seek tag false r = .ok none s) : x r = .ok b s := by
  obtain ⟨α, payload, f, rfl, hf⟩ := hx
  have hfield : field tag false payload r = .ok none s := by
    rw [field, bind_of_ok h]
    rfl
  rw [bind_of_ok hfield, hf]
  rfl

end Read

/-! ## Operations -/

namespace Script

open Read

/-- The tag that an operation asks for, and whether the field must be there. -/
def Step.asks : Step → Option (Tag × Bool)
  | .seek tag required | .optional _ tag required | .listLength tag required
  | .mapLength tag required | .enterStruct tag required | .decode _ tag required =>
    some (tag, required)
  | _ => none

variable (σ : Schema)

/-- What an operation tells of a field that is absent. -/
def Step.absent : Step → Answer
  | .seek _ _ => .sought none
  | .optional type tag required => .value type (σ.absent ⟨tag, required, type, true⟩)
  | .listLength _ _ | .mapLength _ _ => .length none
  | .enterStruct _ _ => .entered false
  | .decode type tag required => .value type (σ.absent ⟨tag, required, type, false⟩)
  | _ => .done

variable {step : Step} {tag : Tag} {required : Bool} {r s : Reader}

theorem exec_optional (type : Ty) (tag : Tag) (required : Bool) :
    exec σ (.optional type tag required) = .value type <$> σ.ask ⟨tag, required, type, true⟩ := by
  rw [exec, Schema.ask, if_pos rfl]

theorem exec_decode (type : Ty) (tag : Tag) (required : Bool) :
    exec σ (.decode type tag required) = .value type <$> σ.ask ⟨tag, required, type, false⟩ := by
  rw [exec, Schema.ask, if_neg Bool.false_ne_true, map_eq_pure_bind, map_eq_pure_bind, bind_assoc]
  rfl

/-- At a depth, an operation that asks for a tag is a reader of the field there. -/
theorem exists_readsField_exec (depth : Nat) (hasks : step.asks = some (tag, required)) :
    ∃ x, ReadsField tag required (step.absent σ) x ∧
      ∀ rest pos, exec σ step ⟨rest, pos, depth⟩ = x ⟨rest, pos, depth⟩ := by
  have hask (q : Query) : ∃ x, ReadsField q.tag q.required (.value q.type (σ.absent q)) x ∧
      ∀ rest pos, (Answer.value q.type <$> σ.ask q : Read Answer) ⟨rest, pos, depth⟩ =
        x ⟨rest, pos, depth⟩ := by
    obtain ⟨x, hx, heq⟩ := σ.exists_readsField_ask depth q
    refine ⟨_, hx.map (Answer.value q.type), fun rest pos => ?_⟩
    rw [map_eq_pure_bind, map_eq_pure_bind]
    exact bind_eq_of_eq (heq rest pos)
  cases step <;> cases hasks
  case optional type => exact exec_optional σ type tag required ▸ hask ⟨tag, required, type, true⟩
  case decode type => exact exec_decode σ type tag required ▸ hask ⟨tag, required, type, false⟩
  case seek => exact ⟨_, readsField_seek.map Answer.sought, fun _ _ => by rw [exec]⟩
  case listLength | mapLength =>
    exact ⟨_, (readsField_field _).map Answer.length, fun _ _ => by rw [exec]; rfl⟩
  case enterStruct =>
    exact ⟨_, ((readsField_field _).bind_pure Option.isSome).map Answer.entered,
      fun _ _ => by rw [exec]; rfl⟩

/-- An operation does the same from two places from which seeking its field does. -/
theorem exec_eq_of_seek_eq (hasks : step.asks = some (tag, required)) (hdepth : r.depth = s.depth)
    (h : seek tag required r = seek tag required s) : exec σ step r = exec σ step s := by
  obtain ⟨x, hx, hexec⟩ := exists_readsField_exec σ r.depth hasks
  calc exec σ step r = x r := hexec r.rest r.pos
    _ = x s := hx.eq_of_seek_eq h
    _ = exec σ step s := by rw [hdepth] at hexec; exact (hexec s.rest s.pos).symm

/-- An operation that asks for an optional field tells that it is absent, and stands where
    seeking it stopped. -/
theorem exec_of_seek_eq_none (hasks : step.asks = some (tag, false))
    (h : seek tag false r = .ok none s) : exec σ step r = .ok (step.absent σ) s := by
  obtain ⟨x, hx, hexec⟩ := exists_readsField_exec σ r.depth hasks
  exact (hexec r.rest r.pos).trans (hx.of_seek_eq_none h)

/-! ## Telling that a field is absent -/

/-- A computation that gives nothing has not found the field at a tag. -/
def TellsAbsent (tag : Tag) (required : Bool) {α : Type} (x : Read (Option α)) : Prop :=
  ∀ ⦃r s⦄, x r = .ok none s → seek tag required r = .ok none s

theorem tellsAbsent_field {α : Type} (payload : WireType → Read α) :
    TellsAbsent tag required (field tag required payload) := by
  intro r s h
  obtain ⟨o, t, hseek, hfield⟩ := exists_of_bind_eq_ok h
  cases o with
  | none =>
    cases hfield
    exact hseek
  | some type =>
    obtain ⟨a, -, hsome⟩ := exists_of_map_eq_ok hfield
    cases hsome

theorem TellsAbsent.map {α β : Type} {x : Read (Option α)} (hx : TellsAbsent tag required x)
    (f : α → β) : TellsAbsent tag required (do pure ((← x).map f)) := by
  intro r s h
  obtain ⟨o, t, hread, hpure⟩ := exists_of_bind_eq_ok h
  cases o with
  | none =>
    cases hpure
    exact hx hread
  | some a => cases hpure

/-- A check of what is read lets nothing through only if there was nothing. -/
theorem TellsAbsent.unsigned {α β : Type} {x : Read (Option α)} (hx : TellsAbsent tag required x)
    (toInt : α → Int) (bound : Nat) (target : String) (f : Nat → β) :
    TellsAbsent tag required (do
      let v ← x
      pure ((← Read.unsigned tag bound target (v.map toInt)).map f)) := by
  intro r s h
  obtain ⟨o, t, hread, hcheck⟩ := exists_of_bind_eq_ok h
  cases o with
  | none =>
    cases hcheck
    exact hx hread
  | some a =>
    dsimp only [Option.map_some, Read.unsigned] at hcheck
    split at hcheck <;> cases hcheck

theorem tellsAbsent_decodeInt (t : IntType) :
    TellsAbsent tag required (Schema.decodeInt tag required t) := by
  cases t
  case int8 | int16 | int32 | int64 => exact (tellsAbsent_field _).map _
  case uint8 | uint16 | uint32 => exact ((tellsAbsent_field _).unsigned _ _ _ _).map _

theorem tellsAbsent_readOptional (type : Ty) :
    TellsAbsent tag required (readOptional σ tag required type) := by
  cases type
  case bool => exact ((tellsAbsent_field _).map _).map _
  case int t => exact (tellsAbsent_decodeInt t).map _
  case float32 | float64 | string | bytes => exact (tellsAbsent_field _).map _
  case list | map | struct =>
    intro r s h
    have hsome : (some <$> σ.decode _ tag required : Read (Option Val)) r = .ok none s := h
    obtain ⟨v, -, hv⟩ := exists_of_map_eq_ok hsome
    cases hv

/-- Whether an answer says that there is no field. -/
def Answer.tellsAbsent : Answer → Bool
  | .sought none | .value _ none | .length none | .entered false => true
  | _ => false

/-- An operation that says so has not found the field, and stands where seeking it stopped. -/
theorem seek_of_tellsAbsent {a : Answer} (hasks : step.asks = some (tag, required))
    (h : exec σ step r = .ok a s) (ha : a.tellsAbsent) : seek tag required r = .ok none s := by
  cases step <;> cases hasks
  all_goals rw [exec] at h
  case seek =>
    obtain ⟨o, hseek, rfl⟩ := exists_of_map_eq_ok h
    cases o with
    | none => exact hseek
    | some type => cases ha
  case optional type =>
    obtain ⟨v, hread, rfl⟩ := exists_of_map_eq_ok h
    cases v with
    | none => exact tellsAbsent_readOptional σ type hread
    | some v => cases ha
  case listLength | mapLength =>
    obtain ⟨n, hread, rfl⟩ := exists_of_map_eq_ok h
    cases n with
    | none => exact tellsAbsent_field _ hread
    | some n => cases ha
  case enterStruct =>
    obtain ⟨present, hread, rfl⟩ := exists_of_map_eq_ok h
    obtain ⟨o, t, hfield, hpure⟩ := exists_of_bind_eq_ok hread
    cases o with
    | none =>
      cases hpure
      exact tellsAbsent_field _ hfield
    | some u =>
      cases hpure
      cases ha
  case decode =>
    obtain ⟨v, t, -, hpure⟩ := exists_of_bind_eq_ok h
    cases hpure
    cases ha

/-! ## Misses one after another -/

/-- Operations one after another, each of which asks for an optional field that is absent,
    take a reader from one place to another. -/
inductive Misses : List Step → Reader → Reader → Prop
  | none (r : Reader) : Misses [] r r
  | one {step : Step} {steps : List Step} {tag : Tag} {r s t : Reader} :
    step.asks = some (tag, false) → seek tag false r = .ok none s → Misses steps s t →
      Misses (step :: steps) r t

variable {misses : List Step}

theorem Misses.depth_eq (h : Misses misses r s) : s.depth = r.depth := by
  induction h with
  | none r => rfl
  | one _ hseek _ ih => exact ih.trans ((made_seek _ false).ahead_of_ok hseek).depth_eq

/-- Seeking a tag that none of the tags before it exceeds. -/
theorem Misses.seek_eq (h : Misses misses r s)
    (hle : ∀ m ∈ misses, ∀ t req, m.asks = some (t, req) → t ≤ tag) (required : Bool) :
    seek tag required s = seek tag required r := by
  induction h with
  | none r => rfl
  | one hasks hseek _ ih =>
    rw [List.forall_mem_cons] at hle
    exact (ih hle.2).trans ((passes_of_seek hseek).seek_eq (hle.1 _ _ hasks) required)

theorem Misses.skipToStructEnd_eq (h : Misses misses r s) :
    skipToStructEnd s = skipToStructEnd r := by
  induction h with
  | none r => rfl
  | one _ hseek _ ih => exact ih.trans (passes_of_seek hseek).skipToStructEnd_eq

/-- A script that begins with misses shows them, and goes on from where they end. -/
theorem Misses.exists_execAll (h : Misses misses r s) :
    ∃ entries, List.Forall₂ (fun m e => ∃ pos, e = Entry.passed (m.absent σ) pos) misses entries ∧
      ∀ later, execAll σ (misses ++ later) r = ((entries ++ ·) <$> execAll σ later) s := by
  induction h with
  | none r => exact ⟨[], .nil, fun later => by simp⟩
  | @one step steps tag r s t hasks hseek _ ih =>
    obtain ⟨entries, hentries, hexec⟩ := ih
    refine ⟨.passed (step.absent σ) s.pos :: entries, .cons ⟨s.pos, rfl⟩ hentries, fun later => ?_⟩
    rw [List.cons_append, execAll, bind_of_ok (exec_of_seek_eq_none σ hasks hseek), get_bind,
      bind_eq_of_eq (hexec later), map_eq_pure_bind, map_eq_pure_bind, bind_assoc]
    rfl

/-! ## Nothing is hidden -/

/-- A field that is asked for and absent hides nothing from what comes after:

    * seeking a tag that is no lower does the same from where the miss ended as from where
      it began;
    * an operation that tells that an optional field is absent is such a miss;
    * after any misses one after another, whatever asks for a tag that is not below theirs
      and what skips to the end of the struct do as if there had been no misses, and a
      script only shows the misses in addition. -/
theorem misses_hide_nothing :
    (∀ t u r s, t ≤ u → seek t false r = .ok none s →
      ∀ required, seek u required s = seek u required r) ∧
    (∀ step tag r s a, step.asks = some (tag, false) → exec σ step r = .ok a s →
      a.tellsAbsent → Misses [step] r s) ∧
    ∀ misses r s, Misses misses r s →
      skipToStructEnd s = skipToStructEnd r ∧
      ∀ step tag required, step.asks = some (tag, required) →
        (∀ m ∈ misses, ∀ t req, m.asks = some (t, req) → t ≤ tag) →
        exec σ step s = exec σ step r ∧
        ∃ entries,
          List.Forall₂ (fun m e => ∃ pos, e = Entry.passed (m.absent σ) pos) misses entries ∧
          ∀ later, execAll σ (misses ++ step :: later) r =
            ((entries ++ ·) <$> execAll σ (step :: later)) r := by
  refine ⟨fun t u r s htu h required => (passes_of_seek h).seek_eq htu required,
    fun step tag r s a hasks h ha => .one hasks (seek_of_tellsAbsent σ hasks h ha) (.none s),
    fun misses r s h => ⟨h.skipToStructEnd_eq, fun step tag required hasks hle => ?_⟩⟩
  have hexec : exec σ step s = exec σ step r :=
    exec_eq_of_seek_eq σ hasks h.depth_eq (h.seek_eq hle required)
  refine ⟨hexec, ?_⟩
  obtain ⟨entries, hentries, hall⟩ := h.exists_execAll σ
  refine ⟨entries, hentries, fun later => ?_⟩
  rw [hall]
  have hlater : execAll σ (step :: later) s = execAll σ (step :: later) r := by
    rw [execAll]
    exact bind_eq_of_eq hexec
  rw [map_eq_pure_bind]
  exact bind_eq_of_eq hlater

/-- Three fields are asked for where there are only fields with tags 1, 3 and 9, the second
    of them a list of texts. -/
theorem misses_hide_nothing_of_three :
    let r := Reader.ofBytes [0x10, 0x05, 0x39, 0x00, 0x01, 0x06, 0x01, 0x41, 0x9A, 0x0B]
    let s : Reader := ⟨[0x39, 0x00, 0x01, 0x06, 0x01, 0x41, 0x9A, 0x0B], 2, 0⟩
    let t : Reader := ⟨[0x9A, 0x0B], 8, 0⟩
    let misses : List Step :=
      [.optional (.int .int32) 2 false, .listLength 5 false, .optional .string 8 false]
    let found := Step.enterStruct 9 true
    Misses misses r t ∧ seek 9 true t = seek 9 true s ∧ skipToStructEnd t = skipToStructEnd r ∧
      exec [] found t = .ok (.entered true) ⟨[0x0B], 9, 0⟩ ∧
      exec [] found r = .ok (.entered true) ⟨[0x0B], 9, 0⟩ := by
  intro r s t misses found
  obtain ⟨hseek, hone, hall⟩ := misses_hide_nothing []
  have hfirst : seek 2 false r = .ok none s := rfl
  have hsecond : seek 5 false ⟨[0x39, 0x00, 0x01, 0x06, 0x01, 0x41, 0x9A, 0x0B], 2, 0⟩ =
      .ok none t := rfl
  have hmisses : Misses misses r t :=
    .one rfl hfirst <| .one rfl hsecond <| hone _ 8 t t (.value .string none) rfl rfl rfl
  obtain ⟨hskip, hlater⟩ := hall misses r t hmisses
  have hle : ∀ m ∈ misses, ∀ t req, m.asks = some (t, req) → t ≤ 9 := by
    simp [misses, Step.asks]
  have hfound : exec [] found t = .ok (.entered true) ⟨[0x0B], 9, 0⟩ := rfl
  exact ⟨hmisses, hseek 5 9 s t (by decide) hsecond true, hskip, hfound,
    (hlater found 9 true rfl hle).1.symm.trans hfound⟩

end Script

end TaggedRpc.Wire
