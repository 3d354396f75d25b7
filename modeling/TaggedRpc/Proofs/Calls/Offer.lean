import TaggedRpc.Client.Call
import TaggedRpc.Proofs.Calls.Callback
import TaggedRpc.Proofs.Calls.Interleaving
import TaggedRpc.Proofs.Filter.Behaviour

/-!
# Callbacks behind filters

A call for a callback goes through a chain of filters. Its callback is *offered* to the last step,
which takes it when it is reached for the first time, and refuses to be reached again. So it is the
first time there that decides whether the callback will run: once, if the request is queued, and not
at all otherwise. But it is the outermost filter that decides what the call returns.

The steps are those of the chain (`Way`), which goes on when the last step has an outcome for it,
and those of the call that the last step makes, of its timer and of others (`Callback.Step`). The
adapter is open, so nobody fails all calls.

Whatever the filters do, the callback runs once at most. If every filter is faithful, it runs once
after the call has succeeded, and does not run when the call has failed, unless something has won
the slot before the guard (`Offer.contract`). A filter that succeeds without going on, and one that
fails after the request has been queued, break this promise (`Offer.not_contract`).
-/

namespace TaggedRpc

@[simp] theorem Adapter.closed_finishCall (a : Adapter) (number : Nat) (success : Bool)
    (now : Nat) : (a.finishCall number success now).closed = a.closed := closed_modifyConnection

theorem Winner.closed_finish (x : Winner) (degraded : Bool) (sentOn : Option Nat) (now : Nat)
    (a : Adapter) : (x.finish degraded sentOn now a).closed = a.closed := by
  cases x with
  | answer =>
    rw [finish]
    split <;> exact a.closed_finishCall _ true now
  | timer => exact a.closed_finishCall _ false now
  | guard | failure => rfl

theorem Contest.closed_take (c : Contest) (id : Int32) (x : Winner) :
    (c.take id x).adapter.closed = c.adapter.closed := by
  cases h : c.slot id with
  | some w => rw [take_of_slot_eq_some h]
  | none => rw [take_of_slot_eq_none h]

namespace Callback

open Relation (ReflTransGen)

variable {r : Request} {degraded : Bool} {w w' : Callback} {x : Winner}

/-- A call that has returned stays so. -/
theorem Step.stage_of_returned (hstep : Step r degraded w w') {result : Except RpcError Unit}
    (h : w.stage = .returned result) : w'.stage = .returned result := by
  cases hstep with
  | send hstage | fail hstage | queued hstage => exact nomatch hstage.symm.trans h
  | _ => exact h

/-- What somebody has won goes to the callback. -/
def Delivered (w : Callback) : Prop :=
  ∀ x, w.contest.winner = some x → w.contest.hand = some x ∨ w.ran ≠ [] ∨ x = .guard

theorem Delivered.start (r : Request) (a : Adapter) : Delivered (start r a) := nofun

theorem Delivered.take (hd : w.Delivered) (inv : Inv r w) (x : Winner) {stage : Stage} :
    Delivered { w with contest := w.contest.take r.requestId x, stage } := by
  rcases inv.sound.take_cases x with ⟨-, heq⟩ | ⟨-, hwinner, hhand⟩
  · intro y hy
    rw [heq] at hy ⊢
    exact hd y hy
  · intro y hy
    cases hwinner.symm.trans hy
    exact .inl hhand

theorem Delivered.step (hd : w.Delivered) (inv : Inv r w) (hstep : Step r degraded w w') :
    w'.Delivered := by
  cases hstep with
  | send | queued => exact hd
  | fail | expire => exact hd.take inv _
  | run =>
    exact fun _ _ => .inr (.inl (List.append_ne_nil_of_right_ne_nil _ (List.cons_ne_nil _ _)))
  | drop hhand =>
    intro y hy
    cases (inv.sound.hand _ hhand).symm.trans hy
    exact .inr (.inr rfl)
  | others hothers =>
    intro y hy
    rcases hothers.winner_cases inv.sound with ⟨hwinner, hhand⟩ | ⟨-, x, -, hwinner, hhand⟩
    · rw [hhand]
      exact hd y (hwinner ▸ hy)
    · cases hwinner.symm.trans hy
      exact .inl hhand

/-- A step on an adapter that stays open, where nobody fails all calls. -/
def Calm (r : Request) (degraded : Bool) (w w' : Callback) : Prop :=
  Step r degraded w w' ∧ w'.adapter.closed = false ∧ w'.contest.winner ≠ some .failure

/-- Who has a callback in hand can run it. -/
theorem Inv.exists_calm_run (inv : Inv r w) (degraded : Bool) (hopen : w.adapter.closed = false)
    (hhand : w.contest.hand = some x) (hguard : x ≠ .guard) (hfailure : x ≠ .failure) :
    ∃ w', Calm r degraded w w' ∧ w'.ran.length = 1 := by
  have hwinner := inv.sound.hand x hhand
  have hran : w.ran = [] := by
    rcases inv.ran with hran | ⟨hnone, -⟩
    · exact hran
    · exact nomatch hnone.symm.trans hhand
  have houtcome : ∃ o, x.outcome r.requestId = some o := by
    cases x with
    | guard => exact absurd rfl hguard
    | _ => exact ⟨_, rfl⟩
  obtain ⟨o, ho⟩ := houtcome
  refine ⟨_, ⟨.run 0 hhand ho, (Winner.closed_finish ..).trans hopen, fun h => ?_⟩, ?_⟩
  · exact hfailure (Option.some.inj (hwinner.symm.trans h))
  · rw [hran]
    rfl

/-- Who has won the slot of a call that has been queued still has the callback in hand, or has run
    it. -/
theorem Inv.hand_or_ran (inv : Inv r w) (hd : w.Delivered) (hstage : w.stage = .returned (.ok ()))
    (hwinner : w.contest.winner = some x) :
    w.contest.hand = some x ∧ x ≠ .guard ∨ w.ran.length = 1 := by
  have hguard := inv.allows x hwinner
  rw [hstage] at hguard
  rcases hd x hwinner with hhand | hran | hx
  · exact .inl ⟨hhand, hguard⟩
  · obtain hnil | ⟨-, y, o, -, -, hone⟩ := inv.ran
    · exact absurd hnil hran
    · exact .inr (by rw [hone]; rfl)
  · exact absurd hx hguard

/-- A call that has been queued settles, at the latest when its time is up, and its callback runs
    once. -/
theorem Inv.exists_calm_runs (inv : Inv r w) (degraded : Bool) (hd : w.Delivered)
    (hopen : w.adapter.closed = false) (hfailure : w.contest.winner ≠ some .failure)
    (hstage : w.stage = .returned (.ok ())) :
    ∃ w', ReflTransGen (Calm r degraded) w w' ∧ w'.ran.length = 1 := by
  cases hwinner : w.contest.winner with
  | none =>
    -- The timer wins.
    have hexpired : Step r degraded w
        { w with contest := w.contest.take r.requestId (.timer ⟨0⟩) } := .expire _ hstage
    rcases inv.sound.take_cases (.timer ⟨0⟩) with ⟨hsome, -⟩ | ⟨-, hwins, hhand⟩
    · rw [hwinner] at hsome
      exact nomatch hsome
    · have hopen' := (w.contest.closed_take r.requestId (.timer ⟨0⟩)).trans hopen
      obtain ⟨w', hrun, hran⟩ := (inv.step hexpired).exists_calm_run degraded hopen' hhand nofun
        nofun
      exact ⟨w', .tail (.single ⟨hexpired, hopen', by rw [hwins]; nofun⟩) hrun, hran⟩
  | some x =>
    obtain ⟨hhand, hguard⟩ | hran := inv.hand_or_ran hd hstage hwinner
    · obtain ⟨w', hrun, hran⟩ := inv.exists_calm_run degraded hopen hhand hguard
        fun hx => hfailure (hx ▸ hwinner)
      exact ⟨w', .single hrun, hran⟩
    · exact ⟨w, .refl, hran⟩

/-- When nobody has anything in hand any more, the callback has run once. -/
theorem Inv.length_ran (inv : Inv r w) (hd : w.Delivered) (hstage : w.stage = .returned (.ok ()))
    (hwinner : w.contest.winner = some x) (hhand : w.contest.hand = none) : w.ran.length = 1 :=
  (inv.hand_or_ran hd hstage hwinner).resolve_left fun h => nomatch h.1.symm.trans hhand

end Callback

/-! ## Offering a callback -/

namespace Offer

/-- How far a call for a callback has come. -/
inductive Stage where
  | entering
  /-- The filters still have this to do. -/
  | going (w : Way)
  /-- The last step is under way, and then the filters have this to do. -/
  | sending (after : Completion → Way)
  | returned (verdict : Except RpcError Unit)

/-- Where the callback of a call is. -/
inductive Holder where
  /-- The last step has not taken it. -/
  | offered (a : Adapter)
  /-- It will not run. -/
  | dropped
  /-- It is in the hands of a call. -/
  | calling (r : Request) (c : Callback)

end Offer

open Offer in
/-- A call for a callback, behind filters. -/
structure Offer where
  stage : Stage := .entering
  holder : Holder

namespace Offer

open Relation (ReflTransGen)

/-- What the callback was run with. -/
def ran (o : Offer) : List Outcome :=
  match o.holder with
  | .calling _ c => c.ran
  | _ => []

/-- A call that comes with an adapter to be selected. -/
def start (a : Adapter) : Offer := { holder := .offered a }

/-- What the servant is sent. -/
def sentRequest (v : Invocation) (timeout : Duration) : Request :=
  { v.request with timeout := timeout.clampedMillis }

/-- A step of the filters, of the last step, or of others. What becomes of the invocation is left
    open. -/
inductive Step (b : Behaviour) (v : Invocation) (timeout : Duration) (degraded : Bool) :
    Offer → Offer → Prop
  /-- Too many calls are under way. -/
  | overload {a : Adapter} (e : RpcError) :
      Step b v timeout degraded ⟨.entering, .offered a⟩ ⟨.returned (.error e), .dropped⟩
  | enter {a : Adapter} :
      Step b v timeout degraded ⟨.entering, .offered a⟩ ⟨.going (b v timeout), .offered a⟩
  | take {a : Adapter} {v' : Invocation} {t : Duration} {after : Completion → Way} :
      Step b v timeout degraded ⟨.going (.next v' t after), .offered a⟩
        ⟨.sending after, .calling (sentRequest v' t) (.start (sentRequest v' t) a)⟩
  /-- No endpoint could be selected. -/
  | refuse {a : Adapter} {v' : Invocation} {t : Duration} {after : Completion → Way}
      (e : RpcError) (v'' : Invocation) :
      Step b v timeout degraded ⟨.going (.next v' t after), .offered a⟩
        ⟨.going (after (.error e, v'')), .dropped⟩
  /-- The last step is reached again. -/
  | again {holder : Holder} {v' : Invocation} {t : Duration} {after : Completion → Way}
      (v'' : Invocation) : (∀ a, holder ≠ .offered a) →
      Step b v timeout degraded ⟨.going (.next v' t after), holder⟩
        ⟨.going (after (.error (.filter "callback call dispatched twice"), v'')), holder⟩
  /-- The last step has an outcome. -/
  | sent {r : Request} {c : Callback} {result : Except RpcError Unit}
      {after : Completion → Way} (v'' : Invocation) : c.stage = .returned result →
      Step b v timeout degraded ⟨.sending after, .calling r c⟩
        ⟨.going (after (result, v'')), .calling r c⟩
  | leave {holder : Holder} (c : Completion) :
      Step b v timeout degraded ⟨.going (.done c), holder⟩ ⟨.returned c.1, holder⟩
  | call {stage : Stage} {r : Request} {c c' : Callback} : c.Calm r degraded c' →
      Step b v timeout degraded ⟨stage, .calling r c⟩ ⟨stage, .calling r c'⟩
  /-- The adapter changes, and stays open. -/
  | elsewhere {stage : Stage} {a a' : Adapter} : a'.closed = false →
      Step b v timeout degraded ⟨stage, .offered a⟩ ⟨stage, .offered a'⟩

/-! ## What is kept -/

/-- What is known of a callback, whatever the filters do. -/
def Holder.Sound : Holder → Prop
  | .offered a => a.closed = false
  | .dropped => True
  | .calling r c => c.Inv r ∧ c.Delivered ∧ c.adapter.closed = false ∧
      c.contest.winner ≠ some .failure

/-- What the filters say agrees with what has become of the callback. -/
def Agrees : Stage → Holder → Prop
  | .entering, .offered _ => True
  | .going w, .offered _ => w.Faithful
  | .going w, .dropped => ∃ e v, w = .done (.error e, v)
  | .going w, .calling _ c => ∃ d result, w = .done d ∧ c.stage = .returned result ∧
      d.1.isOk = result.isOk
  | .sending after, .calling _ _ => ∀ d, ∃ d', after d = .done d' ∧ d'.1.isOk = d.1.isOk
  | .returned verdict, .dropped => verdict.isOk = false
  | .returned verdict, .calling _ c => ∃ result, c.stage = .returned result ∧
      verdict.isOk = result.isOk
  | _, _ => False

variable {b : Behaviour} {v : Invocation} {timeout : Duration} {degraded : Bool} {o o' : Offer}
  {a : Adapter}

theorem sound_step (hs : o.holder.Sound) (hstep : Step b v timeout degraded o o') :
    o'.holder.Sound := by
  cases hstep with
  | overload | refuse => exact trivial
  | enter | again | sent | leave => exact hs
  | take => exact ⟨.start _ _, .start _ _, hs, nofun⟩
  | call hcalm =>
    obtain ⟨inv, hd, -, -⟩ := hs
    exact ⟨inv.step hcalm.1, hd.step inv hcalm.1, hcalm.2⟩
  | elsewhere hopen => exact hopen

/-- A step behind faithful filters. They go on once, so what they say in the end is what the last
    step has said. -/
theorem agrees_step (hfaithful : (b v timeout).Faithful) (ha : Agrees o.stage o.holder)
    (hstep : Step b v timeout degraded o o') : Agrees o'.stage o'.holder := by
  cases hstep with
  | overload => exact rfl
  | enter => exact hfaithful
  | take =>
    obtain ⟨hafter⟩ := (ha : Way.Faithful _)
    exact hafter
  | refuse e v'' =>
    obtain ⟨hafter⟩ := (ha : Way.Faithful _)
    obtain ⟨⟨verdict, v'⟩, hdone, hsame⟩ := hafter (.error e, v'')
    cases verdict with
    | ok => exact nomatch hsame
    | error e' => exact ⟨e', v', hdone⟩
  | @again holder _ _ _ _ hnot =>
    -- A faithful chain has nothing more to do when the callback has been taken.
    cases holder with
    | offered a => exact absurd rfl (hnot a)
    | dropped =>
      obtain ⟨e, v', hdone⟩ := ha
      exact nomatch hdone
    | calling r c =>
      obtain ⟨d, result, hdone, -⟩ := ha
      exact nomatch hdone
  | sent v'' hreturned =>
    obtain ⟨d, hdone, hsame⟩ := ha (_, v'')
    exact ⟨d, _, hdone, hreturned, hsame⟩
  | @leave holder d =>
    cases holder with
    | offered a => exact nomatch (ha : Way.Faithful _)
    | dropped =>
      obtain ⟨e, v', hdone⟩ := ha
      cases hdone
      rfl
    | calling r c =>
      obtain ⟨d', result, hdone, hrest⟩ := ha
      cases hdone
      exact ⟨result, hrest⟩
  | @call stage r c c' hcalm =>
    cases stage with
    | entering => exact ha
    | going w =>
      obtain ⟨d, result, hdone, hreturned, hsame⟩ := ha
      exact ⟨d, result, hdone, hcalm.1.stage_of_returned hreturned, hsame⟩
    | sending after => exact ha
    | returned verdict =>
      obtain ⟨result, hreturned, hsame⟩ := ha
      exact ⟨result, hcalm.1.stage_of_returned hreturned, hsame⟩
  | @elsewhere stage a a' =>
    cases stage <;> exact ha

theorem sound_steps (hopen : a.closed = false)
    (hs : ReflTransGen (Step b v timeout degraded) (start a) o) : o.holder.Sound := by
  induction hs with
  | refl => exact hopen
  | tail _ hstep ih => exact sound_step ih hstep

theorem agrees_steps (hfaithful : (b v timeout).Faithful)
    (hs : ReflTransGen (Step b v timeout degraded) (start a) o) : Agrees o.stage o.holder := by
  induction hs with
  | refl => exact trivial
  | tail _ hstep ih => exact agrees_step hfaithful ih hstep

/-- Where the callback is when the call has returned. -/
theorem Agrees.returned {verdict : Except RpcError Unit} {holder : Holder}
    (ha : Agrees (.returned verdict) holder) : holder = .dropped ∧ verdict.isOk = false ∨
      ∃ r c result, holder = .calling r c ∧ c.stage = .returned result ∧
        verdict.isOk = result.isOk := by
  cases holder with
  | offered => exact absurd ha id
  | dropped => exact .inl ⟨rfl, ha⟩
  | calling r c =>
    obtain ⟨result, hstage, hsame⟩ := ha
    exact .inr ⟨r, c, result, rfl, hstage, hsame⟩

/-- The steps of a call are steps behind the filters. -/
theorem steps_call {stage : Stage} {r : Request} {c c' : Callback}
    (hs : ReflTransGen (Callback.Calm r degraded) c c') :
    ReflTransGen (Step b v timeout degraded) ⟨stage, .calling r c⟩ ⟨stage, .calling r c'⟩ := by
  induction hs with
  | refl => exact .refl
  | tail _ hcalm ih => exact ih.tail (.call hcalm)

/-- Once the last step has been reached, the filters go on with it as with
    `Client.dispatchCallback` after the offer has been taken. -/
theorem steps_run {out : Outside} {number : Nat} {offer : Int32} {label : String} {c : Client}
    {holder : Holder} (hoffer : offer ∉ c.offered) (hholder : ∀ a, holder ≠ .offered a) (w : Way) :
    ReflTransGen (Step b v timeout degraded) ⟨.going w, holder⟩
      ⟨.returned (w.run (Client.dispatchCallback out number offer label) c).1.1, holder⟩ := by
  induction w with
  | done d => exact .single (.leave d)
  | next v' t after ih =>
    have hagain : Client.dispatchCallback out number offer label v' t c =
        ((.error (.filter "callback call dispatched twice"), v'), c) := by
      show (ite (offer ∉ c.offered) (pure _) _ : StateM Client Completion) c = _
      rw [if_pos hoffer]
      rfl
    rw [Way.run_next, hagain]
    exact .head (.again v' hholder) (ih _)

/-! ## What a call promises -/

/-- Whether somebody has won the slot of the call that the last step has made, and has nothing in
    hand any more. -/
def IsSettled (o : Offer) : Prop :=
  ∃ r c, o.holder = .calling r c ∧ c.contest.winner.isSome ∧ c.contest.hand = none

/-- Whether something that is not the call has won its slot. -/
def IsForeign (o : Offer) : Prop :=
  ∃ r c x, o.holder = .calling r c ∧ c.contest.winner = some x ∧ x.isOwn = false

/-- What a call for a callback promises behind some filters. -/
structure Contract (bs : List Behaviour) (v : Invocation) (timeout : Duration) (degraded : Bool)
    (o : Offer) : Prop where
  /-- The callback runs once at most. -/
  once : o.ran.length ≤ 1
  /-- If the first request that reached the last step was queued, the callback runs once, whatever
      the call returns. -/
  queued : ∀ r c, o.holder = .calling r c → c.stage = .returned (.ok ()) →
    (o.IsSettled → o.ran.length = 1) ∧
    ∃ o', ReflTransGen (Step (Way.chain bs) v timeout degraded) o o' ∧ o'.ran.length = 1
  /-- If it was not, the callback does not run, unless something else was faster than the guard. -/
  unsent : ∀ r c e, o.holder = .calling r c → c.stage = .returned (.error e) →
    o.ran = [] ∨ o.IsForeign
  /-- Behind faithful filters, the callback of a call that has succeeded runs once. -/
  succeeded : (∀ b ∈ bs, ∀ v timeout, (b v timeout).Faithful) → o.stage = .returned (.ok ()) →
    (o.IsSettled → o.ran.length = 1) ∧
    ∃ o', ReflTransGen (Step (Way.chain bs) v timeout degraded) o o' ∧ o'.ran.length = 1
  /-- Behind faithful filters, that of a call that has failed does not run. -/
  failed : (∀ b ∈ bs, ∀ v timeout, (b v timeout).Faithful) → ∀ e,
    o.stage = .returned (.error e) → o.ran = [] ∨ o.IsForeign

theorem Holder.Sound.once (hs : o.holder.Sound) : o.ran.length ≤ 1 := by
  obtain ⟨stage, holder⟩ := o
  cases holder with
  | offered | dropped => exact Nat.zero_le 1
  | calling r c =>
    show c.ran.length ≤ 1
    rcases hs.1.ran with hran | ⟨-, x, outcome, -, -, hran⟩
    · rw [hran]
      exact Nat.zero_le 1
    · rw [hran]
      exact Nat.le_refl 1

theorem Holder.Sound.queued (hs : o.holder.Sound) {r : Request} {c : Callback}
    (hcalling : o.holder = .calling r c) (hstage : c.stage = .returned (.ok ())) :
    (o.IsSettled → o.ran.length = 1) ∧
      ∃ o', ReflTransGen (Step b v timeout degraded) o o' ∧ o'.ran.length = 1 := by
  obtain ⟨stage, holder⟩ := o
  cases hcalling
  obtain ⟨inv, hd, hopen, hfailure⟩ := hs
  refine ⟨?_, ?_⟩
  · rintro ⟨r, c, ⟨⟩, hwinner, hhand⟩
    obtain ⟨x, hx⟩ := Option.isSome_iff_exists.1 hwinner
    exact inv.length_ran hd hstage hx hhand
  · obtain ⟨c', hcalm, hran⟩ := inv.exists_calm_runs degraded hd hopen hfailure hstage
    exact ⟨_, steps_call hcalm, hran⟩

theorem Holder.Sound.unsent (hs : o.holder.Sound) {r : Request} {c : Callback} {e : RpcError}
    (hcalling : o.holder = .calling r c) (hstage : c.stage = .returned (.error e)) :
    o.ran = [] ∨ o.IsForeign := by
  obtain ⟨stage, holder⟩ := o
  cases hcalling
  obtain ⟨x, hx⟩ := Option.isSome_iff_exists.1 (hs.1.failed e hstage)
  have hallows := hs.1.allows x hx
  rw [hstage] at hallows
  rcases hallows with rfl | hforeign
  · -- The guard has nothing for the callback.
    refine .inl (hs.1.ran.resolve_right ?_)
    rintro ⟨-, y, outcome, hy, houtcome, -⟩
    cases hx.symm.trans hy
    exact nomatch houtcome
  · exact .inr ⟨r, c, x, rfl, hx, hforeign⟩

/-- A call for a callback keeps what it promises, as far as its filters agree with the last step. -/
theorem contract {bs : List Behaviour} (hopen : a.closed = false)
    (hs : ReflTransGen (Step (Way.chain bs) v timeout degraded) (start a) o) :
    Contract bs v timeout degraded o where
  once := (sound_steps hopen hs).once
  queued _ _ hcalling hstage := (sound_steps hopen hs).queued hcalling hstage
  unsent _ _ _ hcalling hstage := (sound_steps hopen hs).unsent hcalling hstage
  succeeded hfaithful hreturned := by
    have hagrees := agrees_steps (Way.faithful_chain hfaithful v timeout) hs
    rw [hreturned] at hagrees
    obtain ⟨-, hverdict⟩ | ⟨r, c, result, hcalling, hstage, hsame⟩ := hagrees.returned
    · exact nomatch hverdict
    · cases result with
      | ok => exact (sound_steps hopen hs).queued hcalling hstage
      | error => exact nomatch hsame
  failed hfaithful e hreturned := by
    have hagrees := agrees_steps (Way.faithful_chain hfaithful v timeout) hs
    rw [hreturned] at hagrees
    obtain ⟨hdropped, -⟩ | ⟨r, c, result, hcalling, hstage, hsame⟩ := hagrees.returned
    · exact .inl (by rw [ran, hdropped])
    · cases result with
      | ok => exact nomatch hsame
      | error => exact (sound_steps hopen hs).unsent hcalling hstage

/-- An invocation, and an adapter that has not dialled yet. -/
def invocation : Invocation := { (default : Invocation) with request := Callback.request }

/-- The last step has queued the request, and the time is up before the filters go on. -/
theorem exists_steps_expired (b : Behaviour) (v : Invocation) (timeout : Duration)
    (after : Completion → Way) : ∃ r c,
    ReflTransGen (Step b v timeout false)
      ⟨.going (.next invocation ⟨0⟩ after), .offered Callback.fresh⟩
      ⟨.sending after, .calling r c⟩ ∧
    c.stage = .returned (.ok ()) ∧ c.ran = [.error (.timeout 7 ⟨0⟩)] ∧
    c.contest.winner.isSome ∧ c.contest.hand = none := by
  have taken : ReflTransGen (Step b v timeout false)
      ⟨.going (.next invocation ⟨0⟩ after), .offered Callback.fresh⟩ _ := .single .take
  have entered := taken.tail (.call ⟨.send rfl (.enter rfl), rfl, nofun⟩)
  have counted := entered.tail (.call ⟨.send rfl (.count _), rfl, nofun⟩)
  have routed := counted.tail (.call ⟨.send rfl (.route _), rfl, nofun⟩)
  have checked := routed.tail (.call ⟨.send rfl (.check rfl rfl), rfl, nofun⟩)
  have dialling := checked.tail (.call ⟨.send rfl (.dial rfl rfl), rfl, nofun⟩)
  have dialled := dialling.tail
    (.call ⟨.send rfl (.reach (d := fun _ _ => .ok ()) rfl rfl), rfl, nofun⟩)
  have connected := dialled.tail (.call ⟨.send rfl (.publish _ _ 0), rfl, nofun⟩)
  have enqueuing := connected.tail (.call ⟨.send rfl (.issue _ 0), rfl, nofun⟩)
  have queued := enqueuing.tail (.call ⟨.send rfl (.enqueue rfl rfl), rfl, nofun⟩)
  have returned := queued.tail (.call ⟨.queued rfl, rfl, nofun⟩)
  have expired := returned.tail (.call ⟨.expire ⟨0⟩ rfl, rfl, nofun⟩)
  have ran := expired.tail (.call ⟨.run 0 rfl rfl, rfl, nofun⟩)
  exact ⟨_, _, ran, rfl, rfl, rfl, rfl⟩

/-- A call behind a filter that goes on is queued and succeeds, and its callback runs when its time
    is up. -/
theorem contract_pass : ∃ o, Contract [.pass] invocation ⟨0⟩ false o ∧
    (∀ b ∈ [Behaviour.pass], ∀ v timeout, (b v timeout).Faithful) ∧
    o.stage = .returned (.ok ()) ∧ o.IsSettled ∧ o.ran = [.error (.timeout 7 ⟨0⟩)] := by
  obtain ⟨r, c, hexpired, hreturned, hran, hsettled⟩ := exists_steps_expired
    (Way.chain [.pass]) invocation ⟨0⟩ fun d => .done d
  have entered : ReflTransGen (Step (Way.chain [.pass]) invocation ⟨0⟩ false)
      (start Callback.fresh) _ := .single .enter
  have sent := (entered.trans hexpired).tail (.sent invocation hreturned)
  have left := sent.tail (.leave _)
  refine ⟨_, contract rfl left, ?_, rfl, ⟨r, c, rfl, hsettled⟩, hran⟩
  exact List.forall_mem_singleton.2 fun _ _ => .intro fun d => ⟨d, rfl, rfl⟩

/-- A call that has returned without reaching the last step never runs its callback. -/
theorem ran_eq_nil_of_returned {verdict : Except RpcError Unit}
    (hs : ReflTransGen (Step b v timeout degraded) ⟨.returned verdict, .offered a⟩ o) :
    o.ran = [] := by
  have hoffered : ∃ a, o = ⟨.returned verdict, .offered a⟩ := by
    induction hs with
    | refl => exact ⟨a, rfl⟩
    | tail _ hstep ih =>
      obtain ⟨a, rfl⟩ := ih
      cases hstep with
      | elsewhere => exact ⟨_, rfl⟩
  obtain ⟨a, rfl⟩ := hoffered
  rfl

/-- Behind some filters a call succeeds and its callback never runs, or it fails and the callback
    runs. -/
theorem not_contract :
    (¬ ∀ (bs : List Behaviour) (v : Invocation) (timeout : Duration) (o : Offer),
      ReflTransGen (Step (Way.chain bs) v timeout false) (start Callback.fresh) o →
      o.stage = .returned (.ok ()) →
      ∃ o', ReflTransGen (Step (Way.chain bs) v timeout false) o o' ∧ o'.ran.length = 1) ∧
    ¬ ∀ (bs : List Behaviour) (v : Invocation) (timeout : Duration) (o : Offer),
      ReflTransGen (Step (Way.chain bs) v timeout false) (start Callback.fresh) o →
      ∀ e, o.stage = .returned (.error e) → o.ran = [] := by
  refine ⟨fun hruns => ?_, fun hsilent => ?_⟩
  · have entered : ReflTransGen (Step (Way.chain [.skip]) invocation ⟨0⟩ false)
        (start Callback.fresh) _ := .single .enter
    have skipped := entered.tail (.leave (.ok (), invocation))
    obtain ⟨o', hs, hran⟩ := hruns _ _ _ _ skipped rfl
    rw [ran_eq_nil_of_returned hs] at hran
    exact nomatch hran
  · obtain ⟨r, c, hexpired, hreturned, hran, -⟩ := exists_steps_expired
      (Way.chain [.failAfter .shutdown]) invocation ⟨0⟩ fun d => .done (.error .shutdown, d.2)
    have entered : ReflTransGen (Step (Way.chain [.failAfter .shutdown]) invocation ⟨0⟩ false)
        (start Callback.fresh) _ := .single .enter
    have sent := (entered.trans hexpired).tail (.sent invocation hreturned)
    have left := sent.tail (.leave _)
    exact nomatch hran.symm.trans (hsilent _ _ _ _ left _ rfl)

end Offer

end TaggedRpc
