import TaggedRpc.Proofs.Manager.Interleaving

/-!
# Operations on their own

An operation on a manager whose steps are not interleaved with those of others does what
`Manager` says that it does: from a manager on which nothing is under way, there is a run
to the manager that the operation makes, again with nothing under way
(`Manager.Step.run`). So whatever holds of all runs among threads holds of the runs of
operations one after another.
-/

namespace TaggedRpc.Manager

open Selection

variable {m m' : Manager} {P : Scene → Prop}

namespace Scene

open Relation (ReflTransGen)

/-- A kind of scenes to which all those belong in which one task at most is under way. -/
def Solo (P : Scene → Prop) : Prop := ∀ (m : Manager) (t : Option Task), P ⟨m, t.toList⟩

/-! ## A place in the pool -/

section Place

variable {before after : List Adapter} {a : Adapter} {key : String}

theorem adapter?_middle (hkey : a.key = key) (hpool : m.adapters = before ++ a :: after)
    (hkeys : (m.adapters.map Adapter.key).Nodup) : m.adapter? key = some a := by
  subst hkey
  rw [hpool, List.map_append, List.map_cons, List.nodup_append] at hkeys
  have hbefore : before.find? (fun x => x.key == a.key) = none := by
    refine List.find?_eq_none.2 fun x hx hkey => ?_
    exact hkeys.2.2 _ (List.mem_map_of_mem hx) _ List.mem_cons_self (beq_iff_eq.1 hkey)
  rw [adapter?, hpool, List.find?_append, hbefore, Option.none_or, List.find?_cons,
    beq_self_eq_true]

/-- The keys stay different when the adapter at a place changes. -/
theorem nodup_middle (hpool : m.adapters = before ++ a :: after)
    (hkeys : (m.adapters.map Adapter.key).Nodup) {a' : Adapter} (ha' : a'.key = a.key) :
    ((before ++ a' :: after).map Adapter.key).Nodup := by
  rwa [List.map_append, List.map_cons, ha', ← List.map_cons, ← List.map_append, ← hpool]

theorem modifyAdapter_middle (hkey : a.key = key) (hpool : m.adapters = before ++ a :: after)
    (hkeys : (m.adapters.map Adapter.key).Nodup) (a' : Adapter) :
    m.modifyAdapter key (fun _ => a') = { m with adapters := before ++ a' :: after } := by
  subst hkey
  rw [hpool, List.map_append, List.map_cons, List.nodup_append, List.nodup_cons] at hkeys
  have hbefore : ∀ x ∈ before, (if x.key = a.key then a' else x) = x := fun x hx =>
    if_neg fun hkey => hkeys.2.2 _ (List.mem_map_of_mem hx) _ List.mem_cons_self hkey
  have hafter : ∀ x ∈ after, (if x.key = a.key then a' else x) = x := fun x hx =>
    if_neg fun hkey : x.key = a.key => hkeys.2.1.1 (hkey ▸ List.mem_map_of_mem hx)
  rw [modifyAdapter, hpool, List.map_append, List.map_cons, if_pos rfl,
    List.map_congr_left hbefore, List.map_congr_left hafter, List.map_id', List.map_id']

end Place

variable (hP : Solo P)
include hP

theorem run_start {t : Task} (h : Task.Start m m' t) : Run P ⟨m, []⟩ ⟨m', [t]⟩ :=
  .single ⟨.start h fun _ => List.forall_mem_nil _, hP m' (some t)⟩

theorem run_go {t : Task} {t' : Option Task} (h : Task.Step m t m' t') :
    Run P ⟨m, [t]⟩ ⟨m', t'.toList⟩ := by
  have hstep := Step.go [] [] h
  rw [List.append_nil] at hstep
  exact .single ⟨hstep, hP m' t'⟩

theorem run_serve {t : Task} (h : Serves m m') : Run P ⟨m, [t]⟩ ⟨m', [t]⟩ :=
  .single ⟨.serve h, hP m' (some t)⟩

/-! ## Refreshes and revivals -/

theorem run_rebuildAlive (m : Manager) (refresh : Bool) (draw : Nat) :
    Run P ⟨m, [.rebuilding refresh]⟩ ⟨m.rebuildAlive draw, []⟩ :=
  (run_go hP (.build m refresh draw)).trans (run_go hP (.publish m refresh _))

theorem run_apply (hdirect : m.direct = false) (hopen : m.closed = false) (r : Roster)
    (draw now : Nat) : Run P ⟨m, []⟩ ⟨(m.apply r draw now).2, []⟩ := by
  rw [Manager.apply]
  split
  · exact .refl
  · next hactive =>
    dsimp only
    split
    · exact .refl
    · next hnew =>
      refine (run_start hP (.refresh hdirect hopen ?_ ?_)).trans
        ((run_go hP (.evict _ now)).trans (run_rebuildAlive hP _ true draw))
      · exact eq_false_of_ne_true hactive
      · exact eq_false_of_ne_true hnew

theorem run_refresh (hopen : m.closed = false) (s : Sources) (draw now : Nat) :
    Run P ⟨m, []⟩ ⟨(m.refresh s draw now).2.2, []⟩ := by
  rw [Manager.refresh]
  split
  · exact .refl
  · next hasked =>
    have hdirect : m.direct = false := by
      rw [Bool.or_eq_true, not_or] at hasked
      exact eq_false_of_ne_true hasked.1
    split
    · exact .refl
    · dsimp only
      split
      · exact .refl
      · exact run_apply hP hdirect hopen _ draw now

theorem run_addAlive (m : Manager) (healed : Bool) (e : Endpoint) (draw : Nat) :
    Run P ⟨m, [.adding healed e]⟩ ⟨m.addAlive e draw, []⟩ := by
  rw [Manager.addAlive]
  dsimp only
  split
  · next hmissing =>
    rw [Bool.and_eq_true, Bool.not_eq_true'] at hmissing
    obtain ⟨hactive, halive⟩ := hmissing
    exact (run_go hP (.miss halive)).trans
      ((run_go hP (.restore hactive)).trans (run_rebuildAlive hP m false draw))
  · next hnot =>
    rw [Bool.and_eq_true, Bool.not_eq_true', not_and, Bool.not_eq_false] at hnot
    cases halive : m.alive.endpoints.any fun x => decide (x.Same e) with
    | true => exact run_go hP (.seen halive)
    | false =>
      have hinactive := mt hnot (ne_true_of_eq_false halive)
      exact (run_go hP (.miss halive)).trans (run_go hP (.reject (eq_false_of_ne_true hinactive)))

theorem run_revive (m : Manager) (e : Endpoint) (draw now : Nat) : Run P ⟨m, []⟩
    ⟨(m.onAdapter? e.key fun a => ((), a.heal now)).2.addAlive e draw, []⟩ := by
  rw [onAdapter?]
  cases ha : m.adapter? e.key with
  | none => exact (run_start hP (.add m e)).trans (run_addAlive hP m false e draw)
  | some a => exact (run_start hP (.revive now ha)).trans (run_addAlive hP _ true e draw)

/-! ## Selections -/

/-- A selection that looks for a healthy endpoint finds the first one. -/
theorem run_firstHealthy (now : Nat) (es : List Endpoint) (m : Manager) :
    Run P ⟨m, [.walking es]⟩ ⟨(m.firstHealthy now es).2, [match (m.firstHealthy now es).1 with
      | some e => .answered (.ok (e.key, false))
      | none => .walking []]⟩ := by
  induction es generalizing m with
  | nil => exact .refl
  | cons e es ih =>
    rw [firstHealthy]
    dsimp only
    split
    · exact run_go hP (.take m e now)
    · exact (run_go hP (.pass m e now)).trans (ih _)

theorem run_degrade (m : Manager) (draw now : Nat) : Run P ⟨m, [.walking []]⟩
    ⟨(m.degrade draw now).2, [.answered (m.degrade draw now).1]⟩ := by
  rw [Manager.degrade]
  split
  · next hnot =>
    rw [Bool.not_eq_true'] at hnot
    exact run_go hP (.giveUp (.inl hnot))
  · next hdegrade =>
    rw [Bool.not_eq_true', Bool.not_eq_false] at hdegrade
    split
    · next e he =>
      exact (run_go hP (.degrade draw hdegrade he)).trans (run_go hP (.settle m e now))
    · next hnone =>
      refine run_go hP (.giveUp (.inr ?_))
      -- A number modulo the length is a position, unless there are none.
      rw [List.getElem?_eq_none_iff] at hnone
      by_contra hne
      exact absurd hnone (Nat.not_le.2 (Nat.mod_lt _ (List.length_pos_iff.2 hne)))

theorem run_select (hopen : m.closed = false) (hash : Option HashKey) (draw now : Nat) :
    Run P ⟨m, []⟩ ⟨(m.select hash draw now).2, [.answered (m.select hash draw now).1]⟩ := by
  have hpick : Run P ⟨m, []⟩ ⟨(m.pick hash draw now).2, [match (m.pick hash draw now).1 with
      | some e => .answered (.ok (e.key, false))
      | none => .walking []]⟩ := by
    refine (run_start hP (.select hash hopen)).trans ((run_go hP (.pick draw .refl rfl)).trans ?_)
    rw [pick]
    rcases m.alive.select hash draw with ⟨_ | e, alive⟩
    · exact .refl
    · exact run_firstHealthy hP now _ { m with alive }
  rw [select_eq hopen]
  cases hfound : (m.pick hash draw now).1 with
  | some e =>
    rw [hfound] at hpick
    exact hpick
  | none =>
    rw [hfound] at hpick
    exact hpick.trans (run_degrade hP _ draw now)

/-! ## Ticks -/

section Tick

variable {before after : List Adapter} {a : Adapter} {key : String} (hkey : a.key = key)
  (hpool : m.adapters = before ++ a :: after) (hkeys : (m.adapters.map Adapter.key).Nodup)
  (dial : Dialer) (now : Nat) (keys : List String) (changed : Bool)
include hkey hpool hkeys

theorem run_keepAlive (interval : Nat) (lastId : Int32) (t : Task) : Run P ⟨m, [t]⟩
    ⟨{ m with adapters := before ++ (a.keepAlive dial interval lastId now).2 :: after }, [t]⟩ := by
  rw [Adapter.keepAlive]
  split
  · rw [← hpool]
    exact .refl
  · have hserve : Serves m _ :=
      .use (f := fun a => a.send dial (a.ping (RequestId.next lastId)) now) m key
        fun a => .send a dial _ now
    rw [onAdapter?, adapter?_middle hkey hpool hkeys] at hserve
    dsimp only at hserve
    rw [modifyAdapter_middle hkey hpool hkeys] at hserve
    exact run_serve hP hserve

theorem run_reconnect : Run P ⟨m, [.retrying key keys changed]⟩
    (match a.connection.reconnect dial now with
      | (.ok (), connection) =>
        ⟨{ m with adapters := before ++ { a with connection }.heal now :: after },
          [.checking keys true]⟩
      | (.error _, connection) =>
        ⟨{ m with adapters := before ++ { a with connection } :: after },
          [.checking keys changed]⟩) := by
  have ha := adapter?_middle hkey hpool hkeys
  split
  · next c hconnected =>
    rw [← modifyAdapter_middle hkey hpool hkeys]
    exact run_go hP (.recover dial now ha hconnected)
  · next c hrefused =>
    rw [← modifyAdapter_middle hkey hpool hkeys]
    exact run_go hP (.refused dial now ha hrefused)

theorem run_checkHealth : Run P ⟨m, [.checking (key :: keys) changed]⟩
    ⟨{ m with adapters := before ++ (a.checkHealth dial now).2 :: after },
      [.checking keys (changed || (a.checkHealth dial now).1 != .nothing)]⟩ := by
  have ha := adapter?_middle hkey hpool hkeys
  rw [Adapter.checkHealth]
  rcases hcheck : a.health.check now with ⟨found, health⟩
  cases found with
  | unchanged =>
    have hstep : Task.Step m (.checking (key :: keys) changed) _ _ :=
      .check now ha (congrArg Prod.fst hcheck)
    rw [modifyAdapter_middle hkey hpool hkeys, hcheck] at hstep
    show Run P _ ⟨_, [.checking keys (changed || false)]⟩
    rw [Bool.or_false]
    exact run_go hP hstep
  | tripped =>
    have hstep : Task.Step m (.checking (key :: keys) changed) _ _ :=
      .trip now ha (congrArg Prod.fst hcheck)
    rw [modifyAdapter_middle hkey hpool hkeys, hcheck] at hstep
    show Run P _ ⟨_, [.checking keys (changed || true)]⟩
    rw [Bool.or_true]
    exact run_go hP hstep
  | retry =>
    have hstep : Task.Step m (.checking (key :: keys) changed) _ _ :=
      .dial now ha (congrArg Prod.fst hcheck)
    rw [modifyAdapter_middle hkey hpool hkeys, hcheck] at hstep
    refine (run_go hP hstep).trans ?_
    have hdial := run_reconnect (m := { m with adapters := before ++ { a with health } :: after })
      (a := { a with health }) hP hkey rfl (nodup_middle hpool hkeys rfl) dial now keys changed
    dsimp only at hdial ⊢
    rcases hreconnect : a.connection.reconnect dial now with ⟨_ | _, c⟩ <;> rw [hreconnect] at hdial
    · show Run P _ ⟨_, [.checking keys (changed || false)]⟩
      rw [Bool.or_false]
      exact hdial
    · show Run P _ ⟨_, [.checking keys (changed || true)]⟩
      rw [Bool.or_true]
      exact hdial

theorem run_checkAdapter (keepAlive : Option Nat) (lastId : Int32) :
    Run P ⟨m, [.checking (key :: keys) changed]⟩
      ⟨{ m with adapters := before ++ (checkAdapter dial keepAlive now lastId a).2.2 :: after },
        [.checking keys (changed || (checkAdapter dial keepAlive now lastId a).1)]⟩ := by
  -- The ping comes first, and the adapter keeps its key.
  have hping : ∀ interval, Run P ⟨m, [.checking (key :: keys) changed]⟩
      ⟨{ m with adapters :=
          before ++ ((a.keepAlive dial interval lastId now).2.checkHealth dial now).2 :: after },
        [.checking keys (changed ||
          ((a.keepAlive dial interval lastId now).2.checkHealth dial now).1 != .nothing)]⟩ := by
    intro interval
    have halike := (a.alike_keepAlive dial interval lastId now).key
    exact (run_keepAlive hP hkey hpool hkeys dial now interval lastId _).trans
      (run_checkHealth (m := { m with adapters := _ }) hP (halike.trans hkey) rfl
        (nodup_middle hpool hkeys halike) dial now keys changed)
  unfold checkAdapter
  dsimp only
  split
  · split
    · exact hping _
    · exact run_checkHealth hP hkey hpool hkeys dial now keys changed
  · exact run_checkHealth hP hkey hpool hkeys dial now keys changed

end Tick

theorem run_checkAdapters (dial : Dialer) (keepAlive : Option Nat) (now : Nat) (lastId : Int32)
    (as before : List Adapter) (m : Manager) (hpool : m.adapters = before ++ as)
    (hkeys : (m.adapters.map Adapter.key).Nodup) (changed : Bool) :
    Run P ⟨m, [.checking (as.map Adapter.key) changed]⟩
      ⟨{ m with adapters := before ++ (checkAdapters dial keepAlive now lastId as).2.2 },
        [.checking [] (changed || (checkAdapters dial keepAlive now lastId as).1)]⟩ := by
  induction as generalizing before m lastId changed with
  | nil =>
    rw [checkAdapters, Bool.or_false, ← hpool]
    exact .refl
  | cons a as ih =>
    have hkey : (checkAdapter dial keepAlive now lastId a).2.2.key = a.key :=
      congrArg Endpoint.key (checkAdapter_spec dial keepAlive now lastId a).1
    refine (run_checkAdapter hP rfl hpool hkeys dial now _ changed keepAlive lastId).trans ?_
    rw [checkAdapters, ← Bool.or_assoc]
    have hrest := ih (checkAdapter dial keepAlive now lastId a).2.1
      (before ++ [(checkAdapter dial keepAlive now lastId a).2.2])
      { m with adapters := before ++ (checkAdapter dial keepAlive now lastId a).2.2 :: as }
      (List.append_cons ..) (nodup_middle hpool hkeys hkey)
      (changed || (checkAdapter dial keepAlive now lastId a).1)
    rw [← List.append_cons] at hrest
    exact hrest

theorem run_checkStatus (hopen : m.closed = false) (hkeys : (m.adapters.map Adapter.key).Nodup)
    (dial : Dialer) (keepAlive : Option Nat) (lastId : Int32) (draw now : Nat) :
    Run P ⟨m, []⟩ ⟨(m.checkStatus dial keepAlive lastId draw now).2, []⟩ := by
  have hchecked := (run_start hP (.check hopen (.refl _))).trans
    (run_checkAdapters hP dial keepAlive now lastId m.adapters [] m rfl hkeys false)
  rw [Bool.false_or] at hchecked
  refine hchecked.trans ?_
  rw [Manager.checkStatus, if_neg (ne_true_of_eq_false hopen)]
  dsimp only
  split
  · next hchanged =>
    rw [hchanged]
    exact (run_go hP (.report _)).trans (run_rebuildAlive hP _ false draw)
  · next hsame =>
    rw [eq_false_of_ne_true hsame]
    exact run_go hP (.finish _)

end Scene

/-! ## Operations -/

/-- An operation on a manager that stays open is a run. -/
theorem Step.run (hP : Scene.Solo P) (h : Step m m') (hvalid : m.Valid) (hopen : m.closed = false)
    (hopen' : m'.closed = false) : Scene.Run P ⟨m, []⟩ ⟨m', []⟩ := by
  cases h with
  | refresh _ s draw now => exact Scene.run_refresh hP hopen s draw now
  | select _ hash draw now =>
    exact (Scene.run_select hP hopen hash draw now).trans (Scene.run_go hP (.leave _ _))
  | use _ key hf => exact .single ⟨.serve (.use _ key hf), hP _ none⟩
  | useOn _ id hf => exact .single ⟨.serve (.useOn _ id hf), hP _ none⟩
  | revive _ e draw now => exact Scene.run_revive hP m e draw now
  | addAlive _ e draw =>
    exact (Scene.run_start hP (.add m e)).trans (Scene.run_addAlive hP m false e draw)
  | checkStatus _ dial keepAlive lastId draw now =>
    exact Scene.run_checkStatus hP hopen hvalid.keys dial keepAlive lastId draw now
  | close => cases hopen'
  | poll _ now => exact .single ⟨.serve (.poll _ now), hP _ none⟩

end TaggedRpc.Manager
