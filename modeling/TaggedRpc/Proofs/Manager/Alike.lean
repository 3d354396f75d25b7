import TaggedRpc.Adapter

/-!
# What makes adapters healthy

Whatever a call does to its adapter, the adapter stays as healthy as it was
(`Adapter.Use.alike`): calls are counted, and the counts are looked at when health is
checked. A check that changes the health of an endpoint reports it
(`Adapter.alike_checkHealth`).
-/

namespace TaggedRpc

namespace Adapter

/-- An adapter of the same endpoint that is as healthy. -/
structure Alike (a a' : Adapter) : Prop where
  endpoint : a'.endpoint = a.endpoint
  healthy : a'.isHealthy = a.isHealthy

theorem Alike.refl (a : Adapter) : a.Alike a := ⟨rfl, rfl⟩

theorem Alike.trans {a b c : Adapter} (hab : a.Alike b) (hbc : b.Alike c) : a.Alike c :=
  ⟨hbc.endpoint.trans hab.endpoint, hbc.healthy.trans hab.healthy⟩

theorem Alike.key {a a' : Adapter} (h : a.Alike a') : a'.key = a.key :=
  congrArg Endpoint.key h.endpoint

theorem alike_modifyConnection (a : Adapter) (number : Nat) (f : Connection → Connection) :
    a.Alike (a.modifyConnection number f) := by
  rw [modifyConnection]
  split <;> exact ⟨rfl, rfl⟩

theorem alike_record (a : Adapter) (success : Bool) (now : Nat) :
    a.Alike (a.record success now) := by
  cases success <;> exact ⟨rfl, rfl⟩

theorem alike_finishCall (a : Adapter) (number : Nat) (success : Bool) (now : Nat) :
    a.Alike (a.finishCall number success now) :=
  (a.alike_modifyConnection ..).trans (alike_record ..)

theorem alike_send (a : Adapter) (dial : Dialer) (r : Request) (now : Nat) :
    a.Alike (a.send dial r now).2 := by
  rw [send]
  split
  · exact .refl a
  · split <;> exact ⟨rfl, rfl⟩

theorem alike_onResponse (a : Adapter) (r : Response) (now : Nat) :
    a.Alike (a.onResponse r now).2 := by
  rw [onResponse]
  split
  · split
    · rw [replaceConnection]
      split <;> exact ⟨rfl, rfl⟩
    · split <;> exact .refl a
  · split
    · exact .refl a
    · split <;> exact ⟨rfl, rfl⟩

theorem alike_onResponses (a : Adapter) (now : Nat) (rs : List Response) :
    a.Alike (a.onResponses now rs).2 := by
  induction rs generalizing a with
  | nil => exact .refl a
  | cons r rs ih => exact (a.alike_onResponse r now).trans (ih _)

theorem alike_keepAlive (a : Adapter) (dial : Dialer) (interval : Nat) (lastId : Int32)
    (now : Nat) : a.Alike (a.keepAlive dial interval lastId now).2 := by
  rw [keepAlive]
  split
  · exact .refl a
  · exact a.alike_send ..

theorem alike_poll (a : Adapter) (now : Nat) : a.Alike (a.poll now).2 := by
  rw [poll]
  split <;> exact ⟨rfl, rfl⟩

/-- What a call does to its adapter, when it is made, when it is answered, and when its
    time is up. -/
inductive Use : Adapter → Adapter → Prop
  | register (a : Adapter) (id : Int32) (w : Waiter) : Use a (a.register id w)
  | cancel (a : Adapter) (id : Int32) : Use a (a.cancel id).2
  | send (a : Adapter) (dial : Dialer) (r : Request) (now : Nat) : Use a (a.send dial r now).2
  | receive (a : Adapter) (chunk : Bytes) (now : Nat) : Use a (a.receive chunk now).2
  | finishCall (a : Adapter) (number : Nat) (success : Bool) (now : Nat) :
      Use a (a.finishCall number success now)
  | record (a : Adapter) (success : Bool) (now : Nat) : Use a (a.record success now)
  /-- The pushes go to a callback. -/
  | pushTo (a : Adapter) (callback : Option String) : Use a { a with pushTo := callback }
  | trans {a b c : Adapter} : Use a b → Use b c → Use a c

/-- Calls are counted, but no call makes an endpoint healthy or unhealthy. -/
theorem Use.alike {a a' : Adapter} (h : a.Use a') : a.Alike a' := by
  induction h with
  | register | cancel | pushTo => exact ⟨rfl, rfl⟩
  | send => exact alike_send ..
  | receive a chunk now =>
    have hread : a.Alike { a with connection := (a.connection.receive chunk now).2 } := ⟨rfl, rfl⟩
    exact hread.trans (alike_onResponses ..)
  | finishCall => exact alike_finishCall ..
  | record => exact alike_record ..
  | trans _ _ hab hbc => exact hab.trans hbc

theorem healthy_check (h : Health) (now : Nat) :
    (h.check now).1 = .tripped ∨ (h.check now).2.healthy = h.healthy := by
  rw [Health.check]
  split
  · split <;> exact .inr rfl
  · split
    · exact .inl rfl
    · split
      · dsimp only
        split
        · exact .inl rfl
        · exact .inr rfl
      · exact .inr rfl

theorem endpoint_checkHealth (a : Adapter) (dial : Dialer) (now : Nat) :
    (a.checkHealth dial now).2.endpoint = a.endpoint := by
  rw [checkHealth]
  dsimp only
  split
  · rfl
  · rfl
  · split <;> rfl

/-- A check that reports nothing leaves an endpoint as healthy as it was. -/
theorem alike_checkHealth {a : Adapter} {dial : Dialer} {now : Nat}
    (h : (a.checkHealth dial now).1 = .nothing) : a.Alike (a.checkHealth dial now).2 := by
  refine ⟨a.endpoint_checkHealth dial now, ?_⟩
  have hcheck := healthy_check a.health now
  rw [checkHealth] at h ⊢
  rcases hfound : a.health.check now with ⟨found, health⟩
  rw [hfound] at hcheck h
  -- A retry that succeeds is reported, and so is an endpoint that trips.
  cases found with
  | unchanged => exact hcheck.resolve_left nofun
  | tripped => cases h
  | retry =>
    dsimp only at h ⊢
    split at h
    · cases h
    · exact hcheck.resolve_left nofun

end Adapter

end TaggedRpc
