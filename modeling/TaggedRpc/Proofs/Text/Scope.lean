/-!
# Names in a scope

A name can be written with a scope, after a hash sign (`Text.inScope`). A name may hold hash signs
itself, and then its end can be taken for a scope, or for the beginning of one (`Text.Absorbs`).
These are the only cases in which different names or scopes have one text (`Text.inScope_eq_iff`).
Between names without hash signs there are none (`Text.Absorbs.mem`).
-/

namespace TaggedRpc.Text

variable {name name' : String} {scope scope' : Option String}

/-- A name with the scope that it is in, if it is in one. -/
def inScope (name : String) (scope : Option String) : String :=
  scope.elim name fun s => name ++ "#" ++ s

/-- What a scope adds to a name. -/
def scopeSuffix (scope : Option String) : List Char :=
  scope.elim [] fun s => '#' :: s.toList

theorem toList_inScope (name : String) (scope : Option String) :
    (inScope name scope).toList = name.toList ++ scopeSuffix scope := by
  rcases scope with - | s <;> simp [inScope, scopeSuffix]

theorem scopeSuffix_inj (h : scopeSuffix scope = scopeSuffix scope') : scope = scope' := by
  rcases scope with - | s <;> rcases scope' with - | s' <;>
    simp_all [scopeSuffix, String.toList_inj]

/-- The scope makes up for the end of the other name, and for its scope. -/
def Absorbs (name : String) (scope : Option String) (name' : String) (scope' : Option String) :
    Prop :=
  ∃ rest, name' = name ++ "#" ++ rest ∧ scope = some (inScope rest scope')

theorem Absorbs.inScope_eq (h : Absorbs name scope name' scope') :
    inScope name scope = inScope name' scope' := by
  obtain ⟨rest, rfl, rfl⟩ := h
  rcases scope' with - | s <;> simp [inScope, String.append_assoc]

/-- The longer one of the names has a hash sign. -/
theorem Absorbs.mem (h : Absorbs name scope name' scope') : '#' ∈ name'.toList := by
  obtain ⟨rest, rfl, -⟩ := h
  simp

/-- One of two texts has the longer name in it. -/
theorem absorbs_of_append {cs : List Char} (hne : cs ≠ [])
    (hname : name'.toList = name.toList ++ cs)
    (hscope : scopeSuffix scope = cs ++ scopeSuffix scope') : Absorbs name scope name' scope' := by
  obtain ⟨c, cs, rfl⟩ := List.exists_cons_of_ne_nil hne
  rcases scope with - | s
  · simp [scopeSuffix] at hscope
  · obtain ⟨rfl, hs⟩ := List.cons.inj hscope
    refine ⟨String.ofList cs, String.toList_inj.1 ?_, congrArg some (String.toList_inj.1 ?_)⟩
    · simp [hname]
    · simp [hs, toList_inScope]

/-- Names in scopes have one text if they are the same, or one of the scopes makes up for the end of
    the other name. -/
theorem inScope_eq_iff : inScope name scope = inScope name' scope' ↔
    name = name' ∧ scope = scope' ∨ Absorbs name scope name' scope' ∨
      Absorbs name' scope' name scope := by
  constructor
  · intro h
    have hlist := congrArg String.toList h
    rw [toList_inScope, toList_inScope] at hlist
    -- One name ends where the other does, or somewhere within it.
    rcases List.append_eq_append_iff.1 hlist with ⟨cs, hname, hscope⟩ | ⟨cs, hname, hscope⟩
    · by_cases hcs : cs = []
      · subst hcs
        rw [List.append_nil] at hname
        exact .inl ⟨(String.toList_inj.1 hname).symm, scopeSuffix_inj hscope⟩
      · exact .inr (.inl (absorbs_of_append hcs hname hscope))
    · by_cases hcs : cs = []
      · subst hcs
        rw [List.append_nil] at hname
        exact .inl ⟨String.toList_inj.1 hname, (scopeSuffix_inj hscope).symm⟩
      · exact .inr (.inr (absorbs_of_append hcs hname hscope))
  · rintro (⟨rfl, rfl⟩ | h | h)
    · rfl
    · exact h.inScope_eq
    · exact h.inScope_eq.symm

end TaggedRpc.Text
