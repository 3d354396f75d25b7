import TaggedRpc.Endpoint.Directory
import TaggedRpc.Proofs.Text.Scope

/-!
# Entries of a directory

A directory has two levels: an entry for an object in a set counts before the one for the object as
such, and each of them is what the latest edit of it has left (`Directory.left`).

But entries are kept under the object with the set after a hash sign, and an object may hold hash
signs too. Then one entry is taken for another (`Directory.Mistaken`): entering or removing the one
overwrites or removes the other. This is all that can go wrong. Whatever has been done, the answer
comes from the latest edits of the two entries and of those taken for them; if there are none of the
latter, it comes from the two entries (`Directory.answer_after`). If there are, it can come from
another object (`Directory.not_answer_after`). Objects without hash signs are safe, whatever the
sets (`Directory.not_mistaken_of_not_mem`).
-/

namespace TaggedRpc.Directory

/-! ## Entries -/

/-- An object in a set, or as such. -/
structure Entry where
  object : String
  set : Option String
  deriving DecidableEq, Repr

/-- The entry that is meant by an object in a set: the empty set is no set. -/
def entry (object : String) (set : Option String) : Entry :=
  ⟨object, set.filter (· ≠ "")⟩

theorem key_eq_inScope (object : String) (set : Option String) :
    key object set = Text.inScope object (entry object set).set := by
  rcases set with - | s
  · rfl
  · by_cases hs : s = "" <;> simp [key, entry, Text.inScope, Option.filter_some, hs]

/-- Entries are taken for one another, though they are not the same. -/
def Mistaken (a b : Entry) : Prop :=
  Text.Absorbs a.object a.set b.object b.set ∨ Text.Absorbs b.object b.set a.object a.set

/-- Objects without hash signs are not taken for each other in any sets. -/
theorem not_mistaken_of_not_mem {a b : Entry} (ha : '#' ∉ a.object.toList)
    (hb : '#' ∉ b.object.toList) : ¬Mistaken a b := by
  rintro (h | h)
  · exact hb h.mem
  · exact ha h.mem

/-- Entries are the same, or taken for one another. -/
def Alike (a b : Entry) : Prop := a = b ∨ Mistaken a b

/-- Entries that are alike have one text. -/
theorem inScope_eq_iff {a b : Entry} :
    Text.inScope a.object a.set = Text.inScope b.object b.set ↔ Alike a b := by
  rw [Text.inScope_eq_iff, Alike, Entry.mk.injEq]
  rfl

theorem inScope_eq_key_iff {e : Entry} {object : String} {set : Option String} :
    Text.inScope e.object e.set = key object set ↔ Alike (entry object set) e := by
  rw [key_eq_inScope, eq_comm]
  exact inScope_eq_iff

instance : DecidableRel Alike := fun _ _ => decidable_of_iff _ inScope_eq_iff

/-! ## Edits -/

/-- What is done with a directory. -/
inductive Edit where
  /-- The endpoints of an object in a set are entered. -/
  | enter (object : String) (set : Option String) (r : Roster)
  /-- The entry of an object as such is removed. -/
  | remove (object : String)
  /-- Somebody asks for an object in a set. -/
  | ask (object : String) (set : Option String)
  /-- The directory comes out of reach, or within reach. -/
  | reach (unavailable : Bool)
  deriving DecidableEq, Repr

/-- The entry that an edit is about. -/
def Edit.entry? : Edit → Option Entry
  | enter object set _ => some (entry object set)
  | remove object => some (entry object none)
  | ask .. | reach _ => none

/-- What an edit leaves of the entry that it is about. -/
def Edit.roster? : Edit → Option Roster
  | enter _ _ r => some r
  | _ => none

/-- A directory after an edit. -/
def apply (d : Directory) : Edit → Directory
  | .enter object set r => d.set object set r
  | .remove object => d.remove object
  | .ask object set => (d.query object set).2
  | .reach unavailable => { d with unavailable }

/-- An empty directory after edits, the latest first. -/
def after (edits : List Edit) : Directory :=
  edits.foldr (fun edit d => d.apply edit) {}

/-- What the latest edit of some entries has left. -/
def left (p : Entry → Prop) [DecidablePred p] : List Edit → Option Roster
  | [] => none
  | edit :: earlier => if edit.entry?.any (p ·) then edit.roster? else left p earlier

theorem left_congr {p q : Entry → Prop} [DecidablePred p] [DecidablePred q] {edits : List Edit}
    (h : ∀ edit ∈ edits, ∀ e ∈ edit.entry?, p e ↔ q e) : left p edits = left q edits := by
  induction edits with
  | nil => rfl
  | cons edit earlier ih =>
    rw [List.forall_mem_cons] at h
    have hany : edit.entry?.any (p ·) = edit.entry?.any (q ·) := by
      rcases hentry : edit.entry? with - | e
      · rfl
      · simp [h.1 e hentry]
    rw [left, left, hany, ih h.2]

/-! ## Answers -/

theorem lookup_filter_ne (table : List (String × Roster)) (k k' : String) :
    (table.filter (·.1 != k')).lookup k = if k = k' then none else table.lookup k := by
  induction table with
  | nil => simp
  | cons p table ih => grind

theorem lookup_set (d : Directory) (object : String) (set : Option String) (r : Roster)
    (k : String) : (d.set object set r).table.lookup k =
      if k = key object set then some r else d.table.lookup k := by
  rw [Directory.set, List.lookup_cons, lookup_filter_ne]
  by_cases h : k = key object set
  · simp [h]
  · simp [h, beq_false_of_ne h]

theorem lookup_remove (d : Directory) (object k : String) :
    (d.remove object).table.lookup k = if k = key object none then none else d.table.lookup k :=
  lookup_filter_ne ..

/-- An edit changes the entries only that it is about, or that are taken for it. -/
theorem lookup_apply (d : Directory) (edit : Edit) (e : Entry) :
    (d.apply edit).table.lookup (Text.inScope e.object e.set) =
      if edit.entry?.any fun a => Alike a e then edit.roster?
      else d.table.lookup (Text.inScope e.object e.set) := by
  rcases edit with ⟨object, set, r⟩ | object | ⟨object, set⟩ | unavailable
  · simp [apply, lookup_set, inScope_eq_key_iff, Edit.entry?, Edit.roster?]
  · simp [apply, lookup_remove, inScope_eq_key_iff, Edit.entry?, Edit.roster?]
  · rfl
  · rfl

theorem lookup_after (edits : List Edit) (e : Entry) :
    (after edits).table.lookup (Text.inScope e.object e.set) =
      left (Alike · e) edits := by
  induction edits with
  | nil => rfl
  | cons edit earlier ih => rw [after, List.foldr_cons, ← after, lookup_apply, ih, left]

theorem lookup?_after (edits : List Edit) (object : String) (set : Option String) :
    (after edits).lookup? object set =
      (left (Alike · (entry object set)) edits).or (left (Alike · (entry object none)) edits) := by
  rw [← lookup_after, ← lookup_after, lookup?, key_eq_inScope, key_eq_inScope]
  rfl

/-- The answer about an object in a set: what the edits have left of its entry in the set, or else
    of its entry as such, if the edits of an entry are those of the same ones. -/
def twoLevels (same : Entry → Entry → Prop) [DecidableRel same] (edits : List Edit)
    (object : String) (set : Option String) : Except RpcError Roster :=
  match (left (same · (entry object set)) edits).or (left (same · (entry object none)) edits) with
  | some r => .ok r
  | none => .error (.registry s!"no endpoints registered for {object}")

/-- Whatever has been done with a directory, it answers by what is left of the entry of the object
    in the set, or else of the entry of the object as such, where edits of entries that are taken
    for these count as well. If there are none, it answers by these two entries alone. -/
theorem answer_after {edits : List Edit} (havailable : (after edits).unavailable = false)
    (object : String) (set : Option String) :
    ((after edits).query object set).1 = twoLevels Alike edits object set ∧
    ((∀ edit ∈ edits, ∀ a ∈ edit.entry?,
        ¬Mistaken a (entry object set) ∧ ¬Mistaken a (entry object none)) →
      ((after edits).query object set).1 = twoLevels (· = ·) edits object set) := by
  have halike : ((after edits).query object set).1 = twoLevels Alike edits object set := by
    rw [query, havailable, lookup?_after]
    rfl
  refine ⟨halike, fun halone => ?_⟩
  have hset : left (Alike · (entry object set)) edits = left (· = entry object set) edits :=
    left_congr fun edit hedit a ha => or_iff_left (halone edit hedit a ha).1
  have hplain : left (Alike · (entry object none)) edits = left (· = entry object none) edits :=
    left_congr fun edit hedit a ha => or_iff_left (halone edit hedit a ha).2
  rw [halike, twoLevels, hset, hplain, twoLevels]

/-- Endpoints of one host. -/
def hosting (host : String) : Roster := ⟨[{ host, port := 1 }], []⟩

/-- The entry of an object in a set stays when the object as such is removed; another set has
    none. -/
theorem answer_after_remove :
    let edits : List Edit := [.reach false, .ask "echo" none, .remove "echo",
      .enter "echo" (some "x") (hosting "a"), .reach true, .enter "echo" (some "") (hosting "b")]
    (after edits).unavailable = false ∧
      (∀ set, ∀ edit ∈ edits, ∀ a ∈ edit.entry?,
        ¬Mistaken a (entry "echo" set) ∧ ¬Mistaken a (entry "echo" none)) ∧
      ((after edits).query "echo" (some "x")).1 = .ok (hosting "a") ∧
      ((after edits).query "echo" (some "y")).1 =
        .error (.registry "no endpoints registered for echo") := by
  intro edits
  have hsign : ∀ edit ∈ edits, ∀ a ∈ edit.entry?, '#' ∉ a.object.toList := by decide
  have halone (set : Option String) : ∀ edit ∈ edits, ∀ a ∈ edit.entry?,
      ¬Mistaken a (entry "echo" set) ∧ ¬Mistaken a (entry "echo" none) := fun edit hedit a ha =>
    have hecho : '#' ∉ "echo".toList := by decide
    ⟨not_mistaken_of_not_mem (hsign edit hedit a ha) hecho,
      not_mistaken_of_not_mem (hsign edit hedit a ha) hecho⟩
  have havailable : (after edits).unavailable = false := rfl
  exact ⟨havailable, halone, (answer_after havailable "echo" (some "x")).2 (halone _),
    (answer_after havailable "echo" (some "y")).2 (halone _)⟩

/-- The entry of an object with a hash sign replaces that of another object in a set. -/
theorem not_answer_after :
    ¬∀ (edits : List Edit) (object : String) (set : Option String),
      (after edits).unavailable = false →
        ((after edits).query object set).1 = twoLevels (· = ·) edits object set := by
  intro h
  have hanswer := h [.enter "echo#x" none (hosting "b"), .enter "echo" (some "x") (hosting "a")]
    "echo" (some "x") rfl
  have hroster : hosting "b" = hosting "a" := Except.ok.inj hanswer
  exact absurd hroster (by decide)

end TaggedRpc.Directory
