import Mathlib.Data.List.Pairwise
import TaggedRpc.Selection.Members
import TaggedRpc.Proofs.Endpoint.Key

/-!
# The endpoints in a selector

Which endpoints are in a selector is a matter of the changes that were asked for,
whatever the kind of the selector is: one is added unless the same one is there, one
is removed with whatever descriptor it has, and a list that replaces all keeps the first
of those that are the same (`Change.membersAfter`). A change that fails changes nothing.

A selector keeps the keys of its endpoints beside what it selects from. They *list* the
endpoints (`Listing`): each has its key once, and no two endpoints are the same. So a key
is there if and only if the endpoint that it names is (`Listing.key_mem_iff`), and the
selector, which looks for keys, finds out about endpoints.
-/

namespace TaggedRpc.Selection

/-- A change of the endpoints in a selector. -/
inductive Change where
  | add (e : Endpoint)
  | remove (e : Endpoint)
  /-- Replaces all of them. -/
  | refresh (es : List Endpoint)
  deriving DecidableEq, Repr

namespace Change

/-- Endpoints with one more, unless the same one is there. -/
def join (es : List Endpoint) (e : Endpoint) : List Endpoint :=
  if ∃ x ∈ es, x.Same e then es else es ++ [e]

/-- Endpoints without one, whatever its descriptor is. -/
def leave (es : List Endpoint) (e : Endpoint) : List Endpoint :=
  es.filter fun x => !decide (x.Same e)

/-- The endpoints after a change. -/
def apply (es : List Endpoint) : Change → List Endpoint
  | add e => join es e
  | remove e => leave es e
  | refresh new => new.foldl join []

/-- The endpoints after changes, one after another, of none. -/
def membersAfter (changes : List Change) : List Endpoint :=
  changes.foldl apply []

end Change

open Change

/-- Keys that list endpoints, of which no two are the same. -/
structure Listing (keys : List String) (es : List Endpoint) : Prop where
  keys : keys.Perm (es.map Endpoint.key)
  distinct : es.Pairwise fun a b => ¬a.Same b

namespace Listing

variable {keys : List String} {es : List Endpoint} {e : Endpoint}

theorem nil : Listing [] [] :=
  ⟨.refl _, .nil⟩

/-- A key is there if and only if its endpoint is. -/
theorem key_mem_iff (h : Listing keys es) : e.key ∈ keys ↔ ∃ x ∈ es, x.Same e := by
  rw [h.keys.mem_iff, List.mem_map]
  simp only [Endpoint.key_eq_iff]

theorem join_of_mem (h : Listing keys es) (hkey : e.key ∈ keys) : join es e = es :=
  if_pos (h.key_mem_iff.1 hkey)

theorem join_of_not_mem (h : Listing keys es) (hkey : e.key ∉ keys) :
    join es e = es ++ [e] :=
  if_neg (mt h.key_mem_iff.2 hkey)

theorem concat (h : Listing keys es) (hkey : e.key ∉ keys) :
    Listing (e.key :: keys) (es ++ [e]) where
  keys := by
    rw [List.map_append]
    exact (h.keys.cons e.key).trans (List.perm_append_singleton e.key _).symm
  distinct := by
    refine List.pairwise_append.2 ⟨h.distinct, List.pairwise_singleton .., fun x hx y hy => ?_⟩
    obtain rfl := List.mem_singleton.1 hy
    exact fun hsame => hkey (h.key_mem_iff.2 ⟨x, hx, hsame⟩)

theorem leave_of_not_mem (h : Listing keys es) (hkey : e.key ∉ keys) : leave es e = es := by
  refine List.filter_eq_self.2 fun x hx => ?_
  have hother : ¬x.Same e := fun hsame => hkey (h.key_mem_iff.2 ⟨x, hx, hsame⟩)
  simpa using hother

theorem leave (h : Listing keys es) (e : Endpoint) :
    Listing (keys.filter (· != e.key)) (leave es e) where
  keys := by
    refine (h.keys.filter _).trans (.of_eq ?_)
    rw [List.filter_map]
    refine congrArg (List.map Endpoint.key) (List.filter_congr fun x _ => ?_)
    rw [Function.comp_apply, bne, Bool.beq_eq_decide_eq, decide_eq_decide.2 Endpoint.key_eq_iff]
  distinct := h.distinct.sublist List.filter_sublist

theorem nodup (h : Listing keys es) : es.Nodup :=
  h.distinct.imp fun {a b} hother (heq : a = b) => hother (heq ▸ Endpoint.Same.refl a)

/-- Two of the endpoints that are the same have one descriptor. -/
theorem eq_of_same (h : Listing keys es) {a b : Endpoint} (ha : a ∈ es) (hb : b ∈ es)
    (hsame : a.Same b) : a = b := by
  have : Std.Symm fun a b : Endpoint => a.Same b → a = b :=
    ⟨fun _ _ heq hsame => (heq hsame.symm).symm⟩
  have hunique : es.Pairwise fun a b => a.Same b → a = b :=
    h.distinct.imp fun hother hsame => absurd hsame hother
  exact hunique.forall_of_forall (fun _ _ _ => rfl) ha hb hsame

theorem length_eq (h : Listing keys es) : keys.length = es.length := by
  rw [h.keys.length_eq, List.length_map]

end Listing

end TaggedRpc.Selection
