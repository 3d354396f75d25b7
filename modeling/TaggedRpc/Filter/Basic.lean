import TaggedRpc.Error
import TaggedRpc.Invocation

/-!
# Filters

A *call* performs an invocation within a time and says how it went. A *filter*
makes a call from a call: it gets the rest of the way to the servant, and may
change the invocation and the time before it goes on, look at the outcome
afterwards, go on more than once, or not at all.

A *chain* has three places for filters: before, in the middle, where there is one
at most and the last one put there counts, and after. `FilterChain.run` puts the
filters around the last step in that order, the first one outermost.

Calls act on a state of any type.
-/

namespace TaggedRpc

/-- How a call went, and what has become of the invocation. -/
abbrev Completion := Except RpcError Unit × Invocation

/-- A way to perform an invocation within a time, acting on a state. -/
abbrev Call (σ : Type) := Invocation → Duration → StateM σ Completion

/-- A way to make a call from the rest of the way. -/
abbrev Filter (σ : Type) := Call σ → Call σ

/-- The filters of a client. -/
structure FilterChain (σ : Type) where
  before : List (Filter σ) := []
  middle : Option (Filter σ) := none
  after : List (Filter σ) := []

namespace FilterChain

variable {σ : Type}

/-- The chain with one more filter before the middle, nearest to it. -/
def withBefore (c : FilterChain σ) (f : Filter σ) : FilterChain σ :=
  { c with before := c.before ++ [f] }

/-- The chain with a filter in the middle, in place of the one there. -/
def withMiddle (c : FilterChain σ) (f : Filter σ) : FilterChain σ :=
  { c with middle := some f }

/-- The chain with one more filter after the middle, farthest from it. -/
def withAfter (c : FilterChain σ) (f : Filter σ) : FilterChain σ :=
  { c with after := c.after ++ [f] }

/-- The filters in their order, the outermost first. -/
def ordered (c : FilterChain σ) : List (Filter σ) :=
  c.before ++ c.middle.toList ++ c.after

/-- How many filters there are. -/
def size (c : FilterChain σ) : Nat := c.ordered.length

/-- Filters around a last step. -/
def wrap (filters : List (Filter σ)) (last : Call σ) : Call σ :=
  filters.foldr (fun f rest => f rest) last

/-- The chain around a last step. -/
def run (c : FilterChain σ) (last : Call σ) : Call σ := wrap c.ordered last

@[simp] theorem wrap_nil (last : Call σ) : wrap [] last = last := rfl

@[simp] theorem wrap_cons (f : Filter σ) (fs : List (Filter σ)) (last : Call σ) :
    wrap (f :: fs) last = f (wrap fs last) := rfl

theorem wrap_append (fs gs : List (Filter σ)) (last : Call σ) :
    wrap (fs ++ gs) last = wrap fs (wrap gs last) := by
  simp [wrap]

end FilterChain

end TaggedRpc
