import Mathlib.Data.List.Induction
import Mathlib.Data.List.Nodup
import Mathlib.Logic.Function.Iterate
import TaggedRpc.Packet.RequestId

/-!
# Ids handed out

Any number of callers take their ids from one word, which has the last id. Each of them looks at the
word, and then exchanges what it has seen for the id after it, in one atomic step that takes place
only if the word is still what was seen; otherwise the caller looks again. From what it has
exchanged it works out its id once more (`Caller.id?`). The steps of all callers come in any order
(`RequestId.after`), and what a look sees may be out of date. When nothing comes in between, the
steps of one caller add up to `RequestId.next` (`RequestId.play_alone`).

The exchanges come in an order, and this is the order of the ids: whatever the word has been at
first, the callers get the ids that follow it, one each (`RequestId.Sound`). These go round and
round all positive words, so that an id comes back after as many callers as there are positive
words, and not before (`RequestId.iterate_next_eq_iff`). Thus the ids are never zero, each of them
is one more than the one before it, or 1 after the greatest one, and those of as many callers in a
row are all different (`RequestId.orderly_after`).
-/

namespace TaggedRpc.RequestId

variable {id start : Int32} {i j m n : Nat}

/-! ## Round and round -/

/-- How many positive words there are. -/
def total : Nat := 2 ^ 31 - 1

/-- How many ids a round has up to a word. The greatest word ends a round, and so begins one. -/
def place (id : Int32) : Nat := id.toInt.toNat % total

theorem toInt_next (id : Int32) : (next id).toInt = place id + 1 := by
  have hhigh : id.toInt < 2 ^ 31 := id.toInt_lt
  have hmax : id = Int32.maxValue ↔ id.toInt = 2 ^ 31 - 1 := by
    rw [← Int32.toInt_inj, Int32.toInt_maxValue]
  rw [next, place, total]
  split <;> rename_i h <;> rw [Int32.le_iff_toInt_le, Int32.toInt_zero, hmax] at h
  · rw [Int32.toInt_one]
    omega
  · rw [Int32.toInt_add, Int32.toInt_one, Int.bmod_eq_of_le (by omega) (by omega)]
    omega

theorem next_pos (id : Int32) : 0 < next id := by
  rw [Int32.lt_iff_toInt_lt, toInt_next, Int32.toInt_zero]
  omega

/-- After a positive word comes one more, or 1 after the greatest one. -/
theorem toInt_next_of_pos (h : 0 < id) :
    (next id).toInt = if id = Int32.maxValue then 1 else id.toInt + 1 := by
  have hhigh : id.toInt < 2 ^ 31 := id.toInt_lt
  rw [Int32.lt_iff_toInt_lt, Int32.toInt_zero] at h
  rw [toInt_next, place, total]
  split <;> rename_i hmax <;> rw [← Int32.toInt_inj, Int32.toInt_maxValue] at hmax <;> omega

theorem place_iterate_next (id : Int32) (n : Nat) :
    place (next^[n] id) = (place id + n) % total := by
  induction n with
  | zero => exact (Nat.mod_mod _ _).symm
  | succ n ih =>
    rw [Function.iterate_succ_apply', place, toInt_next, Int.toNat_natCast_add_one, ih,
      Nat.mod_add_mod, Nat.add_assoc]

theorem toInt_iterate_next (id : Int32) (n : Nat) :
    (next^[n + 1] id).toInt = ((place id + n) % total : Nat) + 1 := by
  rw [Function.iterate_succ_apply', toInt_next, place_iterate_next]

/-- An id comes back after as many ids as there are positive words, and not before. -/
theorem iterate_next_eq_iff (id : Int32) :
    next^[m + 1] id = next^[n + 1] id ↔ m % total = n % total := by
  rw [← Int32.toInt_inj, toInt_iterate_next, toInt_iterate_next, total]
  omega

/-! ## Ids in a row -/

theorem following_eq_map (id : Int32) (n : Nat) :
    following id n = (List.range n).map fun k => next^[k + 1] id := by
  induction n generalizing id with
  | zero => rfl
  | succ n ih =>
    rw [following, ih, List.range_succ_eq_map, List.map_cons, List.map_map]
    rfl

@[simp] theorem length_following (id : Int32) (n : Nat) : (following id n).length = n := by
  simp [following_eq_map]

theorem following_succ (id : Int32) (n : Nat) :
    following id (n + 1) = following id n ++ [next (next^[n] id)] := by
  rw [following_eq_map, following_eq_map, List.range_succ, List.map_append, List.map_singleton,
    Function.iterate_succ_apply']

/-- The ids after the first ones are those that follow the last of these. -/
theorem following_add (id : Int32) (m n : Nat) :
    following id (m + n) = following id m ++ following (next^[m] id) n := by
  simp only [following_eq_map, List.range_add, List.map_append, List.map_map]
  congr 2
  funext k
  rw [Function.comp_apply, Nat.add_assoc, Nat.add_comm, Function.iterate_add_apply]

theorem nodup_following (id : Int32) (h : n ≤ total) : (following id n).Nodup := by
  rw [following_eq_map]
  refine List.Nodup.map_on (fun i hi j hj heq => ?_) List.nodup_range
  rw [List.mem_range] at hi hj
  rwa [iterate_next_eq_iff, Nat.mod_eq_of_lt (Nat.lt_of_lt_of_le hi h),
    Nat.mod_eq_of_lt (Nat.lt_of_lt_of_le hj h)] at heq

/-- Ids that are handed out one after another. -/
structure Orderly (ids : List Int32) : Prop where
  range : ∀ id ∈ ids, 1 ≤ id ∧ id ≤ Int32.maxValue
  /-- Each is one more than the one before it, or 1 after the greatest one. -/
  chain : ids.IsChain fun a b => b.toInt = if a = Int32.maxValue then 1 else a.toInt + 1
  /-- An id comes back after as many ids as there are positive words, and not before. -/
  period : ∀ i < ids.length, ∀ j < ids.length, ids[i]? = ids[j]? ↔ i % total = j % total
  /-- Ids in a row are different, unless there are more of them than positive words. -/
  nodup : ∀ row, row <:+: ids → row.length ≤ total → row.Nodup

theorem orderly_following (id : Int32) (n : Nat) : Orderly (following id n) := by
  constructor
  case range =>
    intro x hx
    rw [following_eq_map] at hx
    obtain ⟨k, -, rfl⟩ := List.mem_map.1 hx
    have hhigh := (next^[k + 1] id).toInt_lt
    have hid := toInt_iterate_next id k
    rw [Int32.le_iff_toInt_le, Int32.le_iff_toInt_le, Int32.toInt_maxValue, Int32.toInt_one]
    omega
  case chain =>
    induction n generalizing id with
    | zero => exact .nil
    | succ n ih =>
      rcases n with - | n
      · exact .singleton _
      · exact .cons_cons (toInt_next_of_pos (next_pos id)) (ih (next id))
  case period =>
    intro i hi j hj
    rw [length_following] at hi hj
    simpa [following_eq_map, hi, hj] using iterate_next_eq_iff id
  case nodup =>
    -- A row of the ids that follow a word follows another word.
    rintro row ⟨before, behind, heq⟩ hlength
    have hn : before.length + row.length + behind.length = n := by
      simpa [Nat.add_assoc] using congrArg List.length heq
    rw [← hn, following_add, following_add] at heq
    obtain ⟨hfront, -⟩ := List.append_inj heq (by simp)
    rw [(List.append_inj hfront (by simp)).2]
    exact nodup_following _ hlength

/-! ## Callers -/

/-- How far a caller has come. -/
inductive Caller where
  | begun
  /-- It has looked at the word. -/
  | looked (seen : Int32)
  /-- It has exchanged what it had seen, and has not worked out its id yet. -/
  | exchanged (seen : Int32)
  | done (id : Int32)
  deriving DecidableEq, Repr

/-- The id of a caller that has exchanged the word. -/
def Caller.id? : Caller → Option Int32
  | exchanged seen => some (next seen)
  | done id => some id
  | _ => none

/-- The word with all callers so far, in the order in which they began. -/
structure Scene where
  last : Int32
  /-- What the word has been before, the latest first. -/
  earlier : List Int32 := []
  callers : List Caller := []
  /-- Who has exchanged the word, one after another. -/
  order : List Nat := []
  deriving DecidableEq, Repr

/-- What comes next: one more caller, or a step of one of them. -/
inductive Move where
  | start
  /-- A look at the word, or at what it was some exchanges ago. An exchange that does not take place
      is one, too. -/
  | look (i age : Nat)
  /-- An exchange, or a look if the word is not what was seen. -/
  | exchange (i : Nat)
  | finish (i : Nat)
  deriving DecidableEq, Repr

namespace Scene

/-- What the word was some exchanges ago. -/
def value (s : Scene) (age : Nat) : Int32 := (s.last :: s.earlier).getD age s.last

/-- A scene in which a caller has come farther. -/
def put (s : Scene) (i : Nat) (c : Caller) : Scene := { s with callers := s.callers.set i c }

/-- A caller exchanges the word that it has seen. -/
def exchange (s : Scene) (i : Nat) (seen : Int32) : Scene :=
  { last := next seen
    earlier := s.last :: s.earlier
    callers := s.callers.set i (.exchanged seen)
    order := s.order ++ [i] }

/-- A scene after a move. A caller whose turn this is not stays as it is. -/
def play (s : Scene) : Move → Scene
  | .start => { s with callers := s.callers ++ [.begun] }
  | .look i age =>
    match s.callers[i]? with
    | some .begun | some (.looked _) => s.put i (.looked (s.value age))
    | _ => s
  | .exchange i =>
    match s.callers[i]? with
    | some (.looked seen) =>
      if s.last = seen then s.exchange i seen else s.put i (.looked s.last)
    | _ => s
  | .finish i =>
    match s.callers[i]? with
    | some (.exchanged seen) => s.put i (.done (next seen))
    | _ => s

/-- The id of a caller, if it has one. -/
def id? (s : Scene) (i : Nat) : Option Int32 := s.callers[i]?.bind Caller.id?

/-- The ids that callers have, in the order of the exchanges. -/
def ids (s : Scene) : List Int32 := s.order.filterMap s.id?

end Scene

/-- The scene after moves, one after another, of a word that starts with any value. -/
def after (start : Int32) (moves : List Move) : Scene :=
  moves.foldl Scene.play { last := start }

variable {s s' : Scene} {c c' : Caller} {moves : List Move}

theorem after_concat (start : Int32) (moves : List Move) (m : Move) :
    after start (moves ++ [m]) = (after start moves).play m :=
  List.foldl_concat ..

theorem id?_eq (h : s.callers[i]? = some c) : s.id? i = c.id? := by
  rw [Scene.id?, h]
  rfl

theorem id?_put (h : s.callers[i]? = some c) (j : Nat) :
    (s.put i c').id? j = if j = i then c'.id? else s.id? j := by
  obtain ⟨hi, -⟩ := List.getElem?_eq_some_iff.1 h
  rw [Scene.id?, Scene.put, List.getElem?_set, Scene.id?]
  split <;> simp_all [eq_comm]

/-- When nothing comes in between, the steps of a caller add up to `next`. -/
theorem play_alone (h : s.callers[i]? = some .begun) :
    [Move.look i 0, .exchange i, .finish i].foldl Scene.play s =
      (s.exchange i s.last).put i (.done (next s.last)) := by
  obtain ⟨hi, -⟩ := List.getElem?_eq_some_iff.1 h
  have hset (c : Caller) : (s.callers.set i c)[i]? = some c := List.getElem?_set_self hi
  have hlook : s.play (.look i 0) = s.put i (.looked s.last) := by
    rw [Scene.play, h]
    rfl
  have hexchange : (s.put i (.looked s.last)).play (.exchange i) = s.exchange i s.last := by
    rw [Scene.play, Scene.put, hset]
    simp [Scene.exchange, List.set_set]
  have hfinish : (s.exchange i s.last).play (.finish i) =
      (s.exchange i s.last).put i (.done (next s.last)) := by
    rw [Scene.play, Scene.exchange, hset]
  rw [List.foldl_cons, hlook, List.foldl_cons, hexchange, List.foldl_cons, hfinish, List.foldl_nil]

/-- What a move can do: a caller exchanges the word, or callers come to know what they know without
    changing the word. -/
inductive Played (s : Scene) : Scene → Prop
  | exchange {i : Nat} : s.callers[i]? = some (.looked s.last) → Played s (s.exchange i s.last)
  | aside {s' : Scene} : s'.last = s.last → s'.order = s.order → s'.id? = s.id? → Played s s'

theorem Played.put (h : s.callers[i]? = some c) (hid : c'.id? = c.id?) : Played s (s.put i c') := by
  refine .aside rfl rfl (funext fun j => ?_)
  rw [id?_put h]
  split
  · next heq => rw [heq, id?_eq h, hid]
  · rfl

theorem played (s : Scene) (m : Move) : Played s (s.play m) := by
  have hidle : Played s s := .aside rfl rfl rfl
  rcases m with - | ⟨i, age⟩ | i | i
  · refine .aside rfl rfl (funext fun j => ?_)
    rw [Scene.id?, Scene.play, List.getElem?_append, Scene.id?]
    split
    · rfl
    · next hj =>
      rw [List.getElem?_eq_none (Nat.le_of_not_lt hj), List.getElem?_singleton]
      split <;> rfl
  · rw [Scene.play]
    split
    · next h => exact .put h rfl
    · next h => exact .put h rfl
    · exact hidle
  · rw [Scene.play]
    split
    · next seen hseen =>
      split
      · next heq => exact heq ▸ .exchange (heq ▸ hseen)
      · exact .put hseen rfl
    · exact hidle
  · rw [Scene.play]
    split
    · next h => exact .put h rfl
    · exact hidle

theorem id?_exchange (h : s.callers[i]? = some c) (seen : Int32) (j : Nat) :
    (s.exchange i seen).id? j = if j = i then some (next seen) else s.id? j := by
  show (s.put i (.exchanged seen)).id? j = _
  exact id?_put h j

/-- Who has an id has it by its place in the order, among the ids that follow the first word. -/
structure Sound (start : Int32) (s : Scene) : Prop where
  nodup : s.order.Nodup
  mem_order_iff : ∀ i, i ∈ s.order ↔ ∃ id, s.id? i = some id
  ids : s.order.map s.id? = (following start s.order.length).map some
  last : s.last = next^[s.order.length] start

theorem Played.sound (h : Played s s') (hs : Sound start s) : Sound start s' := by
  rcases h with @⟨i, hi⟩ | ⟨hlast, horder, hid⟩
  · have hnone : s.id? i = none := id?_eq hi
    have hnew : i ∉ s.order := fun hmem => by
      obtain ⟨id, hid⟩ := (hs.mem_order_iff i).1 hmem
      cases hnone.symm.trans hid
    have horder : (s.exchange i s.last).order = s.order ++ [i] := rfl
    have hold : s.order.map (s.exchange i s.last).id? = s.order.map s.id? :=
      List.map_congr_left fun j hj => by rw [id?_exchange hi, if_neg (ne_of_mem_of_not_mem hj hnew)]
    constructor
    case nodup =>
      rw [horder, ← List.concat_eq_append]
      exact hs.nodup.concat hnew
    case mem_order_iff =>
      intro j
      rw [id?_exchange hi, horder]
      by_cases hj : j = i <;> simp [hj, hs.mem_order_iff]
    case ids =>
      rw [horder, List.map_append, hold, hs.ids, List.map_singleton, id?_exchange hi, if_pos rfl,
        List.length_append, List.length_singleton, following_succ, List.map_append, ← hs.last]
      rfl
    case last =>
      rw [horder, List.length_append, List.length_singleton, Function.iterate_succ_apply',
        ← hs.last]
      rfl
  · constructor <;> rw [horder]
    case nodup => exact hs.nodup
    case mem_order_iff => exact hid ▸ hs.mem_order_iff
    case ids => exact hid ▸ hs.ids
    case last => exact hlast.trans hs.last

theorem sound_after (start : Int32) (moves : List Move) : Sound start (after start moves) := by
  induction moves using List.reverseRecOn with
  | nil => exact ⟨List.nodup_nil, by simp [after, Scene.id?], rfl, rfl⟩
  | append_singleton moves m ih =>
    rw [after_concat]
    exact (played ..).sound ih

theorem Sound.ids_eq (h : Sound start s) : s.ids = following start s.order.length := by
  have hids := congrArg (List.filterMap fun id => id) h.ids
  simpa [Scene.ids, List.filterMap_map, Function.comp_def] using hids

theorem Played.order_extends (h : Played s s') : s.order <+: s'.order := by
  rcases h with hi | ⟨-, horder, -⟩
  · exact List.prefix_append ..
  · exact horder ▸ List.prefix_rfl

/-- The order goes on at its end. -/
theorem order_extends (start : Int32) (moves more : List Move) :
    (after start moves).order <+: (after start (moves ++ more)).order := by
  induction more using List.reverseRecOn with
  | nil => exact (List.append_nil moves).symm ▸ List.prefix_rfl
  | append_singleton more m ih =>
    rw [← List.append_assoc, after_concat]
    exact ih.trans (played ..).order_extends

/-- Whatever a word starts with, and however its callers come in between each other: those who have
    exchanged it have one id each, and the others none; the ids come in the order of the exchanges,
    and are the ones that follow the word; whoever comes later gets a later one; and a caller gets
    the next one in three steps, unless somebody comes in between. -/
theorem orderly_after (start : Int32) (moves more : List Move) :
    let s := after start moves
    (s.order.Nodup ∧ (∀ i, i ∈ s.order ↔ ∃ id, s.id? i = some id) ∧
      s.order.map s.id? = s.ids.map some) ∧
    (s.ids = following start s.order.length ∧ Orderly s.ids) ∧
    s.order <+: (after start (moves ++ more)).order ∧
    ∀ i, s.callers[i]? = some .begun →
      (after start (moves ++ [.look i 0, .exchange i, .finish i])).callers[i]? =
        some (.done (next s.last)) := by
  intro s
  have hs : Sound start s := sound_after start moves
  have hids : s.ids = following start s.order.length := hs.ids_eq
  refine ⟨⟨hs.nodup, hs.mem_order_iff, hids ▸ hs.ids⟩, ⟨hids, ?_⟩, order_extends start moves more,
    fun i hi => ?_⟩
  · exact hids ▸ orderly_following start _
  · obtain ⟨hlt, -⟩ := List.getElem?_eq_some_iff.1 hi
    rw [after, List.foldl_append, ← after, play_alone hi]
    exact List.getElem?_set_self (by simpa [Scene.exchange] using hlt)

/-- Two callers look at the same word, and the later one exchanges it first. The other one has to
    look again, and goes on after the greatest word; a third one has only begun. -/
def crossing : List Move :=
  [.start, .look 0 0, .start, .look 1 0, .exchange 1, .exchange 0, .start, .exchange 0, .finish 0,
    .finish 1]

theorem orderly_after_crossing :
    let s := after (Int32.maxValue - 1) crossing
    s.callers = [.done 1, .done Int32.maxValue, .begun] ∧ s.ids = [Int32.maxValue, 1] ∧
      s.ids.Nodup ∧
      (after (Int32.maxValue - 1) (crossing ++ [.look 2 0, .exchange 2, .finish 2])).callers[2]? =
        some (.done 2) := by
  intro s
  have hids : s.ids = [Int32.maxValue, 1] := by decide
  have hlength : s.ids.length ≤ total := hids ▸ by decide
  obtain ⟨-, ⟨-, horderly⟩, -, halone⟩ := orderly_after (Int32.maxValue - 1) crossing []
  exact ⟨by decide, hids, horderly.nodup _ List.infix_rfl hlength, halone 2 (by decide)⟩

end TaggedRpc.RequestId
