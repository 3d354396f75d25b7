import Mathlib.Data.List.Nodup
import TaggedRpc.Proofs.Client.Aside
import TaggedRpc.Proofs.Text.Scope

/-!
# Who shares a manager

A client looks for the manager of an object in a set under one text: the reference without the
blanks around it, and the set after a hash sign. Every servant gets the manager that was made for
the first reference and set with its text, whatever else has happened since.

So servants share a manager if their references and sets are the same. But a reference may hold hash
signs too, and then a part of it can be taken for a set (`Client.Absorbs`). These are the only cases
in which others share a manager (`Client.tableKey_eq_iff`): without them, servants share a manager
if and only if references and sets are the same, and every servant has a manager that was made for
it (`Client.Run.lookup`). With them, a call can end up at another object
(`Client.not_lookup`).
-/

namespace TaggedRpc

namespace Client

variable {text text' : String} {set set' : Option String}

/-! ## Keys -/

theorem tableKey_eq_inScope (text : String) (set : Option String) :
    tableKey text set = Text.inScope (Text.trim text) set := by
  rcases set with - | s <;> rfl

/-- The set makes up for the end of the other reference, and for the other set. -/
def Absorbs (text : String) (set : Option String) (text' : String) (set' : Option String) : Prop :=
  ∃ rest, Text.trim text' = Text.trim text ++ "#" ++ rest ∧
    set = some (set'.elim rest fun s => rest ++ "#" ++ s)

/-- References and sets have the same key if they are the same, or one of the sets makes up for the
    end of the other reference. -/
theorem tableKey_eq_iff : tableKey text set = tableKey text' set' ↔
    Text.trim text = Text.trim text' ∧ set = set' ∨ Absorbs text set text' set' ∨
      Absorbs text' set' text set := by
  rw [tableKey_eq_inScope, tableKey_eq_inScope]
  exact Text.inScope_eq_iff

/-- A reference is read without the blanks around it. -/
theorem parse_congr (h : Text.trim text = Text.trim text') :
    Reference.parse text = Reference.parse text' := by
  have hchars : Text.trimChars text.toList = Text.trimChars text'.toList := by
    have hlist := congrArg String.toList h
    rwa [Text.trim, Text.trim, String.toList_ofList, String.toList_ofList] at hlist
  rw [Reference.parse, Reference.parse, hchars]

/-! ## Managers -/

/-- The set that is meant; the empty set is no set. -/
def realSet (set : Option String) : Option String := set.filter (· ≠ "")

theorem realSet_realSet (set : Option String) : realSet (realSet set) = realSet set := by
  rw [realSet, realSet, Option.filter_filter]
  simp only [Bool.and_self]

/-- What a reference in a set is looked up under. -/
def lookupKey (text : String) (set : Option String) : String := tableKey text (realSet set)

end Client

/-- A manager that is loaded is that of the reference in the set. -/
theorem Manager.identity_of_load {ref : Reference} {set : Option String} {config : ManagerConfig}
    {s s' : Sources} {draw now : Nat} {m : Manager}
    (h : Manager.load ref set config s draw now = (.ok m, s')) :
    m.object = ref.name ∧ m.set = Client.realSet set ∧ m.direct = ref.isDirect := by
  refine Manager.load_induction (Q := fun m => m.object = ref.name ∧ m.set = Client.realSet set ∧
    m.direct = ref.isDirect) ⟨rfl, rfl, rfl⟩ (fun m r hm => ?_) h
  rcases m.apply_cases r draw now with happly | happly <;> rw [happly] <;> exact hm

namespace Client

/-- The manager with a number was made for a reference in a set. -/
structure MadeFor (c : Client) (number : Nat) (text : String) (set : Option String) : Prop where
  made : ∃ ref m, Reference.parse text = .ok ref ∧ c.managers[number]? = some m ∧
    m.object = ref.name ∧ m.set = realSet set ∧ m.direct = ref.isDirect ∧
    ∃ s s' draw now m₀, Manager.load ref (realSet set) (c.managerConfig ref.name) s draw now =
      (.ok m₀, s') ∧ m₀.Onward m

variable {c c' : Client} {h es : List Event} {number servant : Nat} {text text' : String}
  {set set' : Option String}

theorem managerConfig_congr (hconfig : c'.config = c.config) (object : String) :
    c'.managerConfig object = c.managerConfig object := by
  rw [managerConfig, managerConfig, hconfig]

theorem MadeFor.congr (hmade : c.MadeFor number text set) (htext : Text.trim text = Text.trim text')
    (hset : realSet set = realSet set') : c.MadeFor number text' set' := by
  obtain ⟨ref, m, hparse, hrest⟩ := hmade.made
  rw [parse_congr htext] at hparse
  rw [hset] at hrest
  exact ⟨ref, m, hparse, hrest⟩

/-- It stays so as long as there is the manager, and it goes on. -/
theorem MadeFor.onward (hmade : c.MadeFor number text set) (hconfig : c'.config = c.config)
    (hmanager : ∀ m, c.managers[number]? = some m → ∃ m', c'.managers[number]? = some m' ∧
      m.Onward m') : c'.MadeFor number text set := by
  obtain ⟨ref, m, hparse, hm, hobject, hset, hdirect, s, s', draw, now, m₀, hload, honward⟩ :=
    hmade.made
  obtain ⟨m', hm', honward'⟩ := hmanager m hm
  refine ⟨ref, m', hparse, hm', honward'.object.trans hobject, honward'.set.trans hset,
    honward'.direct.trans hdirect, s, s', draw, now, m₀, ?_, honward.trans honward'⟩
  rw [managerConfig_congr hconfig]
  exact hload

theorem exists_of_rel {α : Type} {r : α → α → Prop} {a b : Option α} (hrel : Option.Rel r a b)
    {x : α} (hx : a = some x) : ∃ y, b = some y ∧ r x y := by
  cases hrel with
  | none => cases hx
  | some hr =>
    cases hx
    exact ⟨_, rfl, hr⟩

theorem Onward.madeFor (honward : c.Onward c') (hmade : c.MadeFor number text set) :
    c'.MadeFor number text set :=
  hmade.onward honward.config fun _ hm => exists_of_rel (honward.managers number) hm

/-- A servant keeps its manager. -/
theorem exists_servant {rest : List Nat}
    (hservants : c'.servants.map Servant.manager = c.servants.map Servant.manager ++ rest)
    {s : Servant} (hs : c.servants[servant]? = some s) :
    ∃ s', c'.servants[servant]? = some s' ∧ s'.manager = s.manager := by
  have hmanager : (c'.servants.map Servant.manager)[servant]? = some s.manager := by
    rw [hservants, List.getElem?_append_left, List.getElem?_map, hs]
    · rfl
    · rw [List.length_map]
      exact (List.getElem?_eq_some_iff.1 hs).1
  rw [List.getElem?_map, Option.map_eq_some_iff] at hmanager
  exact hmanager

/-! ## Tables -/

/-- How the table of managers, and the servants, come of what has happened. -/
structure Indexed (h : List Event) (c : Client) : Prop where
  /-- Every manager is in the table, once. -/
  numbers : c.table.map Prod.snd = List.range c.managers.length
  keys : (c.table.map Prod.fst).Nodup
  /-- A manager was made for the first reference and set with its key. -/
  first : ∀ p ∈ c.table, ∃ text set servant later earlier,
    h = later ++ .asked text set servant :: earlier ∧ lookupKey text set = p.1 ∧
    c.MadeFor p.2 text set ∧ ∀ text' set' servant', .asked text' set' servant' ∈ earlier →
      lookupKey text' set' ≠ p.1
  /-- A servant has the manager with its key. -/
  servants : ∀ text set servant, .asked text set servant ∈ h →
    ∃ s, c.servants[servant]? = some s ∧ (lookupKey text set, s.manager) ∈ c.table

theorem Indexed.new (config : Config) (sources : Sources) : Indexed [] { config, sources } where
  numbers := rfl
  keys := .nil
  first := List.forall_mem_nil _
  servants := nofun

/-- The table stays, and so do the managers and the servants. -/
theorem Indexed.onward (hindexed : Indexed h c) (honward : c.Onward c')
    (hes : ∀ text set servant, .asked text set servant ∉ es) : Indexed (es ++ h) c' := by
  constructor
  case numbers => rw [honward.table, honward.aside.length_managers, hindexed.numbers]
  case keys =>
    rw [honward.table]
    exact hindexed.keys
  case first =>
    rw [honward.table]
    intro p hp
    obtain ⟨text, set, servant, later, earlier, rfl, hkey, hmade, hfirst⟩ := hindexed.first p hp
    exact ⟨text, set, servant, es ++ later, earlier, (List.append_assoc ..).symm, hkey,
      honward.madeFor hmade, hfirst⟩
  case servants =>
    intro text set servant hmem
    obtain ⟨s, hs, htable⟩ := hindexed.servants text set servant
      ((List.mem_append.1 hmem).resolve_left (hes text set servant))
    have hservants : c'.servants.map Servant.manager = c.servants.map Servant.manager ++ [] := by
      rw [honward.servants, List.append_nil]
    obtain ⟨s', hs', hmanager⟩ := exists_servant hservants hs
    exact ⟨s', hs', by rwa [honward.table, hmanager]⟩

/-- The latest servant has its manager as well. -/
theorem Indexed.servants_concat (hindexed : Indexed h c) {s : Servant}
    (hservants : c'.servants = c.servants ++ [s]) (htable : ∀ p ∈ c.table, p ∈ c'.table)
    (hs : (lookupKey text set, s.manager) ∈ c'.table) :
    ∀ text' set' servant, .asked text' set' servant ∈ .asked text set c.servants.length :: h →
      ∃ s, c'.servants[servant]? = some s ∧ (lookupKey text' set', s.manager) ∈ c'.table := by
  intro text' set' servant hmem
  rcases List.mem_cons.1 hmem with heq | hmem
  · cases heq
    exact ⟨s, by rw [hservants, List.getElem?_concat_length], hs⟩
  · obtain ⟨x, hx, hxtable⟩ := hindexed.servants text' set' servant hmem
    have hmanagers : c'.servants.map Servant.manager =
        c.servants.map Servant.manager ++ [s.manager] := by
      rw [hservants, List.map_append]
      rfl
    obtain ⟨x', hx', hmanager⟩ := exists_servant hmanagers hx
    exact ⟨x', hx', by rw [hmanager]; exact htable _ hxtable⟩

/-- A servant is made for a manager in the table. -/
theorem Indexed.serve (hindexed : Indexed h c) {s : Servant}
    (htable : (lookupKey text set, s.manager) ∈ c.table) :
    Indexed (.asked text set c.servants.length :: h) { c with servants := c.servants ++ [s] } where
  numbers := hindexed.numbers
  keys := hindexed.keys
  first p hp := by
    obtain ⟨text', set', servant, later, earlier, rfl, hkey, hmade, hfirst⟩ := hindexed.first p hp
    exact ⟨text', set', servant, .asked text set c.servants.length :: later, earlier, rfl, hkey,
      ⟨hmade.made⟩, hfirst⟩
  servants := hindexed.servants_concat rfl (fun _ => id) htable

/-- A manager is made for a reference and a set with a new key, and a servant for the manager. -/
theorem Indexed.make (hindexed : Indexed h c) {m : Manager} {s : Servant}
    (hconfig : c'.config = c.config) (hmanagers : c'.managers = c.managers ++ [m])
    (htable : c'.table = c.table ++ [(lookupKey text set, c.managers.length)])
    (hservants : c'.servants = c.servants ++ [s]) (hs : s.manager = c.managers.length)
    (hnew : ∀ p ∈ c.table, p.1 ≠ lookupKey text set)
    (hmade : c'.MadeFor c.managers.length text set) :
    Indexed (.asked text set c.servants.length :: h) c' := by
  have hsub : ∀ p ∈ c.table, p ∈ c'.table := fun p hp => htable ▸ List.mem_append_left _ hp
  constructor
  case numbers =>
    rw [htable, List.map_append, hindexed.numbers, hmanagers, List.length_append]
    exact List.range_succ.symm
  case keys =>
    rw [htable, List.map_append, List.nodup_append]
    refine ⟨hindexed.keys, List.nodup_singleton _, fun key hkey key' hkey' heq => ?_⟩
    obtain ⟨p, hp, rfl⟩ := List.mem_map.1 hkey
    exact hnew p hp (heq.trans (List.mem_singleton.1 hkey'))
  case first =>
    intro p hp
    rw [htable, List.mem_append, List.mem_singleton] at hp
    rcases hp with hp | rfl
    · obtain ⟨text', set', servant, later, earlier, rfl, hkey, hmade, hfirst⟩ :=
        hindexed.first p hp
      refine ⟨text', set', servant, .asked text set c.servants.length :: later, earlier, rfl, hkey,
        hmade.onward hconfig fun x hx => ⟨x, ?_, .refl x⟩, hfirst⟩
      rw [hmanagers, List.getElem?_append_left (List.getElem?_eq_some_iff.1 hx).1, hx]
    · -- Nobody has asked for anything with this key before.
      refine ⟨text, set, c.servants.length, [], h, rfl, rfl, hmade,
        fun text' set' servant hmem => ?_⟩
      obtain ⟨x, -, hx⟩ := hindexed.servants text' set' servant hmem
      exact hnew _ hx
  case servants =>
    refine hindexed.servants_concat hservants hsub ?_
    rw [htable, hs]
    exact List.mem_append_right _ List.mem_cons_self

theorem Step.not_asked (hstep : Step c es c') (text : String) (set : Option String)
    (servant : Nat) : .asked text set servant ∉ es := by
  cases hstep with
  | quiet => exact List.not_mem_nil
  | refresh number =>
    rcases Client.refresh number c with ⟨_ | changed, c'⟩
    · exact List.not_mem_nil
    · cases changed <;> simp [listedBy]
  | select number hash => cases (Client.select number hash c).1 <;> simp [dispatchedBy]
  | read t chunk =>
    rw [pushedBy]
    split <;> simp
  | subscribe => simp

theorem mem_of_lookup {table : List (String × Nat)} {key : String}
    (hlookup : table.lookup key = some number) : (key, number) ∈ table := by
  obtain ⟨before, after, rfl, -⟩ := List.lookup_eq_some_iff.1 hlookup
  exact List.mem_append_right _ List.mem_cons_self

theorem Indexed.ask (hindexed : Indexed h c) (text : String) (set : Option String) :
    Indexed (askedBy text set (proxyIn text set c).1 ++ h) (proxyIn text set c).2 := by
  rcases manager_cases text set c with ⟨e, herror, hquiet⟩ | ⟨ref, hparse, hfound⟩
  · rcases proxyIn_cases text set c with ⟨e', -, hproxy, hsnd⟩ | ⟨number, servant, hok, -⟩
    · rw [hproxy, hsnd]
      exact hindexed.onward hquiet.toBeside.onward fun _ _ _ => List.not_mem_nil
    · cases herror.symm.trans hok
  · rcases proxyIn_cases text set c with ⟨e', herror, -⟩ |
      ⟨number, servant, hok, hservant, -, hproxy⟩
    · rcases hfound with ⟨number, -, heq⟩ | ⟨m, sources, -, -, heq⟩ <;> rw [heq] at herror <;>
        cases herror
    · rw [hproxy]
      rcases hfound with ⟨number, hlookup, heq⟩ | ⟨m, sources, hlookup, hload, heq⟩
      · -- The manager was made for an earlier reference.
        rw [heq] at hok ⊢
        cases hok
        refine hindexed.serve ?_
        rw [hservant]
        exact mem_of_lookup hlookup
      · -- It is made now, under the next number.
        rw [heq] at hok ⊢
        cases hok
        obtain ⟨hobject, hset, hdirect⟩ := Manager.identity_of_load hload
        refine hindexed.make rfl rfl rfl rfl hservant ?_
          ⟨ref, m, hparse, ?_, hobject, ?_, hdirect, ?_⟩
        · intro p hp hkey
          have hne := List.lookup_eq_none_iff.1 hlookup p hp
          exact bne_iff_ne.1 hne hkey.symm
        · exact List.getElem?_concat_length
        · exact hset.trans (realSet_realSet set)
        · exact ⟨c.sources, sources, c.draws, c.clock, m, hload, .refl m⟩

theorem Run.indexed {config : Config} {sources : Sources} (hrun : Run config sources h c) :
    Indexed h c := by
  induction hrun with
  | new => exact .new config sources
  | step _ hstep ih => exact ih.onward hstep.onward hstep.not_asked
  | ask text set _ ih => exact ih.ask text set

/-! ## Sharing -/

/-- Two servants have the same manager. -/
def Share (c : Client) (servant servant' : Nat) : Prop :=
  ∃ s s', c.servants[servant]? = some s ∧ c.servants[servant']? = some s' ∧ s.manager = s'.manager

theorem share_of_getElem? {servant' : Nat} (number : Nat)
    (h : (c.servants.map Servant.manager)[servant]? = some number)
    (h' : (c.servants.map Servant.manager)[servant']? = some number) :
    c.Share servant servant' := by
  rw [List.getElem?_map, Option.map_eq_some_iff] at h h'
  obtain ⟨s, hs, rfl⟩ := h
  obtain ⟨s', hs', hmanager⟩ := h'
  exact ⟨s, s', hs, hs', hmanager.symm⟩

/-- Which managers servants have. -/
structure Lookups (h : List Event) (c : Client) : Prop where
  /-- A servant has the manager that was made for the first reference and set with its key. -/
  first : ∀ text set servant, .asked text set servant ∈ h → ∃ s text₀ set₀ servant₀ later earlier,
    c.servants[servant]? = some s ∧ h = later ++ .asked text₀ set₀ servant₀ :: earlier ∧
    lookupKey text₀ set₀ = lookupKey text set ∧ c.MadeFor s.manager text₀ set₀ ∧
    ∀ text' set' servant', .asked text' set' servant' ∈ earlier →
      lookupKey text' set' ≠ lookupKey text set
  /-- It shares the manager with those that have the same reference and set, and with those of
      which a part of the reference is taken for a set, or whose set is taken for a part of a
      reference. -/
  shared : ∀ text set servant text' set' servant', .asked text set servant ∈ h →
    .asked text' set' servant' ∈ h → (c.Share servant servant' ↔
      Text.trim text = Text.trim text' ∧ realSet set = realSet set' ∨
      Absorbs text (realSet set) text' (realSet set') ∨
      Absorbs text' (realSet set') text (realSet set))
  /-- If there are none of the latter, the manager was made for its own reference and set. -/
  own : ∀ text set servant, .asked text set servant ∈ h →
    (∀ text' set' servant', .asked text' set' servant' ∈ h →
      ¬Absorbs text (realSet set) text' (realSet set') ∧
      ¬Absorbs text' (realSet set') text (realSet set)) →
    ∃ s, c.servants[servant]? = some s ∧ c.MadeFor s.manager text set

theorem Indexed.first_of_asked (hindexed : Indexed h c) (hasked : .asked text set servant ∈ h) :
    ∃ s text₀ set₀ servant₀ later earlier, c.servants[servant]? = some s ∧
      h = later ++ .asked text₀ set₀ servant₀ :: earlier ∧
      lookupKey text₀ set₀ = lookupKey text set ∧ c.MadeFor s.manager text₀ set₀ ∧
      ∀ text' set' servant', .asked text' set' servant' ∈ earlier →
        lookupKey text' set' ≠ lookupKey text set := by
  obtain ⟨s, hs, htable⟩ := hindexed.servants text set servant hasked
  obtain ⟨text₀, set₀, servant₀, later, earlier, heq, hkey, hmade, hfirst⟩ :=
    hindexed.first _ htable
  exact ⟨s, text₀, set₀, servant₀, later, earlier, hs, heq, hkey, hmade, hfirst⟩

/-- Servants share a manager if and only if their keys are the same. -/
theorem Indexed.share_iff (hindexed : Indexed h c) {servant' : Nat}
    (hasked : .asked text set servant ∈ h) (hasked' : .asked text' set' servant' ∈ h) :
    c.Share servant servant' ↔ lookupKey text set = lookupKey text' set' := by
  obtain ⟨s, hs, htable⟩ := hindexed.servants text set servant hasked
  obtain ⟨s', hs', htable'⟩ := hindexed.servants text' set' servant' hasked'
  constructor
  · rintro ⟨x, x', hx, hx', hmanager⟩
    cases hs.symm.trans hx
    cases hs'.symm.trans hx'
    -- No number is in the table twice.
    have hnodup : (c.table.map Prod.snd).Nodup := hindexed.numbers ▸ List.nodup_range
    exact congrArg Prod.fst (List.inj_on_of_nodup_map hnodup htable htable' hmanager)
  · intro hkey
    have hpair := List.inj_on_of_nodup_map hindexed.keys htable htable' hkey
    exact ⟨s, s', hs, hs', congrArg Prod.snd hpair⟩

/-- Whatever a client has been asked for, and whatever has happened in between, servants share a
    manager if their references and sets are the same. Otherwise they do so only if a part of a
    reference is taken for a set, and if that never happens, all managers were made for the servants
    that have them. -/
theorem Run.lookup {config : Config} {sources : Sources} (hrun : Run config sources h c) :
    Lookups h c := by
  have hindexed := hrun.indexed
  constructor
  case first => exact fun _ _ _ => hindexed.first_of_asked
  case shared =>
    intro text set servant text' set' servant' hasked hasked'
    exact (hindexed.share_iff hasked hasked').trans tableKey_eq_iff
  case own =>
    intro text set servant hasked halone
    obtain ⟨s, text₀, set₀, servant₀, later, earlier, hs, rfl, hkey, hmade, -⟩ :=
      hindexed.first_of_asked hasked
    obtain ⟨habsorbs, habsorbs'⟩ := halone text₀ set₀ servant₀ List.mem_append_cons_self
    rcases tableKey_eq_iff.1 hkey with ⟨htext, hset⟩ | h | h
    · exact ⟨s, hs, hmade.congr htext hset⟩
    · exact absurd h habsorbs'
    · exact absurd h habsorbs

/-- A directory that lists nobody. -/
def silent : Sources where
  directory := some {}

/-- A client with a directory that lists nobody, after it was asked for some servants. -/
def asking (asked : List (String × Option String)) : Client :=
  asked.foldl (fun c p => (proxyIn p.1 p.2 c).2) { config := {}, sources := silent }

/-- A servant is asked for a second time with blanks around the reference, and a third one is not in
    a set. -/
theorem Run.lookup_blanks : ∃ h c, Run {} silent h c ∧
    h = [.asked "echo" none 2, .asked " echo " (some "x") 1, .asked "echo" (some "x") 0] ∧
    c.servants.map Servant.manager = [0, 0, 1] ∧ Lookups h c := by
  have hrun : Run {} silent _ (asking [("echo", some "x"), (" echo ", some "x"), ("echo", none)]) :=
    ((Run.new.ask "echo" (some "x")).ask " echo " (some "x")).ask "echo" none
  refine ⟨_, _, hrun, ?_, ?_, hrun.lookup⟩
  · decide +kernel
  · decide +kernel

/-- A hash sign in a reference is taken for that before the set. -/
theorem not_lookup : ¬∀ (config : Config) (sources : Sources) (h : List Event) (c : Client),
    Run config sources h c → ∀ text set servant text' set' servant', .asked text set servant ∈ h →
      .asked text' set' servant' ∈ h → (c.Share servant servant' ↔
        Text.trim text = Text.trim text' ∧ realSet set = realSet set') := by
  intro hlookup
  have hrun : Run {} silent _ (asking [("echo", some "x"), ("echo#x", none)]) :=
    (Run.new.ask "echo" (some "x")).ask "echo#x" none
  have hshare : (asking [("echo", some "x"), ("echo#x", none)]).Share 0 1 :=
    share_of_getElem? 0 (by decide +kernel) (by decide +kernel)
  have hsame := (hlookup {} silent _ _ hrun "echo" (some "x") 0 "echo#x" none 1 (by decide +kernel)
    (by decide +kernel)).1 hshare
  exact absurd hsame.1 (by decide)

end Client

end TaggedRpc
