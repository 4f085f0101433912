import Mathlib.Data.List.Dedup
import Switchyard.Proofs.Selection

/-!
# How many cursors there are

A rotation keeps a cursor for every name that a turn goes by: the context id, or a text made from
the URLs when the id is empty (`Turn.mem_keys_foldl`).  What is in the cache of the directory is
another matter.  A cluster whose endpoints come from a register is there as soon as it has a turn,
so the cursors that go by context ids are no more than the clusters in the cache; those that go by
URLs come on top, and with a fixed list the cache stays empty (`Traffic.cursors_counted`).
-/

namespace Switchyard

open Dispatch (Error)

namespace Directory

variable {d d' : Directory} {c : String}

theorem Resolves.has_of_has {b : String} {result : Except Error (List Endpoint)}
    (h : d.cache.has b = true) (hr : Resolves d c d' result) : d'.cache.has b = true := by
  cases hr with
  | noKind | noServers | fixed | cached | noRegister | unknown => exact h
  | found | overtaken =>
    rw [← Store.mem_keys] at h ⊢
    exact (Store.mem_keys_set _ _ _ _).mpr (.inr h)

theorem has_publish {b : String} (h : d.cache.has b = true) (c : String) (is : List Instance) :
    (d.publish c is).1.cache.has b = true := by
  rcases d.publish_cases c is with ⟨hd, -⟩ | ⟨r, -, hd⟩
  · rw [hd]
    exact h
  · rw [hd]
    dsimp only
    split_ifs
    · exact h
    · rw [← Store.mem_keys] at h ⊢
      exact (Store.mem_keys_set _ _ _ _).mpr (.inr h)

/-- A cluster is in the cache when a register has given its endpoints. -/
theorem Resolves.has {endpoints : List Endpoint} (hr : Resolves d c d' (.ok endpoints))
    (hk : d.kind ≠ Config.localKind) : d'.cache.has c = true := by
  cases hr with
  | fixed hl => exact absurd hl hk
  | cached hd hc => simp [Store.has, hc]
  | found | overtaken => simp [Store.has, Cache.push]

/-- A directory with a fixed list of servers stores nothing. -/
structure Bare (d : Directory) : Prop where
  kind : d.kind = Config.localKind
  cache : d.cache.size = 0
  unwatched : ∀ r, d.register = some (.memory r) → ∀ c, r.watchersOf c = []

theorem Bare.resolve {result : Except Error (List Endpoint)} (h : d.Bare)
    (hr : Resolves d c d' result) : d'.Bare := by
  cases hr with
  | noKind | noServers | fixed => exact h
  | cached hd | noRegister hd | unknown hd | found hd | overtaken hd => exact absurd h.kind hd.2

theorem Bare.publish (h : d.Bare) (c : String) (is : List Instance) : (d.publish c is).1.Bare := by
  rcases d.publish_cases c is with ⟨hd, -⟩ | ⟨r, hr, hd⟩
  · rw [hd]
    exact h
  · rw [hd, if_pos (h.unwatched r hr c)]
    refine ⟨h.kind, h.cache, fun s hs b => ?_⟩
    cases hs
    exact h.unwatched r hr b

end Directory

namespace Dispatch

open Balance (Rotation)
open Http (Request)

/-- The name of the cursor that a turn moves, if it moves one. -/
def Turn.cursor? (turn : Turn) : Option String :=
  if turn.offered.isEmpty then none
  else some (Rotation.cursorKey turn.offered turn.request.contextId)

/-- Whether it is a turn of a request without a context id. -/
def Turn.isNameless (turn : Turn) : Bool := turn.request.contextId == ""

theorem Turn.cursor?_of_named {turn : Turn} {key : String} (hn : turn.isNameless = false)
    (h : turn.cursor? = some key) : turn.request.contextId = key ∧ key ≠ "" := by
  have hne : turn.request.contextId ≠ "" := by simpa [isNameless] using hn
  unfold cursor? at h
  split_ifs at h
  rw [Rotation.cursorKey_of_ne hne] at h
  cases h
  exact ⟨rfl, hne⟩

theorem Turn.mem_keys_move (r : Rotation) (turn : Turn) (key : String) :
    key ∈ (turn.move r).cursors.keys ↔ key ∈ r.cursors.keys ∨ turn.cursor? = some key := by
  unfold Turn.move Turn.cursor? Rotation.next
  split_ifs
  · simp
  · simp only [Rotation.advance, Store.mem_keys_set, Option.some.injEq]
    rw [or_comm, eq_comm]

theorem Turn.nodup_keys_move {r : Rotation} (h : r.cursors.keys.Nodup) (turn : Turn) :
    (turn.move r).cursors.keys.Nodup := by
  unfold Turn.move Rotation.next
  split_ifs
  · exact h
  · exact Store.nodup_keys_set h _ _

/-- After some turns from none there is a cursor for each of the names that they go by. -/
theorem Turn.mem_keys_foldl (key : String) : ∀ (turns : List Turn) (r : Rotation),
    key ∈ (turns.foldl Turn.move r).cursors.keys
      ↔ key ∈ r.cursors.keys ∨ key ∈ turns.filterMap Turn.cursor?
  | [], r => by simp
  | turn :: turns, r => by
    rw [List.foldl_cons, Turn.mem_keys_foldl key turns, Turn.mem_keys_move, List.filterMap_cons,
      or_assoc]
    cases turn.cursor? with
    | none => simp
    | some k => simp [eq_comm]

theorem Turn.nodup_keys_foldl : ∀ (turns : List Turn) {r : Rotation}, r.cursors.keys.Nodup →
    (turns.foldl Turn.move r).cursors.keys.Nodup
  | [], _, h => h
  | turn :: turns, _, h => Turn.nodup_keys_foldl turns (Turn.nodup_keys_move h turn)

theorem Turn.size_cursors (turns : List Turn) :
    (turns.foldl Turn.move .empty).cursors.size = (turns.filterMap Turn.cursor?).dedup.length := by
  have hnodup := Turn.nodup_keys_foldl turns (r := .empty) List.nodup_nil
  rw [← Store.length_keys]
  refine ((List.perm_ext_iff_of_nodup hnodup (List.nodup_dedup _)).mpr fun key => ?_).length_eq
  rw [List.mem_dedup, Turn.mem_keys_foldl]
  exact or_iff_right (List.not_mem_nil)

namespace Traffic

variable {e : Event} {d d' : Dispatcher} {s t : Traffic} {i : Nat} {a b : Trip}
  {turns : List Turn} {es : List Event}

theorem Step.has (hs : Step s e t) {c : String}
    (h : s.dispatcher.directory.cache.has c = true) :
    t.dispatcher.directory.cache.has c = true :=
  hs.directory_keeps (P := fun d => d.cache.has c = true) (fun h hr => hr.has_of_has h)
    (fun c is h => Directory.has_publish h c is) h

/-- Where a register gives the endpoints, those who are offered some have their cluster in the
cache. -/
structure Stored (s : Traffic) : Prop where
  kind : s.dispatcher.directory.kind ≠ Config.localKind
  offered : ∀ {i : Nat} {r : Request} {endpoints : List Endpoint} {c : Call},
    s.trips[i]? = some ⟨r, some endpoints, .preparing c⟩ →
    s.dispatcher.directory.cache.has c.request.contextId = true
  turned : ∀ turn ∈ s.turns,
    s.dispatcher.directory.cache.has turn.request.contextId = true

theorem Goes.has_of_offered (hg : Goes d i e a b d' turns)
    (hk : d.directory.kind ≠ Config.localKind) {r : Request} {endpoints : List Endpoint} {c : Call}
    (hb : b = ⟨r, some endpoints, .preparing c⟩) :
    d'.directory.cache.has c.request.contextId = true := by
  cases hg with
  | resolve hr =>
    cases hb
    exact (Dispatcher.resolves hr).has hk
  | _ => cases hb

theorem Goes.offered_of_mem (hg : Goes d i e a b d' turns) {turn : Turn} (ht : turn ∈ turns) :
    ∃ r endpoints c, a = ⟨r, some endpoints, .preparing c⟩ ∧ turn.request = c.request := by
  cases hg with
  | aim | unaimed =>
    rw [List.mem_singleton.mp ht]
    exact ⟨_, _, _, rfl, rfl⟩
  | _ => cases ht

theorem Stored.step (h : s.Stored) (hs : Step s e t) : t.Stored := by
  refine ⟨?_, ?_, ?_⟩
  · exact hs.directory_keeps (P := fun d => d.kind ≠ Config.localKind)
      (fun h hr => hr.fixed_eq.1 ▸ h) (fun {d} c is h => (d.publish_fixed c is).1 ▸ h) h.kind
  · intro j r endpoints c hj
    have hold : s.trips[j]? = some ⟨r, some endpoints, .preparing c⟩ → _ :=
      fun hj => hs.has (h.offered hj)
    cases hs with
    | arrive =>
      rcases getElem?_concat_cases hj with hj | ⟨-, hnew⟩
      · exact hold hj
      · cases hnew
    | publish => exact hold hj
    | goOn hi hg =>
      rcases getElem?_set_cases hi hj with ⟨-, hb⟩ | ⟨-, hj⟩
      · exact hg.has_of_offered h.kind hb.symm
      · exact hold hj
  · intro turn ht
    have hold : turn ∈ s.turns → _ := fun ht => hs.has (h.turned turn ht)
    cases hs with
    | arrive | publish => exact hold ht
    | goOn hi hg =>
      rcases List.mem_append.mp ht with ht | ht
      · exact hold ht
      · obtain ⟨r, endpoints, c, rfl, hrequest⟩ := hg.offered_of_mem ht
        rw [hrequest]
        exact (Step.goOn hi hg).has (h.offered hi)

theorem bare_make {settings : Config.Settings} {register : Option Register}
    {balancers : List (String × Balance.Balancer)}
    (hd : Dispatcher.make settings register balancers = d)
    (hk : trim settings.register.kind = Config.localKind)
    (hw : ∀ r, register = some (.memory r) → ∀ c, r.watchersOf c = []) : d.directory.Bare := by
  subst hd
  refine ⟨hk, rfl, fun r hr => hw r ?_⟩
  cases register with
  | some x => exact hr
  | none =>
    -- settings that name a fixed list do not name the register in memory
    have hne : settings.register.kind ≠ Config.memoryKind := by
      intro hm
      rw [hm] at hk
      exact absurd hk (by decide)
    simp [Dispatcher.make, Directory.make, Dispatcher.ownRegister, hne] at hr

/-- The cursors that go by context ids are those of clusters in the cache. -/
theorem Stored.cursors_le (h : s.Stored) : (s.turns.foldl Turn.move .empty).cursors.size
    ≤ (s.dispatcher.directory.cache.keys.filter (· ≠ "")).length
      + ((s.turns.filter Turn.isNameless).filterMap Turn.cursor?).dedup.length := by
  rw [← Store.length_keys, ← List.length_append]
  have hnodup := Turn.nodup_keys_foldl s.turns (r := .empty) List.nodup_nil
  refine hnodup.length_le_of_subset fun key hkey => ?_
  obtain ⟨turn, ht, hturn⟩ := List.mem_filterMap.mp
    (((Turn.mem_keys_foldl key s.turns .empty).mp hkey).resolve_left List.not_mem_nil)
  -- the name of a cursor is a text made from URLs only if the context id is empty
  cases hn : turn.isNameless with
  | true =>
    refine List.mem_append_right _ (List.mem_dedup.mpr (List.mem_filterMap.mpr ⟨turn, ?_, hturn⟩))
    exact List.mem_filter.mpr ⟨ht, hn⟩
  | false =>
    obtain ⟨hid, hne⟩ := Turn.cursor?_of_named hn hturn
    have hcached := h.turned turn ht
    rw [hid, ← Store.mem_keys] at hcached
    exact List.mem_append_left _ (List.mem_filter.mpr ⟨hcached, by simpa using hne⟩)

/-- A rotation has as many cursors as its turns go by different names.  With a fixed list the cache
is empty all the while; otherwise the cursors beyond the clusters in the cache are those of
requests without a context id. -/
theorem cursors_counted {settings : Config.Settings} {register : Option Register}
    {balancers : List (String × Balance.Balancer)}
    (hd : Dispatcher.make settings register balancers = d) (hrot : d.rotation? = some .empty)
    (hw : ∀ r, register = some (.memory r) → ∀ c, r.watchersOf c = [])
    (h : (start d).run es = some t) :
    ∃ rotation, t.dispatcher.rotation? = some rotation
      ∧ rotation.cursors.size = (t.turns.filterMap Turn.cursor?).dedup.length
      ∧ (trim settings.register.kind = Config.localKind →
        t.dispatcher.directory.cache.size = 0)
      ∧ (trim settings.register.kind ≠ Config.localKind →
        rotation.cursors.size ≤ (t.dispatcher.directory.cache.keys.filter (· ≠ "")).length
          + ((t.turns.filter Turn.isNameless).filterMap Turn.cursor?).dedup.length
        ∧ ((∀ turn ∈ t.turns, turn.isNameless = false) →
          rotation.cursors.size ≤ t.dispatcher.directory.cache.size)) := by
  refine ⟨t.turns.foldl Turn.move .empty, ?_, Turn.size_cursors t.turns, fun hk => ?_,
    fun hk => ?_⟩
  · exact run_keeps (P := fun _ s =>
      s.dispatcher.rotation? = some (s.turns.foldl Turn.move .empty))
      (fun hr hs => hs.rotation?_eq hr) hrot h
  · exact (run_keeps (P := fun _ s => s.dispatcher.directory.Bare)
      (fun hb hs => hs.directory_keeps (fun h hr => h.resolve hr) (fun c is h => h.publish c is) hb)
      (bare_make hd hk hw) h).cache
  · have hstart : (start d).Stored := by
      subst hd
      exact ⟨hk, fun hi => (nomatch hi), fun _ ht => nomatch ht⟩
    have hstored := run_keeps (P := fun _ s => s.Stored) (fun hp hs => hp.step hs) hstart h
    refine ⟨hstored.cursors_le, fun hnamed => hstored.cursors_le.trans ?_⟩
    have hnone : t.turns.filter Turn.isNameless = [] :=
      List.filter_eq_nil_iff.mpr fun turn ht => by simp [hnamed turn ht]
    rw [hnone, ← Store.length_keys]
    exact List.length_filter_le _ _

/-- Two clusters on a fixed list have a cursor each, and neither is in the cache. -/
theorem cursors_counted_fixed : ∃ d t rotation,
    Dispatcher.make { register := { kind := "local", servers := "a" } } none [] = d
    ∧ (start d).run [.arrive (.get "/x" "b") .zero, .resolve 0, .choose 0,
        .arrive (.get "/x" "c") .zero, .resolve 1, .choose 1] = some t
    ∧ t.dispatcher.rotation? = some rotation ∧ rotation.cursors.size = 2
    ∧ t.dispatcher.directory.cache.size = 0 := by
  obtain ⟨d, hd⟩ : ∃ d, Dispatcher.make { register := { kind := "local", servers := "a" } }
    none [] = d := ⟨_, rfl⟩
  have hrun : ((start d).run [.arrive (.get "/x" "b") .zero, .resolve 0, .choose 0,
      .arrive (.get "/x" "c") .zero, .resolve 1, .choose 1]).map
        (fun t => t.turns.filterMap Turn.cursor?) = some ["b", "c"] := by
    subst hd
    rfl
  obtain ⟨t, ht, hcursors⟩ := Option.map_eq_some_iff.mp hrun
  obtain ⟨rotation, hr, hsize, hfixed, -⟩ :=
    cursors_counted hd (by subst hd; rfl) (fun _ h => nomatch h) ht
  rw [hcursors] at hsize
  exact ⟨d, t, rotation, hd, ht, hr, hsize, hfixed (by decide)⟩

end Traffic

end Dispatch

end Switchyard
