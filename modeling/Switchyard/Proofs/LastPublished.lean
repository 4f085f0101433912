import Mathlib.Data.List.Induction
import Switchyard.Proofs.DirectoryStep
import Switchyard.Topology.History

/-!
# A directory answers with what was published last

What a lookup and a publication do to the standing of their cluster depends on that standing alone
(`Standing.after`), and the standing of all others is left as it is.  So a directory on a register
in memory is as many small machines as there are clusters (`standing_after`).

Each of these goes by the list that was published last (`Standing.Follows`); whether there is
anything in the cache, and with it whether an empty list is an answer or an error, depends on the
order of what was done before (`isCached_iff`).
-/

namespace Switchyard.Directory

open Dispatch (Error)

/-- What has happened somewhere in a list that has grown has happened before or just now. -/
theorem exists_split_concat_iff {γ : Type} {P : List γ → γ → Prop} {xs : List γ} {y : γ} :
    (∃ before x rest, xs ++ [y] = before ++ x :: rest ∧ P before x)
      ↔ (∃ before x rest, xs = before ++ x :: rest ∧ P before x) ∨ P xs y := by
  constructor
  · rintro ⟨before, x, rest, heq, hx⟩
    rcases List.eq_nil_or_concat rest with rfl | ⟨rest, z, rfl⟩
    · obtain ⟨rfl, rfl⟩ : xs = before ∧ y = x := by simpa using heq
      exact Or.inr hx
    · rw [List.concat_eq_append, ← List.cons_append, ← List.append_assoc] at heq
      exact Or.inl ⟨before, x, rest, (List.append_inj' heq rfl).1, hx⟩
  · rintro (⟨before, x, rest, rfl, hx⟩ | hy)
    · exact ⟨before, x, rest ++ [y], by simp, hx⟩
    · exact ⟨xs, y, [], rfl, hy⟩

/-- What an act does to the standing of its cluster. -/
def Standing.after (s : Standing) : Act → Standing
  | .resolve _ =>
    match s.cached with
    | some _ => s
    | none =>
      { s with
        watchers := s.watchers + 1
        cached := if s.held = [] then none else some s.held }
  | .publish _ is =>
    { s with
      held := is
      cached := if s.watchers = 0 then s.cached else some is }

/-- Whether the instances of clusters come from a register in memory. -/
def IsInMemory (d : Directory) : Prop := d.IsDynamic ∧ ∃ r, d.register = some (.memory r)

variable {d : Directory} {c : String}

theorem standing_eq {r : Registry Unit} (hr : d.register = some (.memory r)) (c : String) :
    d.standing c = ⟨r.instancesOf c, (r.watchersOf c).length, d.cache.find? c⟩ := by
  simp only [standing, held, watcherCount, Registry.watcherCount, hr]

/-- The ways in which a directory on a register in memory resolves a cluster. -/
theorem IsInMemory.resolve (h : d.IsInMemory) {e : Directory}
    {result : Except Error (List Endpoint)} (hres : Resolves d c e result) : e.IsInMemory
      ∧ (∀ b, e.standing b = if c = b then (d.standing b).after (.resolve c) else d.standing b)
      ∧ result = endpointsOf c (e.cache.find? c) := by
  obtain ⟨⟨hkind, hlocal⟩, r, hr⟩ := h
  cases hres with
  | noKind hk => exact absurd hk hkind
  | noServers hk | fixed hk => exact absurd hk hlocal
  | noRegister _ _ hn => simp [hr] at hn
  | overtaken _ _ ho => simp [hr] at ho
  | @cached is _ hc =>
    refine ⟨⟨⟨hkind, hlocal⟩, r, hr⟩, fun b => ?_, by rw [hc]; rfl⟩
    split_ifs with hb
    · subst hb
      simp [standing, Standing.after, hc]
    · rfl
  | @unknown q _ hc hq hi =>
    obtain rfl : r = q := by simpa [hr] using hq
    refine ⟨⟨⟨hkind, hlocal⟩, _, rfl⟩, fun b => ?_, by rw [hc]; rfl⟩
    rw [standing_eq rfl, standing_eq hr, Registry.watchersOf_subscribe]
    by_cases hb : c = b
    · subst hb
      simp [Standing.after, hc, hi]
    · simp [hb, Ne.symm hb]
  | @found q _ hc hq hi =>
    obtain rfl : r = q := by simpa [hr] using hq
    refine ⟨⟨⟨hkind, hlocal⟩, _, rfl⟩, fun b => ?_, ?_⟩
    · rw [standing_eq rfl, standing_eq hr, Registry.watchersOf_subscribe]
      by_cases hb : c = b
      · subst hb
        simp [Standing.after, hc, hi, Cache.push]
      · simp [hb, Ne.symm hb, Cache.push, Store.find?_set_of_ne _ (Ne.symm hb)]
    · simp [Cache.push, endpointsOf]

theorem IsInMemory.act (h : d.IsInMemory) (a : Act) : (d.act a).IsInMemory
    ∧ ∀ c, (d.act a).standing c = if a.contextId = c then (d.standing c).after a
      else d.standing c := by
  cases a with
  | resolve b =>
    obtain ⟨hm, hs, -⟩ := h.resolve (resolves d b)
    exact ⟨hm, hs⟩
  | publish b is =>
    obtain ⟨hd, r, hr⟩ := h
    show (d.publish b is).1.IsInMemory ∧ ∀ c, (d.publish b is).1.standing c = _
    rw [publish_of_memory hr]
    refine ⟨⟨hd, _, rfl⟩, fun c => ?_⟩
    rw [standing_eq rfl, standing_eq hr, Registry.instancesOf_store]
    by_cases hc : b = c
    · subst hc
      by_cases hw : r.watchersOf b = [] <;> simp [Act.contextId, Standing.after, hw, Cache.push]
    · by_cases hw : r.watchersOf b = [] <;>
        simp [Act.contextId, hc, Ne.symm hc, hw, Cache.push, Store.find?_set_of_ne _ (Ne.symm hc)]

/-- What becomes of a cluster depends on what is done for it alone. -/
theorem IsInMemory.after (h : d.IsInMemory) (acts : List Act) : (d.after acts).IsInMemory
    ∧ ∀ c, (d.after acts).standing c
      = (acts.filter (·.contextId == c)).foldl Standing.after (d.standing c) := by
  induction acts using List.reverseRecOn with
  | nil => exact ⟨h, fun _ => rfl⟩
  | append_singleton acts a ih =>
    obtain ⟨hm, hs⟩ := ih
    obtain ⟨hm', hs'⟩ := hm.act a
    rw [after_concat]
    refine ⟨hm', fun c => ?_⟩
    rw [hs' c, hs c, List.filter_append, List.foldl_append]
    by_cases hc : a.contextId = c <;> simp [hc]

theorem IsInMemory.answer_eq (h : d.IsInMemory) (c : String) :
    d.answer c = endpointsOf c ((d.standing c).after (.resolve c)).cached := by
  obtain ⟨-, hs, hresult⟩ := h.resolve (resolves d c)
  have hc := hs c
  rw [if_pos rfl] at hc
  rw [← hc]
  exact hresult

/-- The cache has the list that the register has, if anything, and somebody asked for it. -/
structure Standing.Follows (s : Standing) (list : List Instance) (asked : Prop) : Prop where
  held : s.held = list
  cached : ∀ is, s.cached = some is → is = list
  watched : s.watchers ≠ 0 ↔ asked
  vacant : s.watchers = 0 → s.cached = none

theorem Standing.Follows.resolve {s : Standing} {list : List Instance} {asked : Prop}
    (h : s.Follows list asked) (c : String) : (s.after (.resolve c)).Follows list True := by
  cases hc : s.cached with
  | some is =>
    have hw : s.watchers ≠ 0 := fun hw => by simp [h.vacant hw] at hc
    simp only [Standing.after, hc]
    exact ⟨h.held, h.cached, by simp [hw], h.vacant⟩
  | none =>
    simp only [Standing.after, hc]
    refine ⟨h.held, fun is hi => ?_, by simp, fun hw => absurd hw (Nat.succ_ne_zero _)⟩
    simp only at hi
    split_ifs at hi
    rw [← Option.some.inj hi, h.held]

theorem Standing.Follows.publish {s : Standing} {list : List Instance} {asked : Prop}
    (h : s.Follows list asked) (c : String) (is : List Instance) :
    (s.after (.publish c is)).Follows is asked := by
  refine ⟨rfl, fun js hj => ?_, h.watched, fun hw => ?_⟩
  · simp only [Standing.after] at hj
    split_ifs at hj with hw
    · simp [h.vacant hw] at hj
    · exact (Option.some.inj hj).symm
  · simp only [Standing.after] at hw ⊢
    rw [if_pos hw, h.vacant hw]

/-- A directory that nothing was done with yet. -/
structure IsFresh (d : Directory) : Prop where
  inMemory : d.IsInMemory
  unwatched : ∀ c, d.watcherCount c = 0
  vacant : d.cache = .empty

theorem IsFresh.follows (h : d.IsFresh) (acts : List Act) (c : String) :
    ((d.after acts).standing c).Follows (latest c (d.held c) acts) (.resolve c ∈ acts) := by
  induction acts using List.reverseRecOn with
  | nil =>
    have hnone : (d.standing c).cached = none := by rw [standing, h.vacant]; rfl
    exact ⟨rfl, by simp [after, hnone], by simp [after, standing, h.unwatched], fun _ => hnone⟩
  | append_singleton acts a ih =>
    rw [after_concat, ((h.inMemory.after acts).1.act a).2 c, latest_concat]
    cases a with
    | resolve b =>
      by_cases hb : b = c
      · subst hb
        simpa [Act.contextId] using ih.resolve b
      · simpa [Act.contextId, hb, Ne.symm hb] using ih
    | publish b is =>
      by_cases hb : b = c
      · subst hb
        simpa [Act.contextId] using ih.publish b is
      · simpa [Act.contextId, hb] using ih

/-- An act by which a cluster gets into the cache: a lookup that succeeds, or a publication after a
lookup. -/
def Fills (d : Directory) (c : String) (before : List Act) : Act → Prop
  | .resolve b => b = c ∧ ∃ endpoints, (d.after before).answer c = .ok endpoints
  | .publish b _ => b = c ∧ .resolve c ∈ before

theorem isCached_eq (d : Directory) (c : String) : d.isCached c = (d.standing c).cached.isSome := rfl

theorem answer_isOk_iff (h : d.IsInMemory) (c : String) : (∃ endpoints, d.answer c = .ok endpoints)
    ↔ ((d.standing c).after (.resolve c)).cached.isSome = true := by
  rw [h.answer_eq]
  cases ((d.standing c).after (.resolve c)).cached <;> simp [endpointsOf]

theorem IsFresh.isCached_concat (h : d.IsFresh) (acts : List Act) (a : Act) (c : String) :
    (d.after (acts ++ [a])).isCached c = true
      ↔ (d.after acts).isCached c = true ∨ d.Fills c acts a := by
  have hm := (h.inMemory.after acts).1
  have hf := h.follows acts c
  rw [isCached_eq, isCached_eq, after_concat, (hm.act a).2 c]
  cases a with
  | resolve b =>
    by_cases hb : b = c
    · subst hb
      rw [if_pos (show (Act.resolve b).contextId = b from rfl), Fills, answer_isOk_iff hm]
      simp only [true_and]
      cases hc : ((d.after acts).standing b).cached <;> simp [Standing.after, hc]
    · simp [Act.contextId, hb, Fills]
  | publish b is =>
    by_cases hb : b = c
    · subst hb
      rw [if_pos (show (Act.publish b is).contextId = b from rfl), Fills, ← hf.watched]
      by_cases hw : ((d.after acts).standing b).watchers = 0
      · simp [Standing.after, hw]
      · simp [Standing.after, hw]
    · simp [Act.contextId, hb, Fills]

theorem IsFresh.isCached_iff (h : d.IsFresh) (acts : List Act) (c : String) :
    (d.after acts).isCached c = true
      ↔ ∃ before a rest, acts = before ++ a :: rest ∧ d.Fills c before a := by
  induction acts using List.reverseRecOn with
  | nil =>
    have hnone : d.cache.find? c = none := by rw [h.vacant]; rfl
    simp [isCached_eq, standing, after, hnone]
  | append_singleton acts a ih => rw [h.isCached_concat, ih, exists_split_concat_iff]

/-- A directory on a register in memory goes by the list that was published last.  After anything
that was done with it, looking a cluster up answers with the endpoints of that list in order, unless
it is empty and the cluster is not cached; then the cluster is not known, and the cache stays as it
is.  A cluster is cached if a lookup of it has succeeded, or something was published for it after a
lookup, and it stays cached.  What is done for other clusters makes no difference to it. -/
theorem goes_by_latest (h : d.IsFresh) (acts : List Act) (c : String) :
    (d.after acts).answer c
      = (if latest c (d.held c) acts = [] ∧ (d.after acts).isCached c = false
        then .error (.topologyNotFound c)
        else .ok ((latest c (d.held c) acts).map Instance.endpoint))
    ∧ (∀ e, (d.after acts).answer c = .error e →
      ((d.after acts).resolve c).1.cache = (d.after acts).cache)
    ∧ ((d.after acts).isCached c = true
      ↔ ∃ before a rest, acts = before ++ a :: rest ∧ d.Fills c before a)
    ∧ ((d.after acts).isCached c = true →
      ∀ more, (d.after (acts ++ more)).isCached c = true)
    ∧ (d.after acts).standing c = (d.after (acts.filter (·.contextId == c))).standing c
    ∧ (d.after acts).answer c = (d.after (acts.filter (·.contextId == c))).answer c := by
  have hm := (h.inMemory.after acts).1
  have hf := h.follows acts c
  have halone : (d.after acts).standing c
      = (d.after (acts.filter (·.contextId == c))).standing c := by
    rw [(h.inMemory.after acts).2, (h.inMemory.after _).2, List.filter_filter]
    simp only [Bool.and_self]
  refine ⟨?_, fun e he => ?_, h.isCached_iff acts c, fun hc more => ?_, halone, ?_⟩
  · rw [hm.answer_eq, isCached_eq]
    cases hc : ((d.after acts).standing c).cached with
    | some is => simp [Standing.after, hc, endpointsOf, hf.cached is hc]
    | none =>
      by_cases hl : latest c (d.held c) acts = [] <;>
        simp [Standing.after, hc, hf.held, hl, endpointsOf]
  · have hres := resolves (d.after acts) c
    rw [show ((d.after acts).resolve c).2.2 = _ from he] at hres
    generalize ((d.after acts).resolve c).1 = d' at hres
    cases hres <;> rfl
  · rw [h.isCached_iff] at hc ⊢
    obtain ⟨before, a, rest, rfl, ha⟩ := hc
    exact ⟨before, a, rest ++ more, by simp, ha⟩
  · rw [hm.answer_eq, ((h.inMemory.after _).1).answer_eq, halone]

/-- An empty list is published for a cluster before anybody asked for it and again after that. -/
def emptyTwice : List Act := [.publish "x" [], .resolve "x", .publish "x" []]

theorem goes_by_latest_emptyTwice : ∃ d : Directory, d.IsFresh
    ∧ (d.after (emptyTwice.take 2)).answer "x" = .error (.topologyNotFound "x")
    ∧ (d.after emptyTwice).answer "x" = .ok []
    ∧ (d.after emptyTwice).answer "c" = .ok [Instance.endpoint ⟨"a", 1, "c"⟩] := by
  have hfresh : IsFresh ⟨"memory", "", some (.memory (.ofInstances [⟨"a", 1, "c"⟩])), .empty⟩ :=
    ⟨⟨⟨by decide, by decide⟩, _, rfl⟩, fun _ => rfl, rfl⟩
  obtain ⟨hbefore, -⟩ := goes_by_latest hfresh (emptyTwice.take 2) "x"
  obtain ⟨hafter, -⟩ := goes_by_latest hfresh emptyTwice "x"
  obtain ⟨hother, -⟩ := goes_by_latest hfresh emptyTwice "c"
  refine ⟨_, hfresh, hbefore.trans (if_pos ⟨rfl, rfl⟩), hafter.trans (if_neg ?_),
    hother.trans (if_neg ?_)⟩
  · rintro ⟨-, hcached⟩
    cases hcached
  · rintro ⟨hempty, -⟩
    cases hempty

end Switchyard.Directory
