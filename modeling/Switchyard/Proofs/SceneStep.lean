import Mathlib.Tactic.SplitIfs
import Switchyard.Topology.Scene

/-!
# What a step does to a scene

`Scene.Goes` lists the steps that a task can take and what each does to the register and the
caches, and `Scene.Step` what can happen in a scene.  Only a lookup that ends and a call of a
watcher write to a cache (`Scene.Goes.cached_eq_some`), and only a publication changes what the
register holds (`Scene.Goes.instancesOf_cases`).  Each step of a lookup brings it nearer to its end
and no other step sets it back, so it takes at most four of them (`Scene.left_add_count_le`).
-/

namespace Switchyard

namespace Cache

theorem settle_snd (k : Cache) (c : String) (found : List Instance) :
    (k.settle c found).2
      = match k.find? c with
        | some is => some is
        | none => if found = [] then none else some found := by
  unfold settle fill
  cases hk : k.find? c <;> cases found <;> simp [hk]

theorem find?_settle (k : Cache) (c c' : String) (found : List Instance) :
    (k.settle c found).1.find? c' = if c' = c then (k.settle c found).2 else k.find? c' := by
  split_ifs with hc
  · rw [hc]
    rfl
  · unfold settle fill
    cases hk : k.find? c <;> cases found <;> simp [Store.find?_set_of_ne _ hc]

end Cache

/-- The list that a lookup answers with, as soon as it can be told. -/
def LookupStage.list? : LookupStage → Option (List Instance)
  | .answered found => some found
  | .ended result => some (result.getD [])
  | _ => none

/-- The number of steps that a lookup takes from here at most. -/
def LookupStage.left : LookupStage → Nat
  | .begun => 4
  | .missed => 3
  | .subscribed => 2
  | .answered _ => 1
  | .ended _ => 0

theorem LookupStage.left_pos {stage : LookupStage} (h : ∀ r, stage ≠ .ended r) :
    0 < stage.left := by
  cases stage with
  | ended r => exact absurd rfl (h r)
  | _ => exact Nat.succ_pos _

namespace Scene

/-- What a directory has in its cache for a cluster. -/
def cached (s : Scene) (d : Nat) (c : String) : Option (List Instance) := (s.cacheOf d).find? c

/-- The steps that a task can take: what it is then, and the scene around it. -/
inductive Goes (s : Scene) : TopologyTask → TopologyTask → Scene → Prop
  | hit {d : Nat} {c : String} {is : List Instance} (h : s.cached d c = some is) :
    Goes s (.lookup d c .begun) (.lookup d c (.ended (some is))) s
  | miss {d : Nat} {c : String} (h : s.cached d c = none) :
    Goes s (.lookup d c .begun) (.lookup d c .missed) s
  | subscribe {d : Nat} {c : String} : Goes s (.lookup d c .missed) (.lookup d c .subscribed)
      { s with registry := s.registry.subscribe c d }
  | answer {d : Nat} {c : String} : Goes s (.lookup d c .subscribed)
      (.lookup d c (.answered (s.registry.instancesOf c))) s
  | settle {d : Nat} {c : String} {found : List Instance} : Goes s (.lookup d c (.answered found))
      (.lookup d c (.ended ((s.cacheOf d).settle c found).2))
      (s.setCache d ((s.cacheOf d).settle c found).1)
  | store {c : String} {is : List Instance} : Goes s (.publication c is .begun)
      (.publication c is .stored) { s with registry := s.registry.store c is }
  | read {c : String} {is : List Instance} : Goes s (.publication c is .stored)
      (.publication c is (.calling (s.registry.watchersOf c))) s
  | call {d : Nat} {ds : List Nat} {c : String} {is : List Instance} :
    Goes s (.publication c is (.calling (d :: ds))) (.publication c is (.calling ds))
      (s.push d c is)

/-- What can happen in a scene. -/
inductive Step (s : Scene) : Move → Scene → Prop
  | lookUp (d : Nat) (c : String) : Step s (.lookUp d c) (s.begin (.lookup d c .begun))
  | publish (c : String) (is : List Instance) :
    Step s (.publish c is) (s.begin (.publication c is .begun))
  | goOn {i : Nat} {a b : TopologyTask} {t : Scene} (hi : s.tasks[i]? = some a)
    (hg : Goes s a b t) : Step s (.goOn i) (t.setTask i b)

variable {s t : Scene} {a b : TopologyTask}

theorem goes_of_advanceLookup {d : Nat} {c : String} {stage next : LookupStage}
    (h : s.advanceLookup d c stage = some (t, next)) :
    Goes s (.lookup d c stage) (.lookup d c next) t := by
  cases stage with
  | begun =>
    simp only [advanceLookup] at h
    split at h
    · rename_i is hc
      cases h
      exact .hit hc
    · rename_i hc
      cases h
      exact .miss hc
  | missed => cases h; exact .subscribe
  | subscribed => cases h; exact .answer
  | answered found => cases h; exact .settle
  | ended result => cases h

theorem goes_of_advancePublication {c : String} {is : List Instance}
    {stage next : PublicationStage} (h : s.advancePublication c is stage = some (t, next)) :
    Goes s (.publication c is stage) (.publication c is next) t := by
  cases stage with
  | begun => cases h; exact .store
  | stored => cases h; exact .read
  | calling ds =>
    cases ds with
    | nil => cases h
    | cons d ds => cases h; exact .call

theorem Step.of_step {m : Move} (h : s.step m = some t) : Step s m t := by
  cases m with
  | lookUp d c => exact Option.some.inj h ▸ .lookUp d c
  | publish c is => exact Option.some.inj h ▸ .publish c is
  | goOn i =>
    simp only [step] at h
    split at h
    · rename_i d c stage hi
      obtain ⟨⟨u, next⟩, hu, rfl⟩ := Option.map_eq_some_iff.mp h
      exact .goOn hi (goes_of_advanceLookup hu)
    · rename_i c is stage hi
      obtain ⟨⟨u, next⟩, hu, rfl⟩ := Option.map_eq_some_iff.mp h
      exact .goOn hi (goes_of_advancePublication hu)
    · simp at h

theorem Goes.tasks_eq (h : Goes s a b t) : t.tasks = s.tasks := by cases h <;> rfl

theorem Goes.watchersOf_subset (h : Goes s a b t) {c : String} {d : Nat}
    (hd : d ∈ s.registry.watchersOf c) : d ∈ t.registry.watchersOf c := by
  cases h with
  | subscribe =>
    rw [Registry.watchersOf_subscribe]
    split_ifs
    · exact List.mem_append_left _ hd
    · exact hd
  | _ => exact hd

theorem Goes.instancesOf_cases (h : Goes s a b t) (c : String) :
    t.registry.instancesOf c = s.registry.instancesOf c
      ∨ a = .publication c (t.registry.instancesOf c) .begun
        ∧ b = .publication c (t.registry.instancesOf c) .stored := by
  cases h with
  | @store c' is =>
    rw [Registry.instancesOf_store]
    split_ifs with hc
    · subst hc
      exact Or.inr ⟨rfl, rfl⟩
    · exact Or.inl rfl
  | _ => exact Or.inl rfl

theorem cached_setCache (s : Scene) (d d' : Nat) (k : Cache) (c : String) :
    (s.setCache d k).cached d' c = if d' = d then k.find? c else s.cached d' c := by
  unfold cached
  rw [cacheOf_setCache]
  split_ifs <;> rfl

theorem cached_settle (s : Scene) (d d' : Nat) (c c' : String) (found : List Instance) :
    (s.setCache d ((s.cacheOf d).settle c found).1).cached d' c'
      = if d' = d ∧ c' = c then ((s.cacheOf d).settle c found).2 else s.cached d' c' := by
  rw [cached_setCache, Cache.find?_settle]
  by_cases hd : d' = d
  · subst hd
    by_cases hc : c' = c <;> simp [hc, cached]
  · simp [hd]

theorem cached_push (s : Scene) (d d' : Nat) (c c' : String) (is : List Instance) :
    (s.push d c is).cached d' c' = if d' = d ∧ c' = c then some is else s.cached d' c' := by
  change (s.setCache d _).cached d' c' = _
  rw [cached_setCache, Cache.push, Store.find?_set]
  by_cases hd : d' = d
  · subst hd
    by_cases hc : c' = c <;> simp [hc, cached]
  · simp [hd]

/-- What is in a cache after a step was there, or it was found by a lookup that ends with nothing
in its way, or it is called out by a publication. -/
theorem Goes.cached_eq_some (h : Goes s a b t) {d : Nat} {c : String} {is : List Instance}
    (hc : t.cached d c = some is) :
    s.cached d c = some is ∨ (a = .lookup d c (.answered is) ∧ s.cached d c = none)
      ∨ ∃ ds, a = .publication c is (.calling (d :: ds)) ∧ b = .publication c is (.calling ds) := by
  cases h with
  | @settle d' c' found =>
    rw [cached_settle] at hc
    split_ifs at hc with hdc
    · obtain ⟨rfl, rfl⟩ := hdc
      rw [Cache.settle_snd] at hc
      change (match s.cached d c with | some is => some is | none => _) = some is at hc
      cases hk : s.cached d c with
      | some is' =>
        rw [hk] at hc
        exact Or.inl hc
      | none =>
        rw [hk] at hc
        simp only [] at hc
        split_ifs at hc with hf
        cases hc
        exact Or.inr (Or.inl ⟨rfl, rfl⟩)
    · exact Or.inl hc
  | @call d' ds c' is' =>
    rw [cached_push] at hc
    split_ifs at hc with hdc
    · obtain ⟨rfl, rfl⟩ := hdc
      cases hc
      exact Or.inr (Or.inr ⟨ds, rfl, rfl⟩)
    · exact Or.inl hc
  | _ => exact Or.inl hc

theorem Goes.cached_ne_none (h : Goes s a b t) {d : Nat} {c : String} (hc : s.cached d c ≠ none) :
    t.cached d c ≠ none := by
  cases h with
  | @settle d' c' found =>
    rw [cached_settle]
    split_ifs with hdc
    · obtain ⟨rfl, rfl⟩ := hdc
      obtain ⟨is, his⟩ := Option.ne_none_iff_exists'.mp hc
      rw [Cache.settle_snd, show (s.cacheOf d).find? c = some is from his]
      simp
    · exact hc
  | call =>
    rw [cached_push]
    split_ifs
    · simp
    · exact hc
  | _ => exact hc

/-- A publication that goes on is of the same list; the register has it from then on. -/
theorem Goes.publication_left {c : String} {is : List Instance} {stage : PublicationStage}
    (h : Goes s (.publication c is stage) b t) :
    stage ≠ .calling [] ∧ ∃ next, b = .publication c is next ∧ next ≠ .begun := by
  cases h <;> exact ⟨by simp, _, rfl, by simp⟩

theorem Goes.publication_right {c : String} {is : List Instance} {next : PublicationStage}
    (h : Goes s a (.publication c is next) t) :
    next ≠ .begun ∧ ∃ stage, a = .publication c is stage ∧ stage ≠ .calling [] := by
  cases h <;> exact ⟨by simp, _, rfl, by simp⟩

/-- A lookup has its list from the cache, from the register or from its last step. -/
theorem Goes.lookup_left {d : Nat} {c : String} {stage : LookupStage}
    (h : Goes s (.lookup d c stage) b t) : ∃ next, b = .lookup d c next
      ∧ ∀ is, next.list? = some is →
        s.cached d c = some is ∨ s.registry.instancesOf c = is ∨ stage.list? = some is := by
  cases h with
  | hit hc => exact ⟨_, rfl, fun is hl => Or.inl (Option.some.inj hl ▸ hc)⟩
  | miss => exact ⟨_, rfl, fun is hl => nomatch hl⟩
  | subscribe => exact ⟨_, rfl, fun is hl => nomatch hl⟩
  | answer => exact ⟨_, rfl, fun is hl => Or.inr (Or.inl (Option.some.inj hl))⟩
  | @settle _ _ found =>
    refine ⟨_, rfl, fun is hl => ?_⟩
    rw [LookupStage.list?, Cache.settle_snd, Option.some.injEq] at hl
    subst hl
    unfold cached
    cases hk : (s.cacheOf d).find? c with
    | some is => exact Or.inl rfl
    | none =>
      refine Or.inr (Or.inr ?_)
      by_cases hf : found = [] <;> simp [LookupStage.list?, hf]

theorem Goes.left_lt {d : Nat} {c : String} {stage next : LookupStage}
    (h : Goes s (.lookup d c stage) (.lookup d c next) t) : next.left < stage.left := by
  cases h <;> simp [LookupStage.left]

theorem Goes.tasks_setTask (hg : Goes s a b t) {k : Nat} (hk : s.tasks[k]? = some a) (i : Nat) :
    (t.setTask k b).tasks[i]? = if k = i then some b else s.tasks[i]? := by
  rw [setTask, hg.tasks_eq]
  split_ifs with hi
  · subst hi
    exact List.getElem?_set_self (List.getElem?_eq_some_iff.mp hk).1
  · exact List.getElem?_set_ne hi

theorem tasks_begin_of_some {i : Nat} (h : s.tasks[i]? = some a) (x : TopologyTask) :
    (s.begin x).tasks[i]? = some a := by
  rw [begin, List.getElem?_append_left (List.getElem?_eq_some_iff.mp h).1, h]

theorem tasks_begin_cases {i : Nat} {x : TopologyTask} (h : (s.begin x).tasks[i]? = some a) :
    s.tasks[i]? = some a ∨ i = s.tasks.length ∧ a = x := by
  simp only [begin, List.getElem?_append, List.getElem?_singleton] at h
  split_ifs at h with hi h0
  · exact Or.inl h
  · exact Or.inr ⟨by omega, (Option.some.inj h).symm⟩

theorem Goes.cached_of_ended {d : Nat} {c : String} {stage : LookupStage}
    {result : Option (List Instance)}
    (h : Goes s (.lookup d c stage) (.lookup d c (.ended result)) t) : t.cached d c = result := by
  cases h with
  | hit hc => exact hc
  | settle => rw [cached_settle, if_pos ⟨rfl, rfl⟩]

theorem Step.ended {m : Move} (hs : Step s m t) {n d : Nat} {c : String}
    {result : Option (List Instance)} (hn : s.tasks[n]? = some (.lookup d c (.ended result))) :
    t.tasks[n]? = some (.lookup d c (.ended result)) := by
  cases hs with
  | lookUp | publish => exact tasks_begin_of_some hn _
  | @goOn k a b t hk hg =>
    rw [hg.tasks_setTask hk]
    split_ifs with hkn
    · subst hkn
      rw [hn, Option.some.injEq] at hk
      subst hk
      cases hg
    · exact hn

theorem run_ended {n d : Nat} {c : String} {result : Option (List Instance)} :
    ∀ {ms : List Move} {s t : Scene}, s.tasks[n]? = some (.lookup d c (.ended result)) →
      s.run ms = some t → t.tasks[n]? = some (.lookup d c (.ended result))
  | [], _, _, hn, h => Option.some.inj h ▸ hn
  | _ :: _, _, _, hn, h =>
    let ⟨_, hu, ht⟩ := Option.bind_eq_some_iff.mp h
    run_ended ((Step.of_step hu).ended hn) ht

theorem step_isSome_of_lookup {n d : Nat} {c : String} {stage : LookupStage}
    (hn : s.tasks[n]? = some (.lookup d c stage)) (hstage : ∀ r, stage ≠ .ended r) :
    (s.step (.goOn n)).isSome = true := by
  simp only [step, hn, Option.isSome_map]
  cases stage with
  | begun =>
    simp only [advanceLookup]
    split <;> rfl
  | ended r => exact absurd rfl (hstage r)
  | _ => rfl

/-- Its own steps bring a lookup nearer to its end, and the steps of others leave it as it is. -/
theorem Step.left_add_count_le {m : Move} (hs : Step s m t) {n d : Nat} {c : String}
    {stage : LookupStage} (hn : s.tasks[n]? = some (.lookup d c stage)) :
    ∃ next, t.tasks[n]? = some (.lookup d c next)
      ∧ next.left + [m].count (.goOn n) ≤ stage.left := by
  cases hs with
  | lookUp | publish => exact ⟨stage, tasks_begin_of_some hn _, by simp⟩
  | @goOn k a b t hk hg =>
    by_cases hkn : k = n
    · subst hkn
      rw [hn, Option.some.injEq] at hk
      subst hk
      obtain ⟨next, rfl, -⟩ := hg.lookup_left
      refine ⟨next, by rw [hg.tasks_setTask hn, if_pos rfl], ?_⟩
      rw [List.count_singleton_self]
      exact hg.left_lt
    · exact ⟨stage, by rw [hg.tasks_setTask hk, if_neg hkn, hn], by simp [hkn]⟩

theorem left_add_count_le {n d : Nat} {c : String} : ∀ {ms : List Move} {s t : Scene}
    {stage : LookupStage}, s.tasks[n]? = some (.lookup d c stage) → s.run ms = some t →
    ∃ last, t.tasks[n]? = some (.lookup d c last) ∧ last.left + ms.count (.goOn n) ≤ stage.left
  | [], _, _, stage, hn, h => ⟨stage, Option.some.inj h ▸ hn, Nat.le_refl _⟩
  | m :: ms, _, _, stage, hn, h => by
    obtain ⟨u, hu, hrun⟩ := Option.bind_eq_some_iff.mp h
    obtain ⟨next, hnext, hstep⟩ := (Step.of_step hu).left_add_count_le hn
    obtain ⟨last, hlast, hrest⟩ := left_add_count_le hnext hrun
    refine ⟨last, hlast, ?_⟩
    rw [← List.singleton_append, List.count_append]
    omega

/-- In a run that ends a lookup there is a moment at which the directory has the result in its
cache. -/
theorem exists_moment {n d : Nat} {c : String} {result : Option (List Instance)} :
    ∀ {ms : List Move} {s t : Scene} {stage : LookupStage},
      s.tasks[n]? = some (.lookup d c stage) → (∀ r, stage ≠ .ended r) → s.run ms = some t →
      t.tasks[n]? = some (.lookup d c (.ended result)) →
      ∃ k u, s.run (ms.take k) = some u ∧ u.cached d c = result
  | [], _, _, stage, hn, hstage, h, ht => by
    obtain rfl := Option.some.inj h
    rw [hn, Option.some.injEq, TopologyTask.lookup.injEq] at ht
    exact absurd ht.2.2 (hstage result)
  | m :: ms, s, t, stage, hn, hstage, h, ht => by
    obtain ⟨u, hu, hrun⟩ := Option.bind_eq_some_iff.mp h
    have hgo : ∀ {next}, u.tasks[n]? = some (.lookup d c next) → (∀ r, next ≠ .ended r) →
        ∃ k v, s.run ((m :: ms).take k) = some v ∧ v.cached d c = result := by
      intro next hnext hne
      obtain ⟨k, v, hv, hc⟩ := exists_moment hnext hne hrun ht
      exact ⟨k + 1, v, by rw [List.take_succ_cons, run, hu, Option.bind_some, hv], hc⟩
    cases Step.of_step hu with
    | lookUp | publish => exact hgo (tasks_begin_of_some hn _) hstage
    | @goOn k a b u hk hg =>
      by_cases hkn : k = n
      · subst hkn
        rw [hn, Option.some.injEq] at hk
        subst hk
        obtain ⟨next, rfl, -⟩ := hg.lookup_left
        have hnext : (u.setTask k (.lookup d c next)).tasks[k]? = some (.lookup d c next) := by
          rw [hg.tasks_setTask hn, if_pos rfl]
        cases next with
        | ended r =>
          refine ⟨1, _, by rw [List.take_succ_cons, List.take_zero, run, hu]; rfl, ?_⟩
          have := run_ended hnext hrun
          rw [ht, Option.some.injEq, TopologyTask.lookup.injEq, LookupStage.ended.injEq] at this
          exact hg.cached_of_ended.trans this.2.2.symm
        | _ => exact hgo hnext (by simp)
      · exact hgo (by rw [hg.tasks_setTask hk, if_neg hkn, hn]) hstage

/-- What is told of the moves of a run, in order. -/
def collect {γ : Type} (f : Scene → Move → Option γ) : Scene → List Move → List γ
  | _, [] => []
  | s, m :: ms => (f s m).toList ++
    match s.step m with
    | some t => t.collect f ms
    | none => []

theorem collect_concat {γ : Type} (f : Scene → Move → Option γ) {ms : List Move}
    (h : s.run ms = some t) (m : Move) :
    s.collect f (ms ++ [m]) = s.collect f ms ++ (f t m).toList := by
  induction ms generalizing s with
  | nil =>
    cases h
    simp [collect]
    split <;> rfl
  | cons n ms ih =>
    obtain ⟨u, hu, h⟩ := Option.bind_eq_some_iff.mp h
    simp only [List.cons_append, collect, hu, ih h, List.append_assoc]

end Scene

end Switchyard
