import Switchyard.Proofs.SceneStep
import Switchyard.Topology.Directory

/-!
# Lookups are up to date

However lookups and publications come between each other, a scene stays coherent (`Scene.Coherent`)
as long as the publications of one cluster come one after the other: once a publication has called
a directory, the directory has nothing in its cache and nothing under way that is older than that
publication.  So a lookup that begins when a publication is over ends after at most four steps of
its own, and answers with the list of that publication or with a later one
(`Scene.lookUp_fresh`).
-/

namespace Switchyard

/-- A watcher of the lookup is subscribed, and its result is not known yet. -/
def LookupStage.isFollowing : LookupStage → Bool
  | .subscribed | .answered _ => true
  | _ => false

/-- Nothing has happened to the task. -/
def TopologyTask.isNew : TopologyTask → Bool
  | .lookup _ _ .begun | .publication _ _ .begun => true
  | _ => false

/-- Whether it is a publication of the cluster that is not over. -/
def TopologyTask.isUnderWay (c : String) : TopologyTask → Bool
  | .publication c' _ stage => c' == c && stage != .calling []
  | .lookup _ _ _ => false

namespace Scene

/-- A cluster is published only when the publications of it that were begun are over. -/
def Allows (s : Scene) : Move → Prop
  | .publish c _ => ∀ x ∈ s.tasks, x.isUnderWay c = false
  | _ => True

instance (s : Scene) : ∀ m, Decidable (s.Allows m)
  | .publish c _ => inferInstanceAs (Decidable (∀ x ∈ s.tasks, x.isUnderWay c = false))
  | .lookUp _ _ => isTrue trivial
  | .goOn _ => isTrue trivial

def Awaited : Scene → List Move → Prop
  | _, [] => True
  | s, m :: ms => s.Allows m ∧ ∀ t ∈ s.step m, t.Awaited ms

instance : ∀ (ms : List Move) (s : Scene), Decidable (s.Awaited ms)
  | [], _ => isTrue trivial
  | m :: ms, s =>
    have := fun t => instDecidableAwaited ms t
    inferInstanceAs (Decidable (s.Allows m ∧ ∀ t ∈ s.step m, t.Awaited ms))

/-- The `i`-th task or one that was begun later has given the list to the register. -/
def Since (s : Scene) (c : String) (i : Nat) (is : List Instance) : Prop :=
  ∃ j stage, i ≤ j ∧ s.tasks[j]? = some (.publication c is stage) ∧ stage ≠ .begun

/-- A directory watches a cluster from the time when its lookup is subscribed. -/
structure Watched (s : Scene) : Prop where
  cached : ∀ {d c is}, s.cached d c = some is → d ∈ s.registry.watchersOf c
  following : ∀ {n d : Nat} {c stage}, s.tasks[n]? = some (.lookup d c stage) →
    stage.isFollowing = true → d ∈ s.registry.watchersOf c
  called : ∀ {i d : Nat} {c is ds}, s.tasks[i]? = some (.publication c is (.calling ds)) →
    d ∈ ds → d ∈ s.registry.watchersOf c

structure Coherent (s : Scene) : Prop extends Watched s where
  ordered : ∀ {i j : Nat} {c is is' stage stage'}, i < j →
    s.tasks[i]? = some (.publication c is stage) →
    s.tasks[j]? = some (.publication c is' stage') → stage = .calling []
  /-- What the register holds is not older than a publication that it has heard of. -/
  stored : ∀ {i : Nat} {c is stage}, s.tasks[i]? = some (.publication c is stage) →
    stage ≠ .begun → s.Since c i (s.registry.instancesOf c)
  /-- Neither is what a directory has that the publication need not call any more. -/
  fresh : ∀ {i d : Nat} {c is ds is'}, s.tasks[i]? = some (.publication c is (.calling ds)) →
    d ∉ ds → s.cached d c = some is' → s.Since c i is'
  /-- Neither is what the directory is about to take in, unless it is too late for that. -/
  found : ∀ {i d n : Nat} {c is ds is'}, s.tasks[i]? = some (.publication c is (.calling ds)) →
    d ∉ ds → s.tasks[n]? = some (.lookup d c (.answered is')) →
    s.Since c i is' ∨ s.cached d c ≠ none

variable {s t : Scene} {a b : TopologyTask} {k : Nat}

theorem tasks_goOn_cases (hk : s.tasks[k]? = some a) (hg : Goes s a b t) {i : Nat}
    {y : TopologyTask} (h : (t.setTask k b).tasks[i]? = some y) :
    i = k ∧ y = b ∨ i ≠ k ∧ s.tasks[i]? = some y := by
  rw [hg.tasks_setTask hk] at h
  split_ifs at h with hki
  · exact Or.inl ⟨hki.symm, (Option.some.inj h).symm⟩
  · exact Or.inr ⟨Ne.symm hki, h⟩

theorem watched_start (registry : Registry Nat) : (start registry).Watched where
  cached h := nomatch h
  following h := nomatch h
  called h := nomatch h

theorem Watched.begin (h : s.Watched) {x : TopologyTask} (hx : x.isNew = true) :
    (s.begin x).Watched where
  cached hc := h.cached hc
  following hn hf := by
    rcases tasks_begin_cases hn with hn | ⟨-, rfl⟩
    · exact h.following hn hf
    · rename_i stage
      cases stage <;> simp [TopologyTask.isNew, LookupStage.isFollowing] at hx hf
  called hi hd := by
    rcases tasks_begin_cases hi with hi | ⟨-, rfl⟩
    · exact h.called hi hd
    · cases hx

theorem Watched.goOn (h : s.Watched) (hk : s.tasks[k]? = some a) (hg : Goes s a b t) :
    (t.setTask k b).Watched where
  cached {d c is} hc := by
    refine hg.watchersOf_subset ?_
    rcases hg.cached_eq_some hc with hc | ⟨rfl, -⟩ | ⟨ds, rfl, -⟩
    · exact h.cached hc
    · exact h.following hk rfl
    · exact h.called hk List.mem_cons_self
  following {n d c stage} hn hf := by
    rcases tasks_goOn_cases hk hg hn with ⟨rfl, rfl⟩ | ⟨-, hn⟩
    · cases hg with
      | subscribe =>
        change d ∈ (s.registry.subscribe c d).watchersOf c
        rw [Registry.watchersOf_subscribe, if_pos rfl]
        exact List.mem_append_right _ (List.mem_singleton_self d)
      | answer => exact h.following hk rfl
      | _ => cases hf
    · exact hg.watchersOf_subset (h.following hn hf)
  called {i d c is ds} hi hd := by
    rcases tasks_goOn_cases hk hg hi with ⟨rfl, rfl⟩ | ⟨-, hi⟩
    · cases hg with
      | read => exact hd
      | call => exact h.called hk (List.mem_cons_of_mem _ hd)
    · exact hg.watchersOf_subset (h.called hi hd)

theorem Since.begin {c : String} {i : Nat} {is : List Instance} (h : s.Since c i is)
    (x : TopologyTask) : (s.begin x).Since c i is := by
  obtain ⟨j, stage, hij, hj, hstage⟩ := h
  exact ⟨j, stage, hij, tasks_begin_of_some hj x, hstage⟩

theorem Since.goOn {c : String} {i : Nat} {is : List Instance} (h : s.Since c i is)
    (hk : s.tasks[k]? = some a) (hg : Goes s a b t) : (t.setTask k b).Since c i is := by
  obtain ⟨j, stage, hij, hj, hstage⟩ := h
  by_cases hkj : k = j
  · subst hkj
    rw [hk, Option.some.injEq] at hj
    subst hj
    obtain ⟨-, next, rfl, hnext⟩ := hg.publication_left
    exact ⟨k, next, hij, by rw [hg.tasks_setTask hk, if_pos rfl], hnext⟩
  · exact ⟨j, stage, hij, by rw [hg.tasks_setTask hk, if_neg hkj, hj], hstage⟩

theorem coherent_start (registry : Registry Nat) : (start registry).Coherent where
  toWatched := watched_start registry
  ordered _ h := nomatch h
  stored h := nomatch h
  fresh h := nomatch h
  found h := nomatch h

theorem Coherent.begin (h : s.Coherent) {x : TopologyTask} (hx : x.isNew = true)
    (hx' : ∀ c is stage, x = .publication c is stage → ∀ y ∈ s.tasks, y.isUnderWay c = false) :
    (s.begin x).Coherent where
  toWatched := h.toWatched.begin hx
  ordered {i j c is is' stage stage'} hij hi hj := by
    rcases tasks_begin_cases hi with hi | ⟨hi, -⟩
    · rcases tasks_begin_cases hj with hj | ⟨-, hj⟩
      · exact h.ordered hij hi hj
      · have := hx' c is' stage' hj.symm _ (List.mem_of_getElem? hi)
        simpa [TopologyTask.isUnderWay] using this
    · have := (List.getElem?_eq_some_iff.mp hj).1
      simp only [Scene.begin, List.length_append, List.length_singleton] at this
      omega
  stored {_ _ _ stage} hi hstage := by
    rcases tasks_begin_cases hi with hi | ⟨-, rfl⟩
    · exact (h.stored hi hstage).begin x
    · cases stage <;> simp [TopologyTask.isNew] at hx hstage
  fresh hi hd hc := by
    rcases tasks_begin_cases hi with hi | ⟨-, rfl⟩
    · exact (h.fresh hi hd hc).begin x
    · cases hx
  found hi hd hn := by
    rcases tasks_begin_cases hi with hi | ⟨-, rfl⟩
    · rcases tasks_begin_cases hn with hn | ⟨-, rfl⟩
      · exact (h.found hi hd hn).imp_left fun hs => hs.begin x
      · cases hx
    · cases hx

theorem since_goOn (hk : s.tasks[k]? = some a) (hg : Goes s a b t) {i : Nat} {c : String}
    {is : List Instance} {next : PublicationStage} (hb : b = .publication c is next)
    (hik : i ≤ k) : (t.setTask k b).Since c i is := by
  subst hb
  exact ⟨k, next, hik, by rw [hg.tasks_setTask hk, if_pos rfl], hg.publication_right.1⟩

section GoOn

variable (h : s.Coherent) (hk : s.tasks[k]? = some a) (hg : Goes s a b t)

include h hk hg

theorem Coherent.ordered_goOn {i j : Nat} {c : String} {is is' : List Instance}
    {stage stage' : PublicationStage} (hij : i < j)
    (hi : (t.setTask k b).tasks[i]? = some (.publication c is stage))
    (hj : (t.setTask k b).tasks[j]? = some (.publication c is' stage')) :
    stage = .calling [] := by
  have hj' : ∃ stage', s.tasks[j]? = some (.publication c is' stage') := by
    rcases tasks_goOn_cases hk hg hj with ⟨rfl, rfl⟩ | ⟨-, hj⟩
    · obtain ⟨-, stage', rfl, -⟩ := hg.publication_right
      exact ⟨stage', hk⟩
    · exact ⟨stage', hj⟩
  obtain ⟨stage', hj'⟩ := hj'
  rcases tasks_goOn_cases hk hg hi with ⟨rfl, rfl⟩ | ⟨-, hi⟩
  · -- a publication that goes on is not over
    obtain ⟨-, last, rfl, hlast⟩ := hg.publication_right
    exact absurd (h.ordered hij hk hj') hlast
  · exact h.ordered hij hi hj'

/-- Of two publications of one cluster that are not both over the later one is under way. -/
theorem Coherent.le_of_goOn {i : Nat} {c : String} {is is' : List Instance}
    {stage next : PublicationStage} (hb : b = .publication c is' next)
    (hi : s.tasks[i]? = some (.publication c is stage)) : i ≤ k := by
  subst hb
  obtain ⟨-, last, rfl, hlast⟩ := hg.publication_right
  exact Nat.le_of_not_lt fun hki => hlast (h.ordered hki hk hi)

theorem Coherent.stored_goOn {i : Nat} {c : String} {is : List Instance}
    {stage : PublicationStage} (hi : (t.setTask k b).tasks[i]? = some (.publication c is stage))
    (hstage : stage ≠ .begun) : (t.setTask k b).Since c i (t.registry.instancesOf c) := by
  rcases tasks_goOn_cases hk hg hi with ⟨rfl, rfl⟩ | ⟨-, hi⟩
  · cases hg with
    | store =>
      rw [Registry.instancesOf_store, if_pos rfl]
      exact since_goOn hk .store rfl (Nat.le_refl _)
    | read => exact (h.stored hk (by simp)).goOn hk .read
    | call => exact (h.stored hk (by simp)).goOn hk .call
  · rcases hg.instancesOf_cases c with hr | ⟨-, hb⟩
    · rw [hr]
      exact (h.stored hi hstage).goOn hk hg
    · exact since_goOn hk hg hb (h.le_of_goOn hk hg hb hi)

/-- What a directory has after a step is what it had, or what a lookup has found that nothing has
overtaken, or what a publication has just called it with. -/
theorem Coherent.fresh_of_calling {i d : Nat} {c : String} {is is' : List Instance}
    {ds : List Nat} (hi : s.tasks[i]? = some (.publication c is (.calling ds))) (hd : d ∉ ds)
    (hc : t.cached d c = some is') : (t.setTask k b).Since c i is' := by
  rcases hg.cached_eq_some hc with hc | ⟨rfl, hnone⟩ | ⟨rest, -, hb⟩
  · exact (h.fresh hi hd hc).goOn hk hg
  · exact ((h.found hi hd hk).resolve_right fun hne => hne hnone).goOn hk hg
  · exact since_goOn hk hg hb (h.le_of_goOn hk hg hb hi)

theorem Coherent.fresh_goOn {i d : Nat} {c : String} {is is' : List Instance} {ds : List Nat}
    (hi : (t.setTask k b).tasks[i]? = some (.publication c is (.calling ds))) (hd : d ∉ ds)
    (hc : t.cached d c = some is') : (t.setTask k b).Since c i is' := by
  rcases tasks_goOn_cases hk hg hi with ⟨rfl, rfl⟩ | ⟨-, hi⟩
  · cases hg with
    | read => exact absurd (h.cached hc) hd
    | @call d' =>
      by_cases hdd : d = d'
      · subst hdd
        rw [cached_push, if_pos ⟨rfl, rfl⟩, Option.some.injEq] at hc
        subst hc
        exact since_goOn hk .call rfl (Nat.le_refl _)
      · exact h.fresh_of_calling hk .call hk (by simp [hdd, hd]) hc
  · exact h.fresh_of_calling hk hg hi hd hc

theorem Coherent.found_goOn {i d n : Nat} {c : String} {is is' : List Instance} {ds : List Nat}
    (hi : (t.setTask k b).tasks[i]? = some (.publication c is (.calling ds))) (hd : d ∉ ds)
    (hn : (t.setTask k b).tasks[n]? = some (.lookup d c (.answered is'))) :
    (t.setTask k b).Since c i is' ∨ t.cached d c ≠ none := by
  rcases tasks_goOn_cases hk hg hi with ⟨rfl, rfl⟩ | ⟨-, hi'⟩
  · -- the publication goes on, so the lookup was under way before
    have hn' : s.tasks[n]? = some (.lookup d c (.answered is')) := by
      rcases tasks_goOn_cases hk hg hn with ⟨-, hb⟩ | ⟨-, hn⟩
      · cases hb
      · exact hn
    cases hg with
    | read => exact absurd (h.following hn' rfl) hd
    | @call d' =>
      by_cases hdd : d = d'
      · subst hdd
        rw [cached_push, if_pos ⟨rfl, rfl⟩]
        exact Or.inr (by simp)
      · have hg : Goes s (.publication c is (.calling (d' :: ds)))
            (.publication c is (.calling ds)) (s.push d' c is) := .call
        exact (h.found hk (by simp [hdd, hd]) hn').imp (·.goOn hk hg) hg.cached_ne_none
  · rcases tasks_goOn_cases hk hg hn with ⟨rfl, rfl⟩ | ⟨-, hn'⟩
    · cases hg with
      | answer => exact Or.inl ((h.stored hi' (by simp)).goOn hk .answer)
    · exact (h.found hi' hd hn').imp (·.goOn hk hg) hg.cached_ne_none

theorem Coherent.goOn : (t.setTask k b).Coherent where
  toWatched := h.toWatched.goOn hk hg
  ordered := h.ordered_goOn hk hg
  stored := h.stored_goOn hk hg
  fresh := h.fresh_goOn hk hg
  found := h.found_goOn hk hg

end GoOn

theorem Coherent.step {m : Move} (h : s.Coherent) (hm : s.Allows m)
    (hs : Step s m t) : t.Coherent := by
  cases hs with
  | lookUp d c => exact h.begin rfl fun _ _ _ hx => nomatch hx
  | publish c is =>
    refine h.begin rfl fun c' is' stage hx => ?_
    cases hx
    exact hm
  | goOn hk hg => exact h.goOn hk hg

theorem run_awaited {P : Scene → Prop} (hP : ∀ {s t : Scene} {m : Move}, P s →
    s.Allows m → Step s m t → P t) :
    ∀ {ms ns : List Move} {s t : Scene}, P s → s.run ms = some t → s.Awaited (ms ++ ns) →
      P t ∧ t.Awaited ns
  | [], _, _, _, hs, h, ha => Option.some.inj h ▸ ⟨hs, ha⟩
  | _ :: _, _, _, _, hs, h, ha =>
    let ⟨_, hu, ht⟩ := Option.bind_eq_some_iff.mp h
    run_awaited hP (hP hs ha.1 (.of_step hu)) ht (ha.2 _ hu)

/-- The `i`-th task is a publication that is over, and the `n`-th one a lookup of its cluster that
is up to date with it. -/
structure UpToDate (i n d : Nat) (c : String) (is : List Instance) (s : Scene) : Prop where
  coherent : s.Coherent
  published : s.tasks[i]? = some (.publication c is (.calling []))
  current : ∃ stage, s.tasks[n]? = some (.lookup d c stage)
    ∧ ∀ is', stage.list? = some is' → s.Since c i is'

theorem UpToDate.step {i n d : Nat} {c : String} {is : List Instance} {m : Move}
    (h : s.UpToDate i n d c is) (hm : s.Allows m) (hs : Step s m t) :
    t.UpToDate i n d c is := by
  obtain ⟨stage, hn, hcur⟩ := h.current
  refine ⟨h.coherent.step hm hs, ?_, ?_⟩
  · cases hs with
    | lookUp | publish => exact tasks_begin_of_some h.published _
    | @goOn k a b t hk hg =>
      rw [hg.tasks_setTask hk]
      split_ifs with hki
      · subst hki
        rw [h.published, Option.some.injEq] at hk
        subst hk
        exact absurd rfl hg.publication_left.1
      · exact h.published
  · cases hs with
    | lookUp | publish =>
      exact ⟨stage, tasks_begin_of_some hn _, fun is' hl => (hcur is' hl).begin _⟩
    | @goOn k a b t hk hg =>
      by_cases hkn : k = n
      · subst hkn
        rw [hn, Option.some.injEq] at hk
        subst hk
        obtain ⟨next, rfl, hl⟩ := hg.lookup_left
        have hsince : ∀ is', next.list? = some is' → s.Since c i is' := by
          intro is' his
          rcases hl is' his with hc | hr | hstage
          · -- the publication is over, so it need not call the directory any more
            exact h.coherent.fresh h.published List.not_mem_nil hc
          · exact hr ▸ h.coherent.stored h.published (by simp)
          · exact hcur is' hstage
        exact ⟨next, by rw [hg.tasks_setTask hn, if_pos rfl], fun is' his =>
          (hsince is' his).goOn hn hg⟩
      · exact ⟨stage, by rw [hg.tasks_setTask hk, if_neg hkn, hn],
          fun is' hl => (hcur is' hl).goOn hk hg⟩

/-- A directory that looks up a cluster when a publication of it is over answers with all
instances of that publication or of a later one, in order.  If there are none it may say instead
that the cluster is not known, as long as it has nothing in its cache.  Until it has answered
nothing keeps it from going on, and after at most four steps of its own it has answered.  Its
answer is what is in its cache at some moment since. -/
theorem lookUp_fresh {registry : Registry Nat} {before after : List Move} {s t : Scene}
    {i d : Nat} {c : String} {is : List Instance} (hs : (start registry).run before = some s)
    (hi : s.tasks[i]? = some (.publication c is (.calling [])))
    (ht : s.run (.lookUp d c :: after) = some t)
    (ha : (start registry).Awaited (before ++ .lookUp d c :: after)) :
    ∃ stage, t.tasks[s.tasks.length]? = some (.lookup d c stage)
      ∧ after.count (.goOn s.tasks.length) ≤ 4
      ∧ ((∀ result, stage ≠ .ended result) ∧ after.count (.goOn s.tasks.length) < 4
          ∧ (t.step (.goOn s.tasks.length)).isSome = true
        ∨ ∃ result, stage = .ended result
          ∧ (∃ is', t.Since c i is' ∧ (endpointsOf c result = .ok (is'.map Instance.endpoint)
            ∨ is' = [] ∧ endpointsOf c result = .error (.topologyNotFound c)))
          ∧ ∃ k u, s.run ((.lookUp d c :: after).take k) = some u
            ∧ (u.cacheOf d).find? c = result) := by
  obtain ⟨hcoh, ha⟩ := run_awaited (fun h hm hs => h.step hm hs) (coherent_start registry) hs ha
  obtain ⟨u, hu, hrun⟩ := Option.bind_eq_some_iff.mp ht
  obtain rfl := Option.some.inj hu
  have hn : (s.begin (.lookup d c .begun)).tasks[s.tasks.length]? = some (.lookup d c .begun) :=
    List.getElem?_concat_length
  have hup : (s.begin (.lookup d c .begun)).UpToDate i s.tasks.length d c is :=
    ⟨hcoh.begin rfl (fun _ _ _ hx => nomatch hx), tasks_begin_of_some hi _, .begun, hn,
      fun _ h => nomatch h⟩
  have hafter : (s.begin (.lookup d c .begun)).Awaited (after ++ []) :=
    (List.append_nil after).symm ▸ ha.2 _ rfl
  obtain ⟨⟨-, -, stage, hstage, hcur⟩, -⟩ :=
    run_awaited (fun h hm hs => h.step hm hs) hup hrun hafter
  obtain ⟨last, hlast, hleft : _ ≤ 4⟩ := left_add_count_le hn hrun
  rw [hstage, Option.some.injEq, TopologyTask.lookup.injEq] at hlast
  obtain ⟨-, -, rfl⟩ := hlast
  refine ⟨stage, hstage, Nat.le_of_add_left_le hleft, ?_⟩
  by_cases hend : ∃ result, stage = .ended result
  · obtain ⟨result, rfl⟩ := hend
    refine Or.inr ⟨result, rfl, ⟨_, hcur _ rfl, ?_⟩, ?_⟩
    · cases result with
      | some is' => exact Or.inl rfl
      | none => exact Or.inr ⟨rfl, rfl⟩
    · obtain ⟨k, u, hu, hc⟩ := exists_moment hn (by simp) hrun hstage
      exact ⟨k + 1, u, hu, hc⟩
  · have hne : ∀ result, stage ≠ .ended result := fun r hr => hend ⟨r, hr⟩
    have hpos := LookupStage.left_pos hne
    exact Or.inl ⟨hne, by omega, step_isSome_of_lookup hstage hne⟩

/-- Directory 0 looks up a cluster and is overtaken by a publication; while directory 1 looks it
up, a second list comes. -/
def overtaken : List Move × List Move :=
  ([.lookUp 0 "c", .goOn 0, .goOn 0, .goOn 0, .publish "c" [⟨"10.0.0.1", 80, "c"⟩], .goOn 1,
      .goOn 1, .goOn 1],
    [.goOn 2, .goOn 2, .publish "c" [⟨"10.0.0.2", 80, "c"⟩], .goOn 3, .goOn 2, .goOn 0, .goOn 2])

theorem lookUp_fresh_overtaken : ∃ s t, (start .empty).run overtaken.1 = some s
    ∧ s.run (.lookUp 1 "c" :: overtaken.2) = some t
    ∧ (start .empty).Awaited (overtaken.1 ++ .lookUp 1 "c" :: overtaken.2)
    ∧ overtaken.2.count (.goOn 2) = 4
    ∧ ∃ result is', t.tasks[2]? = some (.lookup 1 "c" (.ended result)) ∧ t.Since "c" 1 is'
      ∧ endpointsOf "c" result = .ok [.ofAddress "10.0.0.2:80"]
      ∧ endpointsOf "c" result = .ok (is'.map Instance.endpoint) := by
  obtain ⟨s, t, hs, hi, hlen, ht, hhas⟩ : ∃ s t, (start .empty).run overtaken.1 = some s
      ∧ s.tasks[1]? = some (.publication "c" [⟨"10.0.0.1", 80, "c"⟩] (.calling []))
      ∧ s.tasks.length = 2 ∧ s.run (.lookUp 1 "c" :: overtaken.2) = some t
      ∧ t.tasks[2]? = some (.lookup 1 "c" (.ended (some [⟨"10.0.0.2", 80, "c"⟩]))) :=
    ⟨_, _, rfl, rfl, rfl, rfl, rfl⟩
  have ha : (start .empty).Awaited (overtaken.1 ++ .lookUp 1 "c" :: overtaken.2) := by decide
  have hcount : overtaken.2.count (.goOn 2) = 4 := by decide
  obtain ⟨stage, hstage, -, hl⟩ := lookUp_fresh hs hi ht ha
  rw [hlen] at hstage hl
  rcases hl with ⟨-, hlt, -⟩ | ⟨result, rfl, ⟨is', hsince, hl⟩, -⟩
  · -- the lookup has taken its four steps
    exact absurd hlt (by rw [hcount]; decide)
  · have hresult : result = some [⟨"10.0.0.2", 80, "c"⟩] := by
      simpa using hstage.symm.trans hhas
    subst hresult
    rcases hl with hok | ⟨-, hno⟩
    · exact ⟨s, t, hs, ht, ha, hcount, _, is', hstage, hsince, rfl, hok⟩
    · cases hno

end Scene

end Switchyard
