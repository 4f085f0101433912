import Switchyard.Proofs.Freshness
import Switchyard.Proofs.Subscriptions

/-!
# Publications that overlap

A publication writes its list to the register in one step and to the caches in others.  A cache
takes what it is called with, so it ends up with the last list that concerns it: one that the
register took in, or one that a later call brought (`Scene.Heard`).  As long as every list that the
register takes in is with all watchers before the next one comes, that is the register's own list
(`Scene.InStep`).  Otherwise the calls of an older publication can come last, and from then on
every cache of the cluster holds the older list (`Scene.exists_overtaken`).
-/

namespace Switchyard

/-- The register has the list, and some watcher is still to be called with it. -/
def PublicationStage.isSpreading : PublicationStage → Bool
  | .begun | .calling [] => false
  | .stored | .calling (_ :: _) => true

/-- The directory will be called, if it watches the cluster. -/
def PublicationStage.Owes (d : Nat) : PublicationStage → Prop
  | .begun => False
  | .stored => True
  | .calling ds => d ∈ ds

theorem PublicationStage.Owes.isSpreading {d : Nat} {stage : PublicationStage}
    (h : stage.Owes d) : stage.isSpreading = true := by
  cases stage with
  | begun => exact h.elim
  | stored => rfl
  | calling ds =>
    cases ds with
    | nil => exact absurd h List.not_mem_nil
    | cons => rfl

def TopologyTask.isSpreading (c : String) : TopologyTask → Bool
  | .publication c' _ stage => c' == c && stage.isSpreading
  | .lookup _ _ _ => false

/-- A list that is written: to the register, or to the cache of a directory that is called. -/
inductive Write
  | stored (contextId : String) (instances : List Instance)
  | called (directory : Nat) (contextId : String) (instances : List Instance)

/-- The list of a cluster that the register takes in. -/
def Write.storeOf? (c : String) : Write → Option (List Instance)
  | .stored c' is => if c' = c then some is else none
  | .called _ _ _ => none

/-- The list of a cluster that a directory hears of, by the register or by a call. -/
def Write.newsOf? (d : Nat) (c : String) : Write → Option (List Instance)
  | .stored c' is => if c' = c then some is else none
  | .called d' c' is => if d' = d ∧ c' = c then some is else none

/-- What a task writes in its next step. -/
def TopologyTask.write? : TopologyTask → Option Write
  | .publication c is .begun => some (.stored c is)
  | .publication c is (.calling (d :: _)) => some (.called d c is)
  | _ => none

namespace Scene

/-- Every list of the cluster that the register took in is with all watchers. -/
def Quiet (s : Scene) (c : String) : Prop := ∀ x ∈ s.tasks, x.isSpreading c = false

instance (s : Scene) (c : String) : Decidable (s.Quiet c) :=
  inferInstanceAs (Decidable (∀ x ∈ s.tasks, x.isSpreading c = false))

/-- A publication is still to call the directory with a list of the cluster. -/
def Owes (s : Scene) (d : Nat) (c : String) : Prop :=
  ∃ (i : Nat) (is : List Instance) (stage : PublicationStage),
    s.tasks[i]? = some (.publication c is stage) ∧ stage.Owes d

/-- The register takes in a list of the cluster only when the ones before are with all
watchers. -/
def TakesTurns (s : Scene) (c : String) (ms : List Move) : Prop :=
  ∀ (k i : Nat) (u : Scene) (is : List Instance), s.run (ms.take k) = some u →
    ms[k]? = some (.goOn i) → u.tasks[i]? = some (.publication c is .begun) → u.Quiet c

def write? (s : Scene) : Move → Option Write
  | .goOn i => s.tasks[i]?.bind TopologyTask.write?
  | _ => none

/-- What is written in a run, in order. -/
def writes (s : Scene) (ms : List Move) : List Write := s.collect write? ms

/-- The last list that is news, or else the one that was known before. -/
def latest (news : Write → Option (List Instance)) (known : List Instance) (ws : List Write) :
    List Instance :=
  (ws.reverse.findSome? news).getD known

variable {s t : Scene} {a b : TopologyTask} {m : Move} {c : String} {d k : Nat}

/-! ## What is written -/

/-- A move makes the latest list the one that it writes, if that is news. -/
theorem latest_writes_concat {ms : List Move} (h : s.run ms = some t)
    (news : Write → Option (List Instance)) (known : List Instance) :
    latest news known (s.writes (ms ++ [m]))
      = ((t.write? m).bind news).getD (latest news known (s.writes ms)) := by
  rw [writes, writes, collect_concat write? h]
  cases hw : t.write? m with
  | none => simp
  | some w =>
    simp only [latest, Option.toList_some, List.reverse_append, List.reverse_singleton,
      List.singleton_append, List.findSome?_cons, Option.bind_some]
    cases news w <;> rfl

/-- The register holds the list that it took in last. -/
theorem Goes.instancesOf_eq (hg : Goes s a b t) (c : String) : t.registry.instancesOf c
    = (a.write?.bind (Write.storeOf? c)).getD (s.registry.instancesOf c) := by
  cases hg with
  | @store c' is =>
    simp only [TopologyTask.write?, Option.bind_some, Write.storeOf?, Registry.instancesOf_store]
    by_cases hc : c = c'
    · rw [if_pos hc, if_pos hc.symm]
      rfl
    · rw [if_neg hc, if_neg (Ne.symm hc)]
      rfl
  | _ => rfl

theorem Step.instancesOf_eq (hs : Step s m t) (c : String) : t.registry.instancesOf c
    = ((s.write? m).bind (Write.storeOf? c)).getD (s.registry.instancesOf c) := by
  cases hs with
  | lookUp | publish => rfl
  | goOn hk hg =>
    rw [write?, hk, Option.bind_some]
    exact hg.instancesOf_eq c

theorem instancesOf_of_run {ms : List Move} (h : s.run ms = some t) (c : String) :
    t.registry.instancesOf c
      = latest (Write.storeOf? c) (s.registry.instancesOf c) (s.writes ms) := by
  refine run_keeps (P := fun past u => u.registry.instancesOf c
    = latest (Write.storeOf? c) (s.registry.instancesOf c) (s.writes past)) ?_ rfl h
  intro past u v m hu hp _ hs
  rw [latest_writes_concat hu, ← hp]
  exact hs.instancesOf_eq c

/-- A directory hears of a list by the register or by a call; what else gets into its cache has
been found by a lookup. -/
theorem Goes.hears (hg : Goes s a b t) (d : Nat) (c : String) :
    (∃ is, a = .publication c is .begun ∧ b = .publication c is .stored
      ∧ t = { s with registry := s.registry.store c is })
    ∨ (∃ is ds, a = .publication c is (.calling (d :: ds)) ∧ b = .publication c is (.calling ds)
      ∧ t = s.push d c is)
    ∨ a.write?.bind (Write.newsOf? d c) = none
      ∧ t.registry.instancesOf c = s.registry.instancesOf c
      ∧ (∀ is ds, a ≠ .publication c is (.calling (d :: ds)))
      ∧ ∀ is, t.cached d c = some is →
        s.cached d c = some is ∨ a = .lookup d c (.answered is) ∧ s.cached d c = none := by
  have hcached : (∀ is ds, a ≠ .publication c is (.calling (d :: ds))) → ∀ is,
      t.cached d c = some is →
        s.cached d c = some is ∨ a = .lookup d c (.answered is) ∧ s.cached d c = none := by
    intro ha is hc
    rcases hg.cached_eq_some hc with hc | hc | ⟨ds, hcall, -⟩
    · exact Or.inl hc
    · exact Or.inr hc
    · exact absurd hcall (ha is ds)
  cases hg with
  | @store c' is =>
    by_cases hc : c' = c
    · subst hc
      exact Or.inl ⟨is, rfl, rfl, rfl⟩
    · refine Or.inr (Or.inr ⟨by simp [TopologyTask.write?, Write.newsOf?, hc], ?_, by simp,
        hcached (by simp)⟩)
      rw [Registry.instancesOf_store, if_neg (Ne.symm hc)]
  | @call d' ds c' is =>
    by_cases hdc : d' = d ∧ c' = c
    · obtain ⟨rfl, rfl⟩ := hdc
      exact Or.inr (Or.inl ⟨is, ds, rfl, rfl, rfl⟩)
    · have hne : ∀ is' ds', TopologyTask.publication c' is (.calling (d' :: ds))
          ≠ .publication c is' (.calling (d :: ds')) := fun _ _ heq => by
        cases heq
        exact hdc ⟨rfl, rfl⟩
      exact Or.inr (Or.inr
        ⟨by simp [TopologyTask.write?, Write.newsOf?, hdc], rfl, hne, hcached hne⟩)
  | _ => exact Or.inr (Or.inr ⟨rfl, rfl, by simp, hcached (by simp)⟩)

/-! ## What a directory has heard of last -/

theorem Quiet.not_owes (h : s.Quiet c) (d : Nat) : ¬s.Owes d c := by
  rintro ⟨i, is, stage, hi, howes⟩
  have := h _ (List.mem_of_getElem? hi)
  simp [TopologyTask.isSpreading, howes.isSpreading] at this

theorem Owes.begin (h : s.Owes d c) (x : TopologyTask) : (s.begin x).Owes d c :=
  let ⟨i, is, stage, hi, howes⟩ := h
  ⟨i, is, stage, tasks_begin_of_some hi x, howes⟩

/-- A publication that owes a watcher a call owes it until it makes the call. -/
theorem Goes.owes {is : List Instance} {stage : PublicationStage}
    (hg : Goes s (.publication c is stage) b t) (howes : stage.Owes d)
    (hd : d ∈ s.registry.watchersOf c) (hcall : ∀ ds, stage ≠ .calling (d :: ds)) :
    ∃ next, b = .publication c is next ∧ next.Owes d := by
  cases hg with
  | store => exact howes.elim
  | read => exact ⟨_, rfl, hd⟩
  | @call d' ds =>
    rcases List.mem_cons.mp howes with rfl | howes
    · exact absurd rfl (hcall ds)
    · exact ⟨_, rfl, howes⟩

theorem Owes.goOn (h : s.Owes d c) (hk : s.tasks[k]? = some a) (hg : Goes s a b t)
    (hd : d ∈ s.registry.watchersOf c)
    (hcall : ∀ is ds, a ≠ .publication c is (.calling (d :: ds))) :
    (t.setTask k b).Owes d c := by
  obtain ⟨i, is, stage, hi, howes⟩ := h
  by_cases hki : k = i
  · subst hki
    obtain rfl := Option.some.inj (hk.symm.trans hi)
    obtain ⟨next, rfl, hnext⟩ := hg.owes howes hd fun ds hds => hcall is ds (by rw [hds])
    exact ⟨k, is, next, by rw [hg.tasks_setTask hk, if_pos rfl], hnext⟩
  · exact ⟨i, is, stage, by rw [hg.tasks_setTask hk, if_neg hki, hi], howes⟩

/-- What a directory has in its cache, or has found, is the list that it has heard of last, unless
it is still to be called. -/
structure Heard (d : Nat) (c : String) (news : List Instance) (s : Scene) : Prop where
  watched : s.Watched
  cached : ∀ {is}, s.cached d c = some is → is = news ∨ s.Owes d c
  vacant : s.cached d c = none → news = s.registry.instancesOf c
  found : ∀ {n : Nat} {is}, s.tasks[n]? = some (.lookup d c (.answered is)) →
    is = news ∨ s.Owes d c ∨ s.cached d c ≠ none

variable {news : List Instance}

theorem Heard.begin (h : s.Heard d c news) {x : TopologyTask} (hx : x.isNew = true) :
    (s.begin x).Heard d c news where
  watched := h.watched.begin hx
  cached hc := (h.cached hc).imp_right (·.begin x)
  vacant hc := h.vacant hc
  found hn := by
    rcases tasks_begin_cases hn with hn | ⟨-, rfl⟩
    · exact (h.found hn).imp_right (Or.imp_left (·.begin x))
    · cases hx

theorem Heard.store {is : List Instance} (h : s.Heard d c news)
    (hk : s.tasks[k]? = some (.publication c is .begun)) :
    (setTask { s with registry := s.registry.store c is } k
      (.publication c is .stored)).Heard d c is := by
  have hg : Goes s (.publication c is .begun) (.publication c is .stored)
    { s with registry := s.registry.store c is } := .store
  have howes : (setTask { s with registry := s.registry.store c is } k
      (.publication c is .stored)).Owes d c :=
    ⟨k, is, .stored, by rw [hg.tasks_setTask hk, if_pos rfl], trivial⟩
  refine ⟨h.watched.goOn hk hg, fun _ => Or.inr howes, fun _ => ?_, fun _ => Or.inr (Or.inl howes)⟩
  exact ((Registry.instancesOf_store _ _ _ _).trans (if_pos rfl)).symm

theorem Heard.call {is : List Instance} {ds : List Nat} (h : s.Heard d c news)
    (hk : s.tasks[k]? = some (.publication c is (.calling (d :: ds)))) :
    ((s.push d c is).setTask k (.publication c is (.calling ds))).Heard d c is := by
  have hc : (s.push d c is).cached d c = some is := by rw [cached_push, if_pos ⟨rfl, rfl⟩]
  refine ⟨h.watched.goOn hk .call, fun hc' => Or.inl ?_, fun hc' => ?_, fun _ => Or.inr (Or.inr ?_)⟩
  · exact Option.some.inj (hc'.symm.trans hc)
  · exact absurd (hc.symm.trans hc') (by simp)
  · exact fun hc' => absurd (hc.symm.trans hc') (by simp)

theorem Heard.goOn (h : s.Heard d c news) (hk : s.tasks[k]? = some a) (hg : Goes s a b t) :
    (t.setTask k b).Heard d c ((a.write?.bind (Write.newsOf? d c)).getD news) := by
  rcases hg.hears d c with ⟨is, rfl, rfl, rfl⟩ | ⟨is, ds, rfl, rfl, rfl⟩ | ⟨hnews, hr, hcall, hc⟩
  · simpa [TopologyTask.write?, Write.newsOf?] using h.store hk
  · simpa [TopologyTask.write?, Write.newsOf?] using h.call hk
  rw [hnews, Option.getD_none]
  refine ⟨h.watched.goOn hk hg, fun {is} hcached => ?_, fun hcached => ?_, fun {n is} hn => ?_⟩
  · rcases hc is hcached with hcs | ⟨rfl, hcs⟩
    · exact (h.cached hcs).imp_right (·.goOn hk hg (h.watched.cached hcs) hcall)
    · -- a lookup ends with what it has found, with nothing in its way
      rcases h.found hk with his | howes | hne
      · exact Or.inl his
      · exact Or.inr (howes.goOn hk hg (h.watched.following hk rfl) hcall)
      · exact absurd hcs hne
  · have hcs : s.cached d c = none := by
      by_contra hne
      exact hg.cached_ne_none hne hcached
    exact (h.vacant hcs).trans hr.symm
  · rcases tasks_goOn_cases hk hg hn with ⟨rfl, rfl⟩ | ⟨-, hn⟩
    · -- the register has just answered, so either the directory has not been called, or its
      -- cache is not vacant
      cases hg with
      | answer =>
        by_cases hcs : s.cached d c = none
        · exact Or.inl (h.vacant hcs).symm
        · exact Or.inr (Or.inr hcs)
    · exact (h.found hn).imp_right (Or.imp
        (·.goOn hk hg (h.watched.following hn rfl) hcall) hg.cached_ne_none)

theorem Heard.step (h : s.Heard d c news) (hs : Step s m t) :
    t.Heard d c (((s.write? m).bind (Write.newsOf? d c)).getD news) := by
  cases hs with
  | lookUp | publish => exact h.begin rfl
  | goOn hk hg =>
    rw [write?, hk, Option.bind_some]
    exact h.goOn hk hg

theorem heard_of_run {registry : Registry Nat} {ms : List Move}
    (h : (start registry).run ms = some t) (d : Nat) (c : String) :
    t.Heard d c (latest (Write.newsOf? d c) (registry.instancesOf c)
      ((start registry).writes ms)) := by
  refine run_keeps (P := fun past u => u.Heard d c (latest (Write.newsOf? d c)
    (registry.instancesOf c) ((start registry).writes past))) ?_ ?_ h
  · intro past u v m hu hp _ hs
    rw [latest_writes_concat hu]
    exact hp.step hs
  · exact ⟨watched_start registry, fun h => (nomatch h), fun _ => rfl, fun h => (nomatch h)⟩

/-! ## One list after the other -/

/-- What is on its way to the watchers is the register's list, and so is the last news. -/
structure InStep (d : Nat) (c : String) (news : List Instance) (s : Scene) : Prop where
  spreading : ∀ {i : Nat} {is stage}, s.tasks[i]? = some (.publication c is stage) →
    stage.isSpreading = true → is = s.registry.instancesOf c
  current : news = s.registry.instancesOf c

theorem Goes.isSpreading {is : List Instance} {stage : PublicationStage}
    (hg : Goes s a (.publication c is stage) t) (ha : a ≠ .publication c is .begun) :
    ∃ before, a = .publication c is before ∧ before.isSpreading = true := by
  cases hg with
  | store => exact absurd rfl ha
  | read | call => exact ⟨_, rfl, rfl⟩

theorem InStep.begin (h : s.InStep d c news) {x : TopologyTask} (hx : x.isNew = true) :
    (s.begin x).InStep d c news where
  spreading hi hspread := by
    rcases tasks_begin_cases hi with hi | ⟨-, rfl⟩
    · exact h.spreading hi hspread
    · rename_i stage
      cases stage <;> simp [TopologyTask.isNew, PublicationStage.isSpreading] at hx hspread
  current := h.current

theorem InStep.goOn (h : s.InStep d c news) (hk : s.tasks[k]? = some a) (hg : Goes s a b t)
    (hturn : ∀ is, a = .publication c is .begun → s.Quiet c) :
    (t.setTask k b).InStep d c ((a.write?.bind (Write.newsOf? d c)).getD news) := by
  by_cases ha : ∃ is, a = .publication c is .begun
  · obtain ⟨is, rfl⟩ := ha
    have hquiet := hturn is rfl
    have hr : t.registry.instancesOf c = is := by
      rw [hg.instancesOf_eq c]
      simp [TopologyTask.write?, Write.storeOf?]
    refine ⟨fun {i is' stage} hi hspread => ?_, ?_⟩
    · rcases tasks_goOn_cases hk hg hi with ⟨-, rfl⟩ | ⟨-, hi⟩
      · obtain ⟨-, last, hlast, -⟩ := hg.publication_right
        cases hlast
        exact hr.symm
      · have := hquiet _ (List.mem_of_getElem? hi)
        simp [TopologyTask.isSpreading, hspread] at this
    · refine Eq.trans ?_ hr.symm
      simp [TopologyTask.write?, Write.newsOf?]
  · have hr : t.registry.instancesOf c = s.registry.instancesOf c :=
      (hg.instancesOf_cases c).resolve_right fun h => ha ⟨_, h.1⟩
    refine ⟨fun {i is stage} hi hspread => ?_, ?_⟩
    · refine Eq.trans ?_ hr.symm
      rcases tasks_goOn_cases hk hg hi with ⟨-, rfl⟩ | ⟨-, hi⟩
      · obtain ⟨before, rfl, hbefore⟩ := hg.isSpreading fun h => ha ⟨is, h⟩
        exact h.spreading hk hbefore
      · exact h.spreading hi hspread
    · refine Eq.trans ?_ hr.symm
      rcases hg.hears d c with ⟨is, rfl, -⟩ | ⟨is, ds, rfl, -⟩ | ⟨hnews, -⟩
      · exact absurd ⟨is, rfl⟩ ha
      · simpa [TopologyTask.write?, Write.newsOf?] using h.spreading hk rfl
      · rw [hnews]
        exact h.current

theorem InStep.step (h : s.InStep d c news) (hs : Step s m t)
    (hturn : ∀ i is, m = .goOn i → s.tasks[i]? = some (.publication c is .begun) → s.Quiet c) :
    t.InStep d c (((s.write? m).bind (Write.newsOf? d c)).getD news) := by
  cases hs with
  | lookUp | publish => exact h.begin rfl
  | goOn hk hg =>
    rw [write?, hk, Option.bind_some]
    exact h.goOn hk hg fun is ha => hturn _ is rfl (ha ▸ hk)

theorem TakesTurns.of_concat {past : List Move} (h : s.TakesTurns c (past ++ [m])) :
    s.TakesTurns c past := by
  intro k i u is hu hk hi
  have hlt := (List.getElem?_eq_some_iff.mp hk).1
  refine h k i u is ?_ ?_ hi
  · rw [List.take_append_of_le_length (Nat.le_of_lt hlt), hu]
  · rw [List.getElem?_append_left hlt, hk]

theorem inStep_of_run {registry : Registry Nat} {ms : List Move}
    (h : (start registry).run ms = some t) (hturns : (start registry).TakesTurns c ms) (d : Nat) :
    t.InStep d c (latest (Write.newsOf? d c) (registry.instancesOf c)
      ((start registry).writes ms)) := by
  refine run_keeps (P := fun past u => (start registry).TakesTurns c past → u.InStep d c
    (latest (Write.newsOf? d c) (registry.instancesOf c) ((start registry).writes past))) ?_ ?_ h
    hturns
  · intro past u v m hu hp _ hs hturns
    rw [latest_writes_concat hu]
    refine (hp hturns.of_concat).step hs fun i is hm hi => ?_
    subst hm
    exact hturns past.length i u is (by rw [List.take_left, hu]) List.getElem?_concat_length hi
  · exact fun _ => ⟨fun h => (nomatch h), rfl⟩

/-! ## The older list comes last -/

theorem step_publication {t : Scene} {i : Nat} {is : List Instance} {stage next : PublicationStage}
    (hi : s.tasks[i]? = some (.publication c is stage))
    (h : s.advancePublication c is stage = some (t, next)) :
    s.step (.goOn i) = some (t.setTask i (.publication c is next)) := by
  simp only [step, hi, h, Option.map_some]

theorem run_trans {u : Scene} {ms ns : List Move} (hs : s.run ms = some t)
    (ht : t.run ns = some u) : s.run (ms ++ ns) = some u := by
  rw [run_append, hs, Option.bind_some, ht]

/-- A publication can call all its watchers before anything else happens. -/
theorem exists_calls {i : Nat} {is : List Instance} : ∀ {ds : List Nat} {s : Scene},
    s.tasks[i]? = some (.publication c is (.calling ds)) →
    ∃ ms t, s.run ms = some t ∧ t.registry = s.registry
      ∧ t.tasks = s.tasks.set i (.publication c is (.calling []))
      ∧ ∀ d, t.cached d c = if d ∈ ds then some is else s.cached d c
  | [], s, hi => by
    obtain ⟨hlt, hget⟩ := List.getElem?_eq_some_iff.mp hi
    refine ⟨[], s, rfl, rfl, ?_, fun d => by simp⟩
    rw [← hget, List.set_getElem_self]
  | d' :: ds, s, hi => by
    have hlt := (List.getElem?_eq_some_iff.mp hi).1
    let u := (s.push d' c is).setTask i (.publication c is (.calling ds))
    have hu : u.tasks = s.tasks.set i (.publication c is (.calling ds)) := rfl
    obtain ⟨ms, t, ht, hr, htasks, hc⟩ : ∃ ms t, u.run ms = some t ∧ t.registry = u.registry
        ∧ t.tasks = u.tasks.set i (.publication c is (.calling []))
        ∧ ∀ d, t.cached d c = if d ∈ ds then some is else u.cached d c :=
      exists_calls (by rw [hu, List.getElem?_set_self hlt])
    refine ⟨.goOn i :: ms, t, by rw [run_cons (step_publication hi rfl), ht], hr, ?_, fun d => ?_⟩
    · rw [htasks, hu, List.set_set]
    · have hpush : u.cached d c = if d = d' ∧ c = c then some is else s.cached d c :=
        cached_push s d' d c c is
      rw [hc, hpush]
      by_cases hd : d = d' <;> simp [hd]

/-- A publication can go on from the list that the register has to its end. -/
theorem exists_rest {i : Nat} {is : List Instance} {s : Scene}
    (hi : s.tasks[i]? = some (.publication c is .stored)) :
    ∃ ms t, s.run ms = some t ∧ t.registry = s.registry
      ∧ t.tasks = s.tasks.set i (.publication c is (.calling []))
      ∧ ∀ d ∈ s.registry.watchersOf c, t.cached d c = some is := by
  have hlt := (List.getElem?_eq_some_iff.mp hi).1
  let u := s.setTask i (.publication c is (.calling (s.registry.watchersOf c)))
  have hu : u.tasks = s.tasks.set i (.publication c is (.calling (s.registry.watchersOf c))) := rfl
  obtain ⟨ms, t, ht, hr, htasks, hc⟩ : ∃ ms t, u.run ms = some t ∧ t.registry = u.registry
      ∧ t.tasks = u.tasks.set i (.publication c is (.calling []))
      ∧ ∀ d, t.cached d c = if d ∈ s.registry.watchersOf c then some is else u.cached d c :=
    exists_calls (by rw [hu, List.getElem?_set_self hlt])
  refine ⟨.goOn i :: ms, t, by rw [run_cons (step_publication hi rfl), ht], hr, ?_, fun d hd => ?_⟩
  · rw [htasks, hu, List.set_set]
  · rw [hc, if_pos hd]

/-- In every scene two publications can overlap so that the register ends up with the newer list
and all watchers with the older one. -/
theorem exists_overtaken (s : Scene) (c : String) (older newer : List Instance) :
    ∃ ms t, s.run ms = some t
      ∧ t.tasks = s.tasks
        ++ [.publication c older (.calling []), .publication c newer (.calling [])]
      ∧ t.registry.instancesOf c = newer
      ∧ ∀ d ∈ s.registry.watchersOf c, t.cached d c = some older := by
  let n := s.tasks.length
  have first : ∀ x y z : TopologyTask, (s.tasks ++ [x, y]).set n z = s.tasks ++ [z, y] := by
    simp [n]
  have second : ∀ x y z : TopologyTask, (s.tasks ++ [x, y]).set (n + 1) z = s.tasks ++ [x, z] := by
    simp [n]
  have get_first : ∀ x y : TopologyTask, (s.tasks ++ [x, y])[n]? = some x := by simp [n]
  have get_second : ∀ x y : TopologyTask, (s.tasks ++ [x, y])[n + 1]? = some y := by simp [n]
  -- the register takes in both lists, the older one first, before a watcher is called
  let u : Scene :=
    { s with
      registry := (s.registry.store c older).store c newer
      tasks := s.tasks ++ [.publication c older .stored, .publication c newer .stored] }
  have hu : s.run [.publish c older, .publish c newer, .goOn n, .goOn (n + 1)] = some u := by
    have hbegun : (s.begin (.publication c older .begun)).begin (.publication c newer .begun)
        = { s with tasks := s.tasks
              ++ [.publication c older .begun, .publication c newer .begun] } := by
      simp [begin]
    rw [run_cons rfl, run_cons rfl, hbegun, run_cons (step_publication (get_first _ _) rfl)]
    simp only [setTask, first]
    rw [run_cons (step_publication (get_second _ _) rfl)]
    simp only [setTask, second, run_nil, u]
  obtain ⟨ms, v, hv, hvr, hvt, -⟩ := exists_rest (s := u) (i := n + 1) (get_second _ _)
  have hvt' : v.tasks = s.tasks
      ++ [.publication c older .stored, .publication c newer (.calling [])] :=
    hvt.trans (second _ _ _)
  obtain ⟨ns, w, hw, hwr, hwt, hwc⟩ := exists_rest (s := v) (i := n)
    (by rw [hvt']; exact get_first _ _)
  refine ⟨_, w, run_trans hu (run_trans hv hw), ?_, ?_, fun d hd => hwc d ?_⟩
  · rw [hwt, hvt', first]
  · rw [hwr, hvr, Registry.instancesOf_store, if_pos rfl]
  · rw [hvr]
    exact hd

/-! ## At rest -/

/-- When no watcher is still to be called, the register holds the list that it took in last, and a
directory that has the cluster in its cache holds the list that it has heard of last.  If the
register took in its lists in turns, the directories hold the list that it holds.  If not they may
disagree with it: from here, too, two publications can overlap so that the register ends up with
the newer list, and all these directories with the older one. -/
theorem caches_at_rest {registry : Registry Nat} {ms : List Move}
    (h : (start registry).run ms = some t) (hq : t.Quiet c) :
    t.registry.instancesOf c = latest (Write.storeOf? c) (registry.instancesOf c)
      ((start registry).writes ms)
    ∧ (∀ d is, t.cached d c = some is → is = latest (Write.newsOf? d c) (registry.instancesOf c)
      ((start registry).writes ms))
    ∧ ((start registry).TakesTurns c ms →
      ∀ d is, t.cached d c = some is → is = t.registry.instancesOf c)
    ∧ ∀ older newer, ∃ ns u, t.run ns = some u
      ∧ u.tasks = t.tasks
        ++ [.publication c older (.calling []), .publication c newer (.calling [])]
      ∧ u.registry.instancesOf c = newer
      ∧ ∀ d is, t.cached d c = some is → u.cached d c = some older := by
  have hnews : ∀ d is, t.cached d c = some is → is = latest (Write.newsOf? d c)
      (registry.instancesOf c) ((start registry).writes ms) := fun d is hc =>
    ((heard_of_run h d c).cached hc).resolve_right (hq.not_owes d)
  refine ⟨instancesOf_of_run h c, hnews, fun hturns d is hc => ?_, fun older newer => ?_⟩
  · exact (hnews d is hc).trans (inStep_of_run h hturns d).current
  · obtain ⟨ns, u, hu, htasks, hr, hc⟩ := exists_overtaken t c older newer
    exact ⟨ns, u, hu, htasks, hr, fun d is hd =>
      hc d ((heard_of_run h d c).watched.cached hd)⟩

/-- Two directories look up a cluster.  Then two publications of it overlap, and each directory is
called by both, in different order. -/
def crossed : List Move :=
  .lookUp 0 "c" :: List.replicate 4 (.goOn 0) ++ .lookUp 1 "c" :: List.replicate 4 (.goOn 1)
    ++ [.publish "c" [⟨"10.0.0.2", 80, "c"⟩], .publish "c" [⟨"10.0.0.3", 80, "c"⟩],
      .goOn 2, .goOn 3, .goOn 2, .goOn 3, .goOn 2, .goOn 3, .goOn 3, .goOn 2]

theorem caches_at_rest_crossed :
    ∃ t, (start (.ofInstances [⟨"10.0.0.1", 80, "c"⟩])).run crossed = some t ∧ t.Quiet "c"
      ∧ t.registry.instancesOf "c" = [⟨"10.0.0.3", 80, "c"⟩]
      ∧ t.cached 0 "c" = some [⟨"10.0.0.3", 80, "c"⟩]
      ∧ t.cached 1 "c" = some [⟨"10.0.0.2", 80, "c"⟩]
      ∧ latest (Write.newsOf? 1 "c") [⟨"10.0.0.1", 80, "c"⟩]
        ((start (.ofInstances [⟨"10.0.0.1", 80, "c"⟩])).writes crossed) = [⟨"10.0.0.2", 80, "c"⟩]
      ∧ ¬(start (.ofInstances [⟨"10.0.0.1", 80, "c"⟩])).TakesTurns "c" crossed := by
  obtain ⟨t, ht, hq, hr, h0, h1⟩ :
      ∃ t, (start (.ofInstances [⟨"10.0.0.1", 80, "c"⟩])).run crossed = some t ∧ t.Quiet "c"
        ∧ t.registry.instancesOf "c" = [⟨"10.0.0.3", 80, "c"⟩]
        ∧ t.cached 0 "c" = some [⟨"10.0.0.3", 80, "c"⟩]
        ∧ t.cached 1 "c" = some [⟨"10.0.0.2", 80, "c"⟩] :=
    ⟨_, rfl, by decide, rfl, rfl, rfl⟩
  obtain ⟨-, hnews, hturns, -⟩ := caches_at_rest ht hq
  refine ⟨t, ht, hq, hr, h0, h1, (hnews 1 _ h1).symm, fun hin => ?_⟩
  have := (hturns hin 1 _ h1).trans hr
  simp at this

end Scene

end Switchyard
