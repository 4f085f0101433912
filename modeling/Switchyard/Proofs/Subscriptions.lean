import Mathlib.Data.List.Induction
import Switchyard.Proofs.SceneStep

/-!
# How often a directory is called

Every lookup that does not find its cluster in the cache subscribes a watcher, and nothing takes a
watcher back.  Until a directory has a cluster in its cache these are the lookups that were in
vain and those that are under way; afterwards no more come
(`Scene.Step.watching_of_cached`, `Scene.Step.watching_of_not_cached`).  A publication calls each of
the watchers that there are when it reads them, and every call is counted
(`Scene.subscriptions_counted`).
-/

namespace Switchyard

/-- A watcher is still to be subscribed for the lookup. -/
def LookupStage.isPending : LookupStage → Bool
  | .missed => true
  | _ => false

/-- The lookup has not found its cluster in the cache, and has no result yet. -/
def LookupStage.isSearching : LookupStage → Bool
  | .missed | .subscribed | .answered _ => true
  | _ => false

/-- The lookup is over, and the cluster is not known. -/
def LookupStage.isVain : LookupStage → Bool
  | .ended none => true
  | _ => false

/-- Whether it is a lookup of the cluster by the directory, at such a stage. -/
def TopologyTask.isLookup (d : Nat) (c : String) (p : LookupStage → Bool) : TopologyTask → Bool
  | .lookup d' c' stage => d' == d && c' == c && p stage
  | .publication _ _ _ => false

theorem TopologyTask.isLookup_self (d : Nat) (c : String) (p : LookupStage → Bool)
    (stage : LookupStage) : (lookup d c stage).isLookup d c p = p stage := by
  simp [isLookup]

theorem TopologyTask.isLookup_other {d d' : Nat} {c c' : String} (h : ¬(d' = d ∧ c' = c))
    (p : LookupStage → Bool) (stage : LookupStage) :
    (lookup d' c' stage).isLookup d c p = false := by
  by_cases hd : d' = d
  · have hc : c' ≠ c := fun hc => h ⟨hd, hc⟩
    simp [isLookup, hc]
  · simp [isLookup, hd]

theorem countP_set_add {γ : Type} {xs : List γ} {i : Nat} {a : γ} (h : xs[i]? = some a) (b : γ)
    (p : γ → Bool) : (xs.set i b).countP p + (p a).toNat = xs.countP p + (p b).toNat := by
  obtain ⟨hi, rfl⟩ := List.getElem?_eq_some_iff.mp h
  have hle := List.boole_getElem_le_countP (p := p) hi
  rw [List.countP_set hi]
  cases ha : p xs[i] <;> cases hb : p b <;>
    simp only [ha, Bool.toNat_true, Bool.toNat_false, if_true, if_false, Bool.false_eq_true]
      at hle ⊢ <;> omega

namespace Scene

def lookupsAt (s : Scene) (d : Nat) (c : String) (p : LookupStage → Bool) : Nat :=
  s.tasks.countP (·.isLookup d c p)

/-- The watchers of a cluster that write to the cache of a directory. -/
def watching (s : Scene) (d : Nat) (c : String) : Nat := (s.registry.watchersOf c).count d

def pending (s : Scene) (d : Nat) (c : String) : Nat := s.lookupsAt d c LookupStage.isPending

def searching (s : Scene) (d : Nat) (c : String) : Nat := s.lookupsAt d c LookupStage.isSearching

def vain (s : Scene) (d : Nat) (c : String) : Nat := s.lookupsAt d c LookupStage.isVain

variable {s t : Scene} {a b : TopologyTask} {m : Move} {d : Nat} {c : String}

theorem lookupsAt_begin {x : TopologyTask} {p : LookupStage → Bool}
    (hx : x.isLookup d c p = false) : (s.begin x).lookupsAt d c p = s.lookupsAt d c p := by
  simp [lookupsAt, begin, List.countP_append, hx]

theorem Goes.lookupsAt_setTask {k : Nat} (hg : Goes s a b t) (hk : s.tasks[k]? = some a)
    (p : LookupStage → Bool) : (t.setTask k b).lookupsAt d c p + (a.isLookup d c p).toNat
      = s.lookupsAt d c p + (b.isLookup d c p).toNat := by
  unfold lookupsAt
  rw [setTask, hg.tasks_eq]
  exact countP_set_add hk b _

/-- A watcher is subscribed for a lookup that has missed, and for no other reason. -/
theorem Goes.watching_eq (hg : Goes s a b t) :
    t.watching d c = s.watching d c + (a.isLookup d c LookupStage.isPending).toNat := by
  cases hg with
  | @subscribe d' c' =>
    unfold watching
    rw [Registry.watchersOf_subscribe]
    by_cases hdc : d' = d ∧ c' = c
    · obtain ⟨rfl, rfl⟩ := hdc
      rw [if_pos rfl, TopologyTask.isLookup_self]
      simp [LookupStage.isPending]
    · rw [TopologyTask.isLookup_other hdc]
      split_ifs with hc
      · have hd : d' ≠ d := fun hd => hdc ⟨hd, hc.symm⟩
        simp [hd]
      · rfl
  | hit | miss | answer => simp [TopologyTask.isLookup, LookupStage.isPending]
  | settle =>
    simp only [TopologyTask.isLookup, LookupStage.isPending, Bool.and_false]
    rfl
  | store | read | call => rfl

/-- All that counts for the watchers to come is whether the task misses. -/
theorem Goes.watching_add_pending {k : Nat} (hg : Goes s a b t) (hk : s.tasks[k]? = some a) :
    (t.setTask k b).watching d c + (t.setTask k b).pending d c
      = s.watching d c + s.pending d c + (b.isLookup d c LookupStage.isPending).toNat := by
  have hw : (t.setTask k b).watching d c = _ := hg.watching_eq
  have hp := hg.lookupsAt_setTask (d := d) (c := c) hk LookupStage.isPending
  unfold pending
  omega

theorem Step.watching_of_cached (hs : Step s m t) (hc : t.cached d c ≠ none) :
    t.watching d c + t.pending d c = s.watching d c + s.pending d c := by
  cases hs with
  | lookUp =>
    rw [pending, lookupsAt_begin (by simp [TopologyTask.isLookup, LookupStage.isPending])]
    rfl
  | publish =>
    rw [pending, lookupsAt_begin rfl]
    rfl
  | @goOn k a b t hk hg =>
    rw [hg.watching_add_pending hk]
    have hb : b.isLookup d c LookupStage.isPending = false := by
      cases hg with
      | @miss d' c' hnone =>
        refine TopologyTask.isLookup_other (fun hdc => hc ?_) _ _
        rw [← hdc.1, ← hdc.2]
        exact hnone
      | hit | subscribe | answer | settle => simp [TopologyTask.isLookup, LookupStage.isPending]
      | store | read | call => rfl
    rw [hb]
    rfl

/-- A lookup that misses is searching from then on, and it goes on until it was in vain. -/
theorem Goes.balance (hg : Goes s a b t) (hc : t.cached d c = none) :
    (b.isLookup d c LookupStage.isPending).toNat + (a.isLookup d c LookupStage.isVain).toNat
        + (a.isLookup d c LookupStage.isSearching).toNat
      = (b.isLookup d c LookupStage.isVain).toNat
        + (b.isLookup d c LookupStage.isSearching).toNat := by
  cases hg with
  | store | read | call => rfl
  | @hit d' c' is hs =>
    by_cases hdc : d' = d ∧ c' = c
    · rw [hdc.1, hdc.2, hc] at hs
      cases hs
    · simp only [TopologyTask.isLookup_other hdc, Bool.toNat_false]
  | @miss d' c' | @subscribe d' c' | @answer d' c' =>
    by_cases hdc : d' = d ∧ c' = c
    · obtain ⟨rfl, rfl⟩ := hdc
      simp only [TopologyTask.isLookup_self]
      rfl
    · simp only [TopologyTask.isLookup_other hdc, Bool.toNat_false]
  | @settle d' c' found =>
    by_cases hdc : d' = d ∧ c' = c
    · obtain ⟨rfl, rfl⟩ := hdc
      rw [cached_settle, if_pos ⟨rfl, rfl⟩] at hc
      simp only [TopologyTask.isLookup_self, hc]
      rfl
    · simp only [TopologyTask.isLookup_other hdc, Bool.toNat_false]

theorem Step.watching_of_not_cached (hs : Step s m t) (hc : t.cached d c = none)
    (hbal : s.watching d c + s.pending d c = s.vain d c + s.searching d c) :
    t.watching d c + t.pending d c = t.vain d c + t.searching d c := by
  cases hs with
  | lookUp =>
    have hnew : ∀ {p : LookupStage → Bool}, p .begun = false →
        ∀ {d' : Nat} {c' : String}, (s.begin (.lookup d' c' .begun)).lookupsAt d c p
          = s.lookupsAt d c p := fun hp => lookupsAt_begin (by simp [TopologyTask.isLookup, hp])
    rw [pending, vain, searching, hnew rfl, hnew rfl, hnew rfl]
    exact hbal
  | publish =>
    rw [pending, vain, searching, lookupsAt_begin rfl, lookupsAt_begin rfl, lookupsAt_begin rfl]
    exact hbal
  | @goOn k a b t hk hg =>
    rw [hg.watching_add_pending hk, hbal]
    have hbalance := hg.balance hc
    have hvain := hg.lookupsAt_setTask (d := d) (c := c) hk LookupStage.isVain
    have hsearching := hg.lookupsAt_setTask (d := d) (c := c) hk LookupStage.isSearching
    unfold vain searching
    omega

/-! ## Calls -/

/-- A call of a watcher. -/
structure Notice where
  publication : Nat
  directory : Nat
  contextId : String

/-- The call that a move is, if it is one. -/
def notice? (s : Scene) : Move → Option Notice
  | .goOn i =>
    match s.tasks[i]? with
    | some (.publication c _ (.calling (d :: _))) => some ⟨i, d, c⟩
    | _ => none
  | _ => none

/-- The calls in a run, in order. -/
def notices (s : Scene) : List Move → List Notice
  | [] => []
  | m :: ms => (s.notice? m).toList ++
    match s.step m with
    | some t => t.notices ms
    | none => []

/-- The directories that a publication has called, in order. -/
def calledBy (i : Nat) (ns : List Notice) : List Nat :=
  (ns.filter (·.publication == i)).map Notice.directory

theorem run_append (s : Scene) (ms ns : List Move) :
    s.run (ms ++ ns) = (s.run ms).bind fun t => t.run ns := by
  induction ms generalizing s with
  | nil => rfl
  | cons m ms ih =>
    rw [List.cons_append, run, run, Option.bind_assoc]
    exact Option.bind_congr fun t _ => ih t

theorem notices_eq_collect (s : Scene) (ms : List Move) :
    s.notices ms = s.collect notice? ms := by
  induction ms generalizing s with
  | nil => rfl
  | cons m ms ih =>
    rw [notices, collect]
    cases s.step m with
    | none => rfl
    | some t => simp only [ih t]

theorem notices_concat {ms : List Move} (h : s.run ms = some t) (m : Move) :
    s.notices (ms ++ [m]) = s.notices ms ++ (t.notice? m).toList := by
  rw [notices_eq_collect, notices_eq_collect, collect_concat notice? h]

/-- What holds of the moves so far and of where they lead is kept by every further move. -/
theorem run_keeps {P : List Move → Scene → Prop}
    (hP : ∀ {past : List Move} {u v : Scene} {m : Move}, s.run past = some u → P past u →
      s.run (past ++ [m]) = some v → Step u m v → P (past ++ [m]) v)
    (hs : P [] s) {ms : List Move} (h : s.run ms = some t) : P ms t := by
  induction ms using List.reverseRecOn generalizing t with
  | nil => exact Option.some.inj h ▸ hs
  | append_singleton past m ih =>
    have hrun := h
    rw [run_append] at h
    obtain ⟨u, hu, h⟩ := Option.bind_eq_some_iff.mp h
    obtain ⟨v, hv, h⟩ := Option.bind_eq_some_iff.mp h
    cases h
    exact hP hu (ih hu) hrun (.of_step hv)

theorem Step.cached_ne_none (hs : Step s m t) (hc : s.cached d c ≠ none) :
    t.cached d c ≠ none := by
  cases hs with
  | lookUp | publish => exact hc
  | goOn hk hg => exact hg.cached_ne_none hc

/-- The last moment at which a directory has not had the cluster in its cache settles how many
watchers there are. -/
structure Settled (s₀ : Scene) (d : Nat) (c : String) (past : List Move) (s : Scene) : Prop where
  balanced : s.cached d c = none →
    s.watching d c + s.pending d c = s.vain d c + s.searching d c
  moment : ∃ k u, s₀.run (past.take k) = some u ∧ u.cached d c = none
    ∧ (∀ j v, k < j → j ≤ past.length → s₀.run (past.take j) = some v → v.cached d c ≠ none)
    ∧ s.watching d c + s.pending d c = u.vain d c + u.searching d c

theorem Settled.step {s₀ : Scene} {past : List Move} (h : s₀.Settled d c past s)
    (hrun : s₀.run past = some s) (hnext : s₀.run (past ++ [m]) = some t) (hs : Step s m t) :
    s₀.Settled d c (past ++ [m]) t := by
  have hlength : (past ++ [m]).length = past.length + 1 := List.length_append
  have hlast : ∀ {j v}, past.length < j → s₀.run ((past ++ [m]).take j) = some v → v = t := by
    intro j v hj hv
    rw [List.take_of_length_le (by omega), hnext] at hv
    exact (Option.some.inj hv).symm
  by_cases ht : t.cached d c = none
  · have hsn : s.cached d c = none := by
      by_contra hne
      exact hs.cached_ne_none hne ht
    have hbal := hs.watching_of_not_cached ht (h.balanced hsn)
    -- so far this is the last moment without the cluster in the cache
    refine ⟨fun _ => hbal, (past ++ [m]).length, t, by rw [List.take_length, hnext], ht, ?_, hbal⟩
    intro j v hj hle
    omega
  · refine ⟨fun hc => absurd hc ht, ?_⟩
    rw [hs.watching_of_cached ht]
    by_cases hsn : s.cached d c = none
    · -- the step brings the cluster into the cache, so the last moment was before it
      refine ⟨past.length, s, by rw [List.take_left, hrun], hsn, ?_, h.balanced hsn⟩
      intro j v hj _ hv
      rw [hlast hj hv]
      exact ht
    · obtain ⟨k, u, hu, hcu, hlater, hbal⟩ := h.moment
      have hk : k ≤ past.length := by
        by_contra hk
        rw [List.take_of_length_le (by omega), hrun, Option.some.injEq] at hu
        exact hsn (hu ▸ hcu)
      refine ⟨k, u, by rw [List.take_append_of_le_length hk, hu], hcu, ?_, hbal⟩
      intro j v hj _ hv
      rcases Nat.lt_or_ge past.length j with hlt | hle
      · rw [hlast hlt hv]
        exact ht
      · rw [List.take_append_of_le_length hle] at hv
        exact hlater j v hj hle hv

theorem settled_start {registry : Registry Nat} (hw : ∀ c, registry.watchersOf c = []) :
    (start registry).Settled d c [] (start registry) := by
  have hbal : (start registry).watching d c + (start registry).pending d c
      = (start registry).vain d c + (start registry).searching d c := by
    rw [watching, start, hw]
    rfl
  refine ⟨fun _ => hbal, 0, _, rfl, rfl, fun j v hj hle => ?_, hbal⟩
  rw [List.length_nil] at hle
  omega

/-- What publications have called and counted. -/
structure Noticed (s₀ : Scene) (past : List Move) (s : Scene) : Prop where
  called : ∀ {i : Nat} {c is ds}, s.tasks[i]? = some (.publication c is (.calling ds)) →
    ∃ k u, s₀.run (past.take k) = some u ∧ past[k]? = some (.goOn i)
      ∧ u.tasks[i]? = some (.publication c is .stored)
      ∧ calledBy i (s₀.notices past) ++ ds = u.registry.watchersOf c
  uncalled : ∀ {i : Nat}, (∀ c is ds, s.tasks[i]? ≠ some (.publication c is (.calling ds))) →
    calledBy i (s₀.notices past) = []
  counted : ∀ c, s.metrics.value (.topologyUpdates c)
    = (s₀.notices past).countP (·.contextId == c)

theorem calledBy_append (i : Nat) (ns ns' : List Notice) :
    calledBy i (ns ++ ns') = calledBy i ns ++ calledBy i ns' := by
  simp [calledBy]

/-- A step calls a watcher, or it leaves calls and counts alone and may read the watchers. -/
theorem Goes.notice_cases (hg : Goes s a b t) :
    (∃ c is d ds, a = .publication c is (.calling (d :: ds)) ∧ b = .publication c is (.calling ds)
      ∧ t = s.push d c is)
    ∨ ((∀ c is ds, a ≠ .publication c is (.calling ds)) ∧ t.metrics = s.metrics
      ∧ ∀ c is ds, b = .publication c is (.calling ds) →
        a = .publication c is .stored ∧ ds = s.registry.watchersOf c) := by
  cases hg with
  | @call d ds c is => exact Or.inl ⟨c, is, d, ds, rfl, rfl, rfl⟩
  | read =>
    refine Or.inr ⟨by simp, rfl, fun c is ds hb => ?_⟩
    cases hb
    exact ⟨rfl, rfl⟩
  | _ => exact Or.inr ⟨by simp, rfl, by simp⟩

theorem notice?_of_not_calling {k : Nat} (hk : s.tasks[k]? = some a)
    (ha : ∀ c is ds, a ≠ .publication c is (.calling ds)) : s.notice? (.goOn k) = none := by
  simp only [notice?, hk]
  split
  · rename_i h
    exact absurd (Option.some.inj h) (ha _ _ _)
  · rfl

theorem moment_concat {s₀ : Scene} {past : List Move} {i : Nat} {Q : Scene → Prop}
    (h : ∃ k u, s₀.run (past.take k) = some u ∧ past[k]? = some (.goOn i) ∧ Q u) (m : Move) :
    ∃ k u, s₀.run ((past ++ [m]).take k) = some u ∧ (past ++ [m])[k]? = some (.goOn i) ∧ Q u := by
  obtain ⟨k, u, hu, hk, hq⟩ := h
  have hlt := (List.getElem?_eq_some_iff.mp hk).1
  refine ⟨k, u, ?_, ?_, hq⟩
  · rw [List.take_append_of_le_length (Nat.le_of_lt hlt), hu]
  · rw [List.getElem?_append_left hlt, hk]

theorem Noticed.begin {s₀ : Scene} {past : List Move} (h : s₀.Noticed past s)
    (hrun : s₀.run past = some s) (hm : s.notice? m = none) {x : TopologyTask}
    (hx : ∀ c is ds, x ≠ .publication c is (.calling ds)) :
    s₀.Noticed (past ++ [m]) (s.begin x) := by
  have hns : s₀.notices (past ++ [m]) = s₀.notices past := by
    rw [notices_concat hrun, hm, Option.toList_none, List.append_nil]
  refine ⟨fun {i c is ds} hi => ?_, fun {i} hi => ?_, fun c => ?_⟩
  · rcases tasks_begin_cases hi with hi | ⟨-, rfl⟩
    · rw [hns]
      exact moment_concat (h.called hi) m
    · exact absurd rfl (hx c is ds)
  · rw [hns]
    exact h.uncalled fun c is ds hs => hi c is ds (tasks_begin_of_some hs x)
  · rw [hns]
    exact h.counted c

theorem Noticed.call {s₀ : Scene} {past : List Move} {k : Nat} {is : List Instance}
    {ds : List Nat} (h : s₀.Noticed past s) (hrun : s₀.run past = some s)
    (hk : s.tasks[k]? = some (.publication c is (.calling (d :: ds)))) :
    s₀.Noticed (past ++ [.goOn k])
      ((s.push d c is).setTask k (.publication c is (.calling ds))) := by
  have hg : Goes s (.publication c is (.calling (d :: ds))) (.publication c is (.calling ds))
    (s.push d c is) := .call
  have htasks := hg.tasks_setTask hk
  have hns : s₀.notices (past ++ [.goOn k]) = s₀.notices past ++ [⟨k, d, c⟩] := by
    rw [notices_concat hrun]
    simp only [notice?, hk]
    rfl
  have hself : calledBy k [⟨k, d, c⟩] = [d] := by simp [calledBy]
  have hother : ∀ {i}, k ≠ i → calledBy i [⟨k, d, c⟩] = [] := fun hi => by simp [calledBy, hi]
  refine ⟨fun {i c' is' ds'} hi => ?_, fun {i} hi => ?_, fun c' => ?_⟩
  · rw [hns, calledBy_append]
    rw [htasks] at hi
    split_ifs at hi with hki
    · subst hki
      cases hi
      have hcalled := moment_concat (h.called hk) (.goOn k)
      rw [hself, List.append_assoc]
      exact hcalled
    · rw [hother hki, List.append_nil]
      exact moment_concat (h.called hi) _
  · rw [hns, calledBy_append]
    by_cases hki : k = i
    · subst hki
      exact absurd (htasks k |>.trans (if_pos rfl)) (hi _ _ _)
    · rw [hother hki, List.append_nil]
      refine h.uncalled fun c is ds hs => hi c is ds ?_
      rw [htasks, if_neg hki, hs]
  · have hvalue : (s.push d c is).metrics.value (.topologyUpdates c') = _ :=
      Metrics.value_update s.metrics c c' is.length
    rw [hns, List.countP_append, ← h.counted c']
    refine hvalue.trans ?_
    by_cases hc : c = c' <;> simp [hc]

theorem Noticed.goOn {s₀ : Scene} {past : List Move} {k : Nat} (h : s₀.Noticed past s)
    (hrun : s₀.run past = some s) (hk : s.tasks[k]? = some a) (hg : Goes s a b t) :
    s₀.Noticed (past ++ [.goOn k]) (t.setTask k b) := by
  rcases hg.notice_cases with ⟨c, is, d, ds, rfl, rfl, rfl⟩ | ⟨ha, hmetrics, hb⟩
  · exact h.call hrun hk
  have htasks := hg.tasks_setTask hk
  have hns : s₀.notices (past ++ [.goOn k]) = s₀.notices past := by
    rw [notices_concat hrun, notice?_of_not_calling hk ha, Option.toList_none, List.append_nil]
  have hnone : calledBy k (s₀.notices past) = [] := h.uncalled fun c is ds hs =>
    ha c is ds (Option.some.inj (hk.symm.trans hs))
  refine ⟨fun {i c is ds} hi => ?_, fun {i} hi => ?_, fun c => ?_⟩
  · rw [hns]
    rw [htasks] at hi
    split_ifs at hi with hki
    · -- the publication has just read the watchers, and has called nobody yet
      subst hki
      obtain ⟨rfl, rfl⟩ := hb c is ds (Option.some.inj hi)
      refine ⟨past.length, s, by rw [List.take_left, hrun], List.getElem?_concat_length, hk, ?_⟩
      rw [hnone, List.nil_append]
    · exact moment_concat (h.called hi) _
  · rw [hns]
    by_cases hki : k = i
    · rw [← hki]
      exact hnone
    · refine h.uncalled fun c is ds hs => hi c is ds ?_
      rw [htasks, if_neg hki, hs]
  · rw [hns, ← h.counted c, ← hmetrics]
    rfl

theorem Noticed.step {s₀ : Scene} {past : List Move} (h : s₀.Noticed past s)
    (hrun : s₀.run past = some s) (hs : Step s m t) : s₀.Noticed (past ++ [m]) t := by
  cases hs with
  | lookUp | publish => exact h.begin hrun rfl (by simp)
  | goOn hk hg => exact h.goOn hrun hk hg

/-- However lookups and publications come between each other, a directory has as many watchers of a
cluster as lookups of it were in vain or searching at the last moment without the cluster in the
cache.  A publication calls all watchers that there are when it reads them, and each call is
counted. -/
theorem subscriptions_counted {registry : Registry Nat} (hw : ∀ c, registry.watchersOf c = [])
    {ms : List Move} (h : (start registry).run ms = some t) :
    (∀ d c, ∃ k u, (start registry).run (ms.take k) = some u ∧ u.cached d c = none
      ∧ (∀ j v, k < j → j ≤ ms.length → (start registry).run (ms.take j) = some v →
        v.cached d c ≠ none)
      ∧ t.watching d c + t.pending d c = u.vain d c + u.searching d c)
    ∧ (∀ i c is ds, t.tasks[i]? = some (.publication c is (.calling ds)) →
      ∃ k u, (start registry).run (ms.take k) = some u ∧ ms[k]? = some (.goOn i)
        ∧ u.tasks[i]? = some (.publication c is .stored)
        ∧ calledBy i ((start registry).notices ms) ++ ds = u.registry.watchersOf c)
    ∧ ∀ c, t.metrics.value (.topologyUpdates c)
      = ((start registry).notices ms).countP (·.contextId == c) := by
  have hnoticed : (start registry).Noticed ms t := by
    refine run_keeps (P := (start registry).Noticed) (fun hu hp _ hs => hp.step hu hs) ?_ h
    exact ⟨fun hi => (nomatch hi), fun _ => rfl, fun _ => rfl⟩
  refine ⟨fun d c => ?_, fun i c is ds hi => hnoticed.called hi, hnoticed.counted⟩
  exact (run_keeps (P := (start registry).Settled d c)
    (fun hu hp hnext hs => hp.step hu hnext hs) (settled_start hw) h).moment

/-- Directory 0 looks up an unknown cluster twice, one lookup after the other, and is then told of
its instances. -/
def askedTwice : List Move :=
  .lookUp 0 "c" :: List.replicate 4 (.goOn 0) ++ .lookUp 0 "c" :: List.replicate 4 (.goOn 1)
    ++ .publish "c" [⟨"10.0.0.1", 80, "c"⟩] :: List.replicate 4 (.goOn 2)

theorem subscriptions_counted_askedTwice : ∃ t k u, (start .empty).run askedTwice = some t
    ∧ (start .empty).run (askedTwice.take k) = some u ∧ u.cached 0 "c" = none
    ∧ t.watching 0 "c" = 2 ∧ u.vain 0 "c" + u.searching 0 "c" = 2
    ∧ ((start .empty).notices askedTwice).countP (·.contextId == "c") = 2 := by
  obtain ⟨t, ht, hwatching, hpending, hvalue⟩ : ∃ t, (start .empty).run askedTwice = some t
      ∧ t.watching 0 "c" = 2 ∧ t.pending 0 "c" = 0
      ∧ t.metrics.value (.topologyUpdates "c") = 2 := ⟨_, rfl, rfl, rfl, rfl⟩
  obtain ⟨hsettled, -, hcounted⟩ := subscriptions_counted (fun _ => rfl) ht
  obtain ⟨k, u, hu, hc, -, hbal⟩ := hsettled 0 "c"
  rw [hwatching, hpending] at hbal
  exact ⟨t, k, u, ht, hu, hc, hwatching, hbal.symm, (hcounted "c").symm.trans hvalue⟩

end Scene

end Switchyard
