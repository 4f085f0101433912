import Switchyard.Proofs.Subscriptions
import Switchyard.Topology.Faults

/-!
# How far a publication reaches

A publication reads the watchers of its cluster once and calls them in order.  A watcher that fails
ends the calls (`Scene.Calling`), so the watchers behind it are missed: the directories among them
keep what they have, and the publication is over all the same (`Scene.publications_reach`).
-/

namespace Switchyard.Scene

/-- A call of a watcher with a list. -/
structure Call where
  publication : Nat
  watcher : Nat
  contextId : String
  instances : List Instance
  failed : Bool
deriving DecidableEq, Repr

/-- The call that a publication makes next. -/
def nextCall? (s : Scene) (i : Nat) (failed : Bool) : Option Call :=
  match s.tasks[i]? with
  | some (.publication c is (.calling (w :: _))) => some ⟨i, w, c, is, failed⟩
  | _ => none

/-- The call that an act is, if it is one. -/
def call? (s : Scene) : Act → Option Call
  | .move (.goOn i) => s.nextCall? i false
  | .call i fails => s.nextCall? i fails
  | _ => none

/-- The calls in a run, in order. -/
def calls (s : Scene) : List Act → List Call
  | [] => []
  | a :: acts => (s.call? a).toList ++
    match s.act a with
    | some t => t.calls acts
    | none => []

/-- The calls of a publication. -/
def callsOf (i : Nat) (cs : List Call) : List Call := cs.filter (·.publication == i)

/-- What can happen where not all watchers are those of directories. -/
inductive Happens (s : Scene) : Act → Scene → Prop
  | move {m : Move} {t : Scene} (hs : Step s m t) : Happens s (.move m) t
  | subscribe (c : String) (w : Nat) :
    Happens s (.subscribe c w) { s with registry := s.registry.subscribe c w }
  | call {i w : Nat} {c : String} {is : List Instance} {rest : List Nat}
    (hi : s.tasks[i]? = some (.publication c is (.calling (w :: rest)))) (fails : Bool) :
    Happens s (.call i fails)
      (s.setTask i (.publication c is (.calling (if fails then [] else rest))))

variable {s t : Scene} {a : Act} {c : String}

theorem Happens.of_act (h : s.act a = some t) : Happens s a t := by
  cases a with
  | move m => exact .move (.of_step h)
  | subscribe c w => exact Option.some.inj h ▸ .subscribe c w
  | call i fails =>
    simp only [act] at h
    split at h
    · rename_i c is w rest hi
      exact Option.some.inj h ▸ .call hi fails
    · cases h

theorem calls_concat {acts : List Act} (h : s.after acts = some t) (a : Act) :
    s.calls (acts ++ [a]) = s.calls acts ++ (t.call? a).toList := by
  induction acts generalizing s with
  | nil =>
    cases h
    simp only [List.nil_append, calls]
    split <;> simp
  | cons b acts ih =>
    rw [after, List.foldlM_cons] at h
    obtain ⟨u, hu, h⟩ := Option.bind_eq_some_iff.mp h
    simp only [List.cons_append, calls, hu, ih h, List.append_assoc]

theorem callsOf_append (i : Nat) (cs ds : List Call) :
    callsOf i (cs ++ ds) = callsOf i cs ++ callsOf i ds := List.filter_append _ _

/-- What holds of the acts so far and of where they lead is kept by every further act. -/
theorem after_keeps {P : List Act → Scene → Prop}
    (hP : ∀ {past : List Act} {u v : Scene} {a : Act}, s.after past = some u → P past u →
      Happens u a v → P (past ++ [a]) v)
    (hs : P [] s) {acts : List Act} (h : s.after acts = some t) : P acts t := by
  induction acts using List.reverseRecOn generalizing t with
  | nil => exact Option.some.inj h ▸ hs
  | append_singleton past a ih =>
    rw [after_concat] at h
    obtain ⟨u, hu, h⟩ := Option.bind_eq_some_iff.mp h
    exact hP hu (ih hu) (.of_act h)

/-! ## The watchers that there are -/

theorem Happens.watchersOf_prefix (h : Happens s a t) (c : String) :
    s.registry.watchersOf c <+: t.registry.watchersOf c := by
  have hsubscribe : ∀ b w, s.registry.watchersOf c <+: (s.registry.subscribe b w).watchersOf c := by
    intro b w
    rw [Registry.watchersOf_subscribe]
    split_ifs
    · exact List.prefix_append _ _
    · exact List.prefix_rfl
  cases h with
  | move hs =>
    cases hs with
    | lookUp | publish => exact List.prefix_rfl
    | goOn hk hg =>
      cases hg with
      | subscribe => exact hsubscribe _ _
      | _ => exact List.prefix_rfl
  | subscribe b w => exact hsubscribe b w
  | call => exact List.prefix_rfl

/-- Nobody unsubscribes, and those who come later stand behind. -/
theorem watchersOf_prefix_of_after {acts : List Act} (h : s.after acts = some t) (c : String) :
    s.registry.watchersOf c <+: t.registry.watchersOf c :=
  after_keeps (P := fun _ u => s.registry.watchersOf c <+: u.registry.watchersOf c)
    (fun _ hu hs => hu.trans (hs.watchersOf_prefix c)) List.prefix_rfl h

/-! ## The calls of a publication -/

/-- A publication has read its watchers, and these are left. -/
def Leaves (s : Scene) (i : Nat) (c : String) (is : List Instance) (ws : List Nat) : Prop :=
  s.tasks[i]? = some (.publication c is (.calling ws))

/-- A publication reads its watchers. -/
def Reads (s : Scene) (a : Act) (i : Nat) (c : String) (is : List Instance) (ws : List Nat) :
    Prop :=
  a = .move (.goOn i) ∧ s.tasks[i]? = some (.publication c is .stored)
    ∧ ws = s.registry.watchersOf c

theorem Leaves.nextCall? {i w : Nat} {is : List Instance} {rest : List Nat}
    (h : s.Leaves i c is (w :: rest)) (failed : Bool) :
    s.nextCall? i failed = some ⟨i, w, c, is, failed⟩ := by
  rw [Scene.nextCall?, show s.tasks[i]? = _ from h]

theorem nextCall?_of_not_calling {i : Nat} {x : TopologyTask} (hi : s.tasks[i]? = some x)
    (hx : ∀ c is ws, x ≠ .publication c is (.calling ws)) (failed : Bool) :
    s.nextCall? i failed = none := by
  simp only [Scene.nextCall?, hi]
  split
  · rename_i h
    exact absurd (Option.some.inj h) (hx _ _ _)
  · rfl

theorem leaves_begin_iff {x : TopologyTask} (hx : ∀ c is ws, x ≠ .publication c is (.calling ws))
    {i : Nat} {is : List Instance} {ws : List Nat} :
    (s.begin x).Leaves i c is ws ↔ s.Leaves i c is ws := by
  constructor
  · intro h
    rcases tasks_begin_cases h with h | ⟨-, rfl⟩
    · exact h
    · exact absurd rfl (hx c is ws)
  · exact fun h => tasks_begin_of_some h x

theorem tasks_setTask {k : Nat} {x : TopologyTask} (hk : s.tasks[k]? = some x) (y : TopologyTask)
    (i : Nat) : (s.setTask k y).tasks[i]? = if k = i then some y else s.tasks[i]? := by
  rw [setTask, List.getElem?_set, if_pos (List.getElem?_eq_some_iff.mp hk).1]

/-- A task comes to call watchers by reading them. -/
theorem Goes.calls_iff {x y : TopologyTask} (hg : Goes s x y t)
    (hx : ∀ c is ws, x ≠ .publication c is (.calling ws)) {is : List Instance} {ws : List Nat} :
    y = .publication c is (.calling ws)
      ↔ x = .publication c is .stored ∧ ws = s.registry.watchersOf c := by
  cases hg with
  | call => exact absurd rfl (hx _ _ _)
  | read =>
    constructor
    · intro h
      cases h
      exact ⟨rfl, rfl⟩
    · rintro ⟨h, rfl⟩
      cases h
      rfl
  | _ => simp

/-- An act calls the next watcher of a publication, which leaves the others unless it fails, or it
calls nobody and may read the watchers. -/
theorem Happens.call_cases (h : Happens s a t) :
    (∃ k c is w rest failed, s.Leaves k c is (w :: rest)
      ∧ s.call? a = some ⟨k, w, c, is, failed⟩
      ∧ ∀ i, t.tasks[i]? = if k = i
        then some (.publication c is (.calling (if failed then [] else rest))) else s.tasks[i]?)
    ∨ s.call? a = none
      ∧ ∀ i c is ws, t.Leaves i c is ws ↔ s.Leaves i c is ws ∨ s.Reads a i c is ws := by
  cases h with
  | subscribe => exact Or.inr ⟨rfl, fun i c is ws => by simp [Leaves, Reads]⟩
  | @call k w c is rest hk fails =>
    exact Or.inl ⟨k, c, is, w, rest, fails, hk, Leaves.nextCall? hk fails, tasks_setTask hk _⟩
  | move hs =>
    cases hs with
    | lookUp | publish =>
      exact Or.inr ⟨rfl, fun i c is ws => by rw [leaves_begin_iff (by simp)]; simp [Reads]⟩
    | @goOn k x y u hk hg =>
      have htasks := hg.tasks_setTask hk
      rcases hg.notice_cases with ⟨c, is, w, rest, rfl, rfl, rfl⟩ | ⟨hx, -, -⟩
      · exact Or.inl ⟨k, c, is, w, rest, false, hk, Leaves.nextCall? hk false, htasks⟩
      · refine Or.inr ⟨nextCall?_of_not_calling hk hx false, fun i c is ws => ?_⟩
        rw [Leaves, htasks]
        split_ifs with hki
        · subst hki
          rw [Leaves, Reads, hk, Option.some.injEq, Option.some.injEq, Option.some.injEq,
            hg.calls_iff hx]
          simp [hx c is ws]
        · simp [Leaves, Reads, hki]

/-- The calls that a publication has made of its watchers, and the watchers that are left. -/
inductive Calling (ws : List Nat) : List Call → List Nat → Prop
  | going {cs : List Call} {rest : List Nat} (hcs : cs.map Call.watcher ++ rest = ws)
    (hok : ∀ call ∈ cs, call.failed = false) : Calling ws cs rest
  | failed {cs : List Call} {call : Call} {missed : List Nat}
    (hcs : (cs ++ [call]).map Call.watcher ++ missed = ws)
    (hok : ∀ call ∈ cs, call.failed = false) (hfail : call.failed = true) :
    Calling ws (cs ++ [call]) []

theorem Calling.call {ws rest : List Nat} {cs : List Call} {call : Call}
    (h : Calling ws cs (call.watcher :: rest)) :
    Calling ws (cs ++ [call]) (if call.failed then [] else rest) := by
  cases h with
  | going hcs hok =>
    have hcs' : (cs ++ [call]).map Call.watcher ++ rest = ws := by simpa using hcs
    cases hf : call.failed with
    | true => exact .failed hcs' hok hf
    | false =>
      refine .going hcs' fun d hd => ?_
      rcases List.mem_append.mp hd with hd | hd
      · exact hok d hd
      · rw [List.mem_singleton.mp hd, hf]

/-- Whoever is missed stands behind a watcher that failed. -/
theorem Calling.exists_missed {ws : List Nat} {cs : List Call} (h : Calling ws cs []) :
    ∃ missed, cs.map Call.watcher ++ missed = ws ∧ (∀ call ∈ cs.dropLast, call.failed = false)
      ∧ (missed ≠ [] → ∃ call, cs.getLast? = some call ∧ call.failed = true) := by
  cases h with
  | going hcs hok =>
    exact ⟨[], hcs, fun call hc => hok call ((List.dropLast_sublist _).subset hc),
      fun h => absurd rfl h⟩
  | @failed cs call missed hcs hok hfail =>
    exact ⟨missed, hcs, by simpa using hok, fun _ => ⟨call, by simp, hfail⟩⟩

/-- What the publications have called. -/
structure Called (s₀ : Scene) (past : List Act) (s : Scene) : Prop where
  reading : ∀ {i c is rest}, s.Leaves i c is rest → ∃ k u, s₀.after (past.take k) = some u
    ∧ past[k]? = some (.move (.goOn i)) ∧ u.tasks[i]? = some (.publication c is .stored)
    ∧ Calling (u.registry.watchersOf c) (callsOf i (s₀.calls past)) rest
  about : ∀ {i c is rest}, s.Leaves i c is rest →
    ∀ call ∈ callsOf i (s₀.calls past), call.contextId = c ∧ call.instances = is
  uncalled : ∀ {i}, (∀ c is rest, ¬s.Leaves i c is rest) → callsOf i (s₀.calls past) = []

/-- A moment of the past stays one. -/
theorem reading_concat {s₀ : Scene} {past : List Act} {i : Nat} {Q : Scene → Prop}
    (h : ∃ k u, s₀.after (past.take k) = some u ∧ past[k]? = some (.move (.goOn i)) ∧ Q u)
    (a : Act) : ∃ k u, s₀.after ((past ++ [a]).take k) = some u
      ∧ (past ++ [a])[k]? = some (.move (.goOn i)) ∧ Q u := by
  obtain ⟨k, u, hu, hk, hq⟩ := h
  have hlt := (List.getElem?_eq_some_iff.mp hk).1
  refine ⟨k, u, ?_, ?_, hq⟩
  · rw [List.take_append_of_le_length (Nat.le_of_lt hlt), hu]
  · rw [List.getElem?_append_left hlt, hk]

theorem Called.call {s₀ : Scene} {past : List Act} (h : s₀.Called past s)
    (hrun : s₀.after past = some s) {k w : Nat} {is : List Instance} {rest : List Nat}
    {failed : Bool} (hk : s.Leaves k c is (w :: rest))
    (hcall : s.call? a = some ⟨k, w, c, is, failed⟩) (htasks : ∀ i, t.tasks[i]? = if k = i
      then some (.publication c is (.calling (if failed then [] else rest))) else s.tasks[i]?) :
    s₀.Called (past ++ [a]) t := by
  have hcalls : s₀.calls (past ++ [a]) = s₀.calls past ++ [⟨k, w, c, is, failed⟩] := by
    rw [calls_concat hrun, hcall, Option.toList_some]
  have hself : callsOf k (s₀.calls (past ++ [a]))
      = callsOf k (s₀.calls past) ++ [⟨k, w, c, is, failed⟩] := by
    rw [hcalls, callsOf_append]
    simp [callsOf]
  have hother : ∀ {i}, k ≠ i → callsOf i (s₀.calls (past ++ [a])) = callsOf i (s₀.calls past) := by
    intro i hi
    rw [hcalls, callsOf_append]
    simp [callsOf, hi]
  refine ⟨fun {i b js ws} hi => ?_, fun {i b js ws} hi => ?_, fun {i} hi => ?_⟩
  · rw [Leaves, htasks] at hi
    by_cases hki : k = i
    · subst hki
      rw [if_pos rfl] at hi
      cases hi
      rw [hself]
      obtain ⟨j, u, hu, hj, hstored, hcalling⟩ := reading_concat (h.reading hk) a
      exact ⟨j, u, hu, hj, hstored, hcalling.call⟩
    · rw [if_neg hki] at hi
      rw [hother hki]
      exact reading_concat (h.reading hi) a
  · rw [Leaves, htasks] at hi
    by_cases hki : k = i
    · subst hki
      rw [if_pos rfl] at hi
      cases hi
      intro call hc
      rw [hself] at hc
      rcases List.mem_append.mp hc with hc | hc
      · exact h.about hk call hc
      · rw [List.mem_singleton.mp hc]
        exact ⟨rfl, rfl⟩
    · rw [if_neg hki] at hi
      rw [hother hki]
      exact h.about hi
  · by_cases hki : k = i
    · subst hki
      exact absurd ((htasks k).trans (if_pos rfl)) (hi _ _ _)
    · rw [hother hki]
      refine h.uncalled fun b js ws hs => hi b js ws ?_
      rw [Leaves, htasks, if_neg hki]
      exact hs

theorem Called.step {s₀ : Scene} {past : List Act} (h : s₀.Called past s)
    (hrun : s₀.after past = some s) (hs : Happens s a t) : s₀.Called (past ++ [a]) t := by
  rcases hs.call_cases with ⟨k, c, is, w, rest, failed, hk, hcall, htasks⟩ | ⟨hcall, hleaves⟩
  · exact h.call hrun hk hcall htasks
  have hcalls : s₀.calls (past ++ [a]) = s₀.calls past := by
    rw [calls_concat hrun, hcall, Option.toList_none, List.append_nil]
  -- who has just read the watchers has called nobody yet
  have hnone : ∀ {i c is ws}, s.Reads a i c is ws → callsOf i (s₀.calls past) = [] := by
    rintro i c is ws ⟨-, hstored, -⟩
    refine h.uncalled fun b js rest hi => ?_
    rw [Leaves, hstored] at hi
    cases hi
  refine ⟨fun {i c is ws} hi => ?_, fun {i c is ws} hi => ?_, fun {i} hi => ?_⟩
  · rw [hcalls]
    rcases (hleaves i c is ws).mp hi with hi | hreads
    · exact reading_concat (h.reading hi) a
    · rw [hnone hreads]
      obtain ⟨rfl, hstored, rfl⟩ := hreads
      exact ⟨past.length, s, by rw [List.take_left, hrun], List.getElem?_concat_length, hstored,
        .going rfl (by simp)⟩
  · rw [hcalls]
    rcases (hleaves i c is ws).mp hi with hi | hreads
    · exact h.about hi
    · rw [hnone hreads]
      simp
  · rw [hcalls]
    exact h.uncalled fun c is ws hs => hi c is ws ((hleaves i c is ws).mpr (Or.inl hs))

theorem called_of_after {registry : Registry Nat} {acts : List Act}
    (h : (start registry).after acts = some t) : (start registry).Called acts t :=
  after_keeps (P := (start registry).Called) (fun hu hp hs => hp.step hu hs)
    ⟨fun hi => (nomatch hi), fun hi => (nomatch hi), fun _ => rfl⟩ h

/-! ## A publication with nothing in between -/

theorem calls_cons (h : s.act a = some t) (acts : List Act) :
    s.calls (a :: acts) = (s.call? a).toList ++ t.calls acts := by
  rw [calls, h]

theorem calls_calling (takesIn fails : Nat → Bool) (c : String) (is : List Instance) :
    ∀ (ws : List Nat) (s : Scene), (s.begin (.publication c is (.calling ws))).calls
        (calling takesIn fails s.tasks.length ws)
      = (Registry.called fails ws).map fun w => ⟨s.tasks.length, w, c, is, fails w⟩
  | [], _ => rfl
  | w :: ws, s => by
    have hleaves : (s.begin (.publication c is (.calling (w :: ws)))).Leaves s.tasks.length c is
        (w :: ws) := List.getElem?_concat_length
    have hcall := act_call_begin s c is w ws
    have hrest := calls_calling takesIn fails c is ws
    cases hf : fails w with
    | true =>
      rw [calling_of_fails hf, calls_cons (hcall true), call?, hleaves.nextCall?]
      simp [Registry.called, hf, calls]
    | false =>
      have hcalled : Registry.called fails (w :: ws) = w :: Registry.called fails ws := by
        simp [Registry.called, hf]
      rw [hcalled, List.map_cons, hf]
      cases ht : takesIn w with
      | true =>
        rw [calling_of_takesIn hf ht, calls_cons (act_goOn_begin rfl), call?, hleaves.nextCall?]
        exact congrArg (_ :: ·) (hrest (s.push w c is))
      | false =>
        rw [calling_of_not_takesIn hf ht, calls_cons (hcall false), call?, hleaves.nextCall?]
        exact congrArg (_ :: ·) (hrest s)

theorem call?_begin {x : TopologyTask} (hx : ∀ c is ws, x ≠ .publication c is (.calling ws)) :
    (s.begin x).call? (.move (.goOn s.tasks.length)) = none :=
  nextCall?_of_not_calling List.getElem?_concat_length hx false

theorem calls_publishing (s : Scene) (takesIn fails : Nat → Bool) (c : String)
    (is : List Instance) : s.calls (s.publishing takesIn fails c is)
      = (s.registry.publish fails c is).2.map fun w => ⟨s.tasks.length, w, c, is, fails w⟩ := by
  have hbegin : s.act (.move (.publish c is)) = some (s.begin (.publication c is .begun)) := rfl
  rw [publishing, calls_cons hbegin, calls_cons (act_goOn_begin rfl), call?_begin (by simp),
    calls_cons (act_goOn_begin rfl), call?_begin (by simp)]
  exact calls_calling takesIn fails c is (s.registry.watchersOf c) _

theorem cached_foldl_push (c : String) (is : List Instance) (d : Nat) (b : String) :
    ∀ (ds : List Nat) (s : Scene), (ds.foldl (fun s d => s.push d c is) s).cached d b
      = if b = c ∧ d ∈ ds then some is else s.cached d b
  | [], s => by simp
  | e :: ds, s => by
    rw [List.foldl_cons, cached_foldl_push c is d b ds, cached_push]
    by_cases hb : b = c <;> by_cases hd : d ∈ ds <;> by_cases he : d = e <;> simp [hb, hd, he]

/-- Directories that take in a list change neither the tasks nor the register. -/
theorem foldl_push_keeps (c : String) (is : List Instance) : ∀ (ds : List Nat) (s : Scene),
    (ds.foldl (fun s d => s.push d c is) s).tasks = s.tasks
      ∧ (ds.foldl (fun s d => s.push d c is) s).registry = s.registry
  | [], _ => ⟨rfl, rfl⟩
  | d :: ds, s => foldl_push_keeps c is ds (s.push d c is)

/-- However acts come between each other, a publication that is over has called the watchers of its
cluster that there were when it read them, among them all that there were at any moment before: each
once, in order, with its list, up to the first that failed.  The watchers behind that one are
missed.  It can happen at any time that a publication with nothing in between is over in this way:
then the register has the list, the directories that it reached have it in their caches, and nothing
else has changed in any of these. -/
theorem publications_reach {registry : Registry Nat} {acts : List Act}
    (h : (start registry).after acts = some t) :
    (∀ i c is, t.tasks[i]? = some (.publication c is (.calling [])) → ∃ k u missed,
      (start registry).after (acts.take k) = some u ∧ acts[k]? = some (.move (.goOn i))
      ∧ u.tasks[i]? = some (.publication c is .stored)
      ∧ (∀ j v, j ≤ k → (start registry).after (acts.take j) = some v →
        v.registry.watchersOf c <+: u.registry.watchersOf c)
      ∧ (callsOf i ((start registry).calls acts)).map Call.watcher ++ missed
        = u.registry.watchersOf c
      ∧ (∀ call ∈ callsOf i ((start registry).calls acts),
        call.contextId = c ∧ call.instances = is)
      ∧ (∀ call ∈ (callsOf i ((start registry).calls acts)).dropLast, call.failed = false)
      ∧ (missed ≠ [] → ∃ call, (callsOf i ((start registry).calls acts)).getLast? = some call
        ∧ call.failed = true))
    ∧ ∀ takesIn fails c is, ∃ u, t.after (t.publishing takesIn fails c is) = some u
      ∧ u.tasks = t.tasks ++ [.publication c is (.calling [])]
      ∧ u.registry = (t.registry.publish fails c is).1
      ∧ t.calls (t.publishing takesIn fails c is)
        = (t.registry.publish fails c is).2.map (fun w => ⟨t.tasks.length, w, c, is, fails w⟩)
      ∧ ∀ d b, u.cached d b
        = if b = c ∧ d ∈ reached takesIn fails (t.registry.watchersOf c) then some is
          else t.cached d b := by
  have hcalled := called_of_after h
  refine ⟨fun i c is hi => ?_, fun takesIn fails c is => ?_⟩
  · obtain ⟨k, u, hu, hk, hstored, hcalling⟩ := hcalled.reading hi
    have hprefix : ∀ j v, j ≤ k → (start registry).after (acts.take j) = some v →
        v.registry.watchersOf c <+: u.registry.watchersOf c := by
      intro j v hj hv
      have hsplit := List.take_append_drop j (acts.take k)
      rw [List.take_take, Nat.min_eq_left hj] at hsplit
      rw [← hsplit, after_append, hv, Option.bind_some] at hu
      exact watchersOf_prefix_of_after hu c
    obtain ⟨missed, hwatchers, hok, hfail⟩ := hcalling.exists_missed
    exact ⟨k, u, missed, hu, hk, hstored, hprefix, hwatchers, hcalled.about hi, hok, hfail⟩
  · obtain ⟨htasks, hregistry⟩ :=
      foldl_push_keeps c is (reached takesIn fails (t.registry.watchersOf c))
        { t with registry := (t.registry.publish fails c is).1 }
    exact ⟨_, after_publishing t takesIn fails c is, congrArg (· ++ _) htasks, hregistry,
      calls_publishing t takesIn fails c is, fun d b => cached_foldl_push c is d b _ _⟩

/-- Directory 0 looks a cluster up, somebody subscribes a watcher, and directory 1 looks it up. -/
def watchedByThree : List Act :=
  .move (.lookUp 0 "c") :: List.replicate 4 (.move (.goOn 0)) ++ .subscribe "c" 7 ::
    .move (.lookUp 1 "c") :: List.replicate 4 (.move (.goOn 1))

theorem publications_reach_faulty : ∃ t u,
    (start (.seed [("c", [⟨"old", 1, "c"⟩])])).after watchedByThree = some t
    ∧ t.registry.watchersOf "c" = [0, 7, 1]
    ∧ t.after (t.publishing (· != 7) (· == 7) "c" [⟨"new", 2, "c"⟩]) = some u
    ∧ u.registry.instancesOf "c" = [⟨"new", 2, "c"⟩]
    ∧ u.cached 0 "c" = some [⟨"new", 2, "c"⟩] ∧ u.cached 1 "c" = some [⟨"old", 1, "c"⟩] := by
  obtain ⟨t, ht, hwatchers, hcached⟩ : ∃ t,
      (start (.seed [("c", [⟨"old", 1, "c"⟩])])).after watchedByThree = some t
      ∧ t.registry.watchersOf "c" = [0, 7, 1]
      ∧ t.cached 1 "c" = some [⟨"old", 1, "c"⟩] := ⟨_, rfl, rfl, rfl⟩
  obtain ⟨-, hpublish⟩ := publications_reach ht
  obtain ⟨u, hu, -, hregistry, -, hcaches⟩ :=
    hpublish (· != 7) (· == 7) "c" [⟨"new", 2, "c"⟩]
  rw [hwatchers] at hcaches
  refine ⟨t, u, ht, hwatchers, hu, ?_, ?_, ?_⟩
  · rw [hregistry, Registry.publish, Registry.instancesOf_store, if_pos rfl]
  · exact (hcaches 0 "c").trans (if_pos (by decide))
  · exact (hcaches 1 "c").trans ((if_neg (by decide)).trans hcached)

end Switchyard.Scene
