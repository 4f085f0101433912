import Mathlib.Data.List.Induction
import Switchyard.Proofs.SceneStep
import Switchyard.Topology.Follower

/-!
# A pushed list comes first

A directory on any register is told of lists by its watchers and by its lookups (`Follower.news`).
What it has in its cache for a cluster is the list that was pushed last or, if none was pushed, the
first list that a lookup found and that is not empty (`Follower.due`).
-/

namespace Switchyard.Follower

open Dispatch (Error)

/-- The steps that a lookup can take: how far it is then, and the directory around it. -/
inductive Goes (s : Follower) (c : String) : LookupStage → LookupStage → Follower → Prop
  | hit {is : List Instance} (h : s.cache.find? c = some is) : Goes s c .begun (.ended (some is)) s
  | miss (h : s.cache.find? c = none) : Goes s c .begun .missed s
  | subscribe : Goes s c .missed .subscribed { s with watchers := s.watchers ++ [c] }
  | settle {found : List Instance} : Goes s c (.answered found)
    (.ended (s.cache.settle c found).2) { s with cache := (s.cache.settle c found).1 }

/-- What can happen to a directory. -/
inductive Step (s : Follower) : Event → Follower → Prop
  | lookUp (c : String) : Step s (.lookUp c) { s with lookups := s.lookups ++ [(c, .begun)] }
  | goOn {i : Nat} {c : String} {stage next : LookupStage} {t : Follower}
    (hi : s.lookups[i]? = some (c, stage)) (hg : Goes s c stage next t) :
    Step s (.goOn i) (t.setLookup i c next)
  | answer {i : Nat} {c : String} (hi : s.lookups[i]? = some (c, .subscribed))
    (found : List Instance) : Step s (.answer i found) (s.setLookup i c (.answered found))
  | push {w : Nat} {c : String} (hw : s.watchers[w]? = some c) (is : List Instance) :
    Step s (.push w is) (s.push c is)

variable {s t : Follower} {e : Event} {c : String} {stage next : LookupStage}

theorem goes_of_advance (h : s.advance c stage = some (t, next)) : Goes s c stage next t := by
  cases stage with
  | begun =>
    simp only [advance] at h
    split at h
    · rename_i is hc
      cases h
      exact .hit hc
    · rename_i hc
      cases h
      exact .miss hc
  | missed => cases h; exact .subscribe
  | answered found => cases h; exact .settle
  | subscribed | ended => cases h

theorem Step.of_step (h : s.step e = some t) : Step s e t := by
  cases e with
  | lookUp c => exact Option.some.inj h ▸ .lookUp c
  | goOn i =>
    simp only [step] at h
    split at h
    · rename_i c stage hi
      obtain ⟨⟨u, next⟩, hu, rfl⟩ := Option.map_eq_some_iff.mp h
      exact .goOn hi (goes_of_advance hu)
    · cases h
  | answer i found =>
    simp only [step] at h
    split at h
    · rename_i c hi
      exact Option.some.inj h ▸ .answer hi found
    · cases h
  | push w is =>
    obtain ⟨c, hw, rfl⟩ := Option.map_eq_some_iff.mp h
    exact .push hw is

theorem Goes.lookups_eq (h : Goes s c stage next t) : t.lookups = s.lookups := by cases h <;> rfl

/-! ## What a directory is told -/

/-- A list that a directory is told of: it is pushed, or it is found by a lookup that ends. -/
inductive News
  | pushed (contextId : String) (instances : List Instance)
  | found (contextId : String) (instances : List Instance)
deriving DecidableEq, Repr

/-- The list that a lookup ends with, if it has one. -/
def telling (c : String) : LookupStage → Option News
  | .answered found => some (.found c found)
  | _ => none

/-- The list that an event tells of, if it tells of one. -/
def news? (s : Follower) : Event → Option News
  | .push w is => (s.watchers[w]?).map (.pushed · is)
  | .goOn i => (s.lookups[i]?).bind fun (c, stage) => telling c stage
  | .lookUp _ | .answer _ _ => none

/-- What a run tells of, in order. -/
def news (s : Follower) : List Event → List News
  | [] => []
  | e :: es => (s.news? e).toList ++
    match s.step e with
    | some t => t.news es
    | none => []

/-- The lists that were pushed for a cluster. -/
def pushes (c : String) (ns : List News) : List (List Instance) :=
  ns.filterMap fun
    | .pushed b is => if b = c then some is else none
    | .found _ _ => none

/-- The lists that lookups of a cluster have found. -/
def finds (c : String) (ns : List News) : List (List Instance) :=
  ns.filterMap fun
    | .found b is => if b = c then some is else none
    | .pushed _ _ => none

/-- The list that was pushed last or else the first that was found and is not empty. -/
def due (c : String) (ns : List News) : Option (List Instance) :=
  (pushes c ns).getLast?.or ((finds c ns).find? (· ≠ []))

theorem due_pushed (c b : String) (is : List Instance) (ns : List News) :
    due c (ns ++ [.pushed b is]) = if c = b then some is else due c ns := by
  by_cases hc : c = b
  · simp [due, pushes, hc]
  · simp [due, pushes, finds, hc, Ne.symm hc]

/-- What is found counts for a cluster of which nothing else is known, unless it is empty. -/
theorem due_found (c b : String) (is : List Instance) (ns : List News) :
    due c (ns ++ [.found b is])
      = if c = b then (due c ns).or (if is = [] then none else some is) else due c ns := by
  by_cases hc : c = b
  · by_cases his : is = [] <;> simp [due, pushes, finds, hc, his]
  · simp [due, pushes, finds, hc, Ne.symm hc]

theorem news_concat {es : List Event} (h : s.run es = some t) (e : Event) :
    s.news (es ++ [e]) = s.news es ++ (t.news? e).toList := by
  induction es generalizing s with
  | nil =>
    cases h
    simp only [List.nil_append, news]
    split <;> simp
  | cons e' es ih =>
    obtain ⟨u, hu, h⟩ := Option.bind_eq_some_iff.mp h
    simp only [List.cons_append, news, hu, ih h, List.append_assoc]

theorem news?_goOn {i : Nat} (hi : s.lookups[i]? = some (c, stage)) :
    s.news? (.goOn i) = telling c stage := by
  rw [news?, hi, Option.bind_some]

/-- A step leaves in the cache what is due with what it tells of. -/
theorem Step.find?_cache (hs : Step s e t) {ns : List News}
    (h : ∀ c, s.cache.find? c = due c ns) (c : String) :
    t.cache.find? c = due c (ns ++ (s.news? e).toList) := by
  cases hs with
  | lookUp | answer => simpa [news?] using h c
  | push hw is =>
    rw [news?, hw, Option.map_some, Option.toList_some, due_pushed, ← h c]
    exact Store.find?_set _ _ _ _
  | goOn hi hg =>
    rw [news?_goOn hi]
    cases hg with
    | hit | miss | subscribe => simpa [telling] using h c
    | @settle found =>
      rw [telling, Option.toList_some, due_found, ← h c]
      refine (Cache.find?_settle _ _ _ _).trans ?_
      split_ifs with hc hf
      · rw [Cache.settle_snd, if_pos hf, hc]
        cases s.cache.find? _ <;> rfl
      · rw [Cache.settle_snd, if_neg hf, hc]
        cases s.cache.find? _ <;> rfl
      · rfl

/-- What holds of the events so far and of where they lead is kept by every further event. -/
theorem run_keeps {P : List Event → Follower → Prop}
    (hP : ∀ {past : List Event} {u v : Follower} {e : Event}, s.run past = some u → P past u →
      u.step e = some v → P (past ++ [e]) v)
    (hs : P [] s) {es : List Event} (h : s.run es = some t) : P es t := by
  induction es using List.reverseRecOn generalizing t with
  | nil => exact Option.some.inj h ▸ hs
  | append_singleton past e ih =>
    rw [run_append] at h
    obtain ⟨u, hu, h⟩ := Option.bind_eq_some_iff.mp h
    obtain ⟨v, hv, h⟩ := Option.bind_eq_some_iff.mp h
    exact Option.some.inj h ▸ hP hu (ih hu) hv

theorem find?_cache {es : List Event} (h : start.run es = some t) :
    ∀ c, t.cache.find? c = due c (start.news es) :=
  run_keeps (P := fun past u => ∀ c, u.cache.find? c = due c (start.news past))
    (fun hu hcache hstep c => by
      rw [news_concat hu]
      exact (Step.of_step hstep).find?_cache hcache c)
    (fun _ => rfl) h

/-! ## How lookups end -/

theorem lookups_setLookup {i : Nat} {l : String × LookupStage} (hi : s.lookups[i]? = some l)
    (c : String) (stage : LookupStage) (j : Nat) :
    (s.setLookup i c stage).lookups[j]? = if i = j then some (c, stage) else s.lookups[j]? := by
  rw [setLookup]
  split_ifs with hij
  · subst hij
    exact List.getElem?_set_self (List.getElem?_eq_some_iff.mp hi).1
  · exact List.getElem?_set_ne hij

/-- A lookup ends with what is in the cache then.  If that is nothing, none were found for it. -/
structure Ends (s : Follower) (i : Nat) (c : String) (result : Option (List Instance))
    (t : Follower) : Prop where
  step : s.step (.goOn i) = some t
  ended : t.lookups[i]? = some (c, .ended result)
  cached : t.cache.find? c = result
  unknown : result = none → s.lookups[i]? = some (c, .answered []) ∧ s.cache.find? c = none

theorem Goes.ends {i : Nat} {result : Option (List Instance)} (hi : s.lookups[i]? = some (c, stage))
    (hg : Goes s c stage (.ended result) t)
    (hstep : s.step (.goOn i) = some (t.setLookup i c (.ended result))) :
    s.Ends i c result (t.setLookup i c (.ended result)) := by
  have hended : (t.setLookup i c (.ended result)).lookups[i]? = some (c, .ended result) := by
    rw [lookups_setLookup (hg.lookups_eq ▸ hi), if_pos rfl]
  cases hg with
  | hit hc => exact ⟨hstep, hended, hc, fun h => (nomatch h)⟩
  | @settle found =>
    refine ⟨hstep, hended, (Cache.find?_settle _ _ _ _).trans (if_pos rfl), fun h => ?_⟩
    rw [Cache.settle_snd] at h
    cases hc : s.cache.find? c with
    | some is => simp [hc] at h
    | none =>
      obtain rfl : found = [] := by simpa [hc] using h
      exact ⟨hi, rfl⟩

/-- A lookup that is over after a step was over before, or it ends with the step. -/
theorem ended_cases {i : Nat} {result : Option (List Instance)} (hstep : s.step e = some t)
    (hi : t.lookups[i]? = some (c, .ended result)) :
    s.lookups[i]? = some (c, .ended result) ∨ e = .goOn i ∧ s.Ends i c result t := by
  cases Step.of_step hstep with
  | lookUp b =>
    simp only [List.getElem?_append, List.getElem?_singleton] at hi
    split_ifs at hi with hlt h0
    · exact Or.inl hi
    · cases hi
  | @goOn k b stage next t hk hg =>
    rw [lookups_setLookup (hg.lookups_eq ▸ hk)] at hi
    split_ifs at hi with hki
    · cases hi
      subst hki
      exact Or.inr ⟨rfl, hg.ends hk hstep⟩
    · rw [hg.lookups_eq] at hi
      exact Or.inl hi
  | @answer k b hk found =>
    rw [lookups_setLookup hk] at hi
    split_ifs at hi with hki
    · cases hi
    · exact Or.inl hi
  | push => exact Or.inl hi

/-- Every lookup that is over has ended at some moment. -/
theorem exists_ends {es : List Event} (h : start.run es = some t) {i : Nat}
    {result : Option (List Instance)} (hi : t.lookups[i]? = some (c, .ended result)) :
    ∃ k u v, start.run (es.take k) = some u ∧ es[k]? = some (.goOn i) ∧ u.Ends i c result v := by
  refine run_keeps (P := fun past t => t.lookups[i]? = some (c, .ended result) → ∃ k u v,
    start.run (past.take k) = some u ∧ past[k]? = some (.goOn i) ∧ u.Ends i c result v)
    (fun {past s t e} hs ih hstep hi => ?_) (fun hi => by cases hi) h hi
  rcases ended_cases hstep hi with hi | ⟨rfl, hends⟩
  · obtain ⟨k, u, v, hu, hk, hends⟩ := ih hi
    have hlt := (List.getElem?_eq_some_iff.mp hk).1
    refine ⟨k, u, v, ?_, ?_, hends⟩
    · rw [List.take_append_of_le_length (Nat.le_of_lt hlt), hu]
    · rw [List.getElem?_append_left hlt, hk]
  · exact ⟨past.length, s, t, by rw [List.take_left, hs], List.getElem?_concat_length, hends⟩

/-- Whatever the register does, and however lookups come between each other, a directory has for a
cluster the list that was pushed last, even an empty one; if none was pushed the first list that a
lookup has found and that is not empty; or else nothing.  A lookup that is over has ended with what
was in the cache then, and without a list only if none were found for it and there was nothing in
the cache.  An empty list that is found changes nothing. -/
theorem pushed_comes_first {es : List Event} (h : start.run es = some t) :
    (∀ c, t.cache.find? c = due c (start.news es))
    ∧ (∀ i c result, t.lookups[i]? = some (c, .ended result) → ∃ k u v,
      start.run (es.take k) = some u ∧ es[k]? = some (.goOn i) ∧ u.step (.goOn i) = some v
      ∧ v.lookups[i]? = some (c, .ended result) ∧ v.cache.find? c = result
      ∧ ∀ error, endpointsOf c result = .error error → error = .topologyNotFound c
        ∧ u.lookups[i]? = some (c, .answered []) ∧ v.cache.find? c = none)
    ∧ ∀ i c, t.lookups[i]? = some (c, .answered []) →
      ∃ v, t.step (.goOn i) = some v ∧ v.cache = t.cache := by
  refine ⟨find?_cache h, fun i c result hi => ?_, fun i c hi => ?_⟩
  · obtain ⟨k, u, v, hu, hk, hends⟩ := exists_ends h hi
    refine ⟨k, u, v, hu, hk, hends.step, hends.ended, hends.cached, fun error herror => ?_⟩
    cases result with
    | some is => cases herror
    | none => exact ⟨(Except.error.inj herror).symm, (hends.unknown rfl).1, hends.cached⟩
  · refine ⟨t.setLookup i c (.ended (t.cache.find? c)), ?_, rfl⟩
    simp only [step, hi]
    rfl

/-- Two lookups of a cluster at once: an empty list is pushed by the watcher of the second before
the register answers it with another one.  A lookup of another cluster finds nothing. -/
def crossed : List Event :=
  [.lookUp "c", .lookUp "c", .lookUp "x", .goOn 0, .goOn 1, .goOn 2, .goOn 0, .goOn 1, .goOn 2,
    .answer 0 [], .push 1 [], .answer 1 [⟨"a", 1, "c"⟩], .goOn 1, .goOn 0, .answer 2 [], .goOn 2]

theorem pushed_comes_first_crossed : ∃ t, start.run crossed = some t
    ∧ t.lookups = [("c", .ended (some [])), ("c", .ended (some [])), ("x", .ended none)]
    ∧ t.cache.find? "c" = some [] ∧ t.cache.find? "x" = none
    ∧ ∃ k u, start.run (crossed.take k) = some u ∧ u.lookups[2]? = some ("x", .answered []) := by
  obtain ⟨t, ht, hlookups⟩ : ∃ t, start.run crossed = some t ∧ t.lookups
      = [("c", .ended (some [])), ("c", .ended (some [])), ("x", .ended none)] := ⟨_, rfl, rfl⟩
  obtain ⟨hcache, hended, -⟩ := pushed_comes_first ht
  obtain ⟨k, u, v, hu, -, -, -, -, hunknown⟩ := hended 2 "x" none (by rw [hlookups]; rfl)
  obtain ⟨-, hanswered, -⟩ := hunknown _ rfl
  exact ⟨t, ht, hlookups, (hcache "c").trans rfl, (hcache "x").trans rfl, k, u, hu, hanswered⟩

end Switchyard.Follower
