import Switchyard.Topology.Directory
import Switchyard.Topology.Scene

/-!
# A directory on any register

A directory follows a register of which nothing is known: it may call a watcher that it was given
whenever it likes, and answer a lookup with any list.  Lookups go on step by step, and between two
of these anything else may happen.

With nothing in between, a lookup that finds its cluster in the cache answers with it
(`run_lookUp_of_cached`), and any other lookup is `Directory.lookUp` (`run_lookUp_of_not_cached`).
-/

namespace Switchyard

/-- A directory, the lookups in it that were begun, and the watchers that its register was given. -/
structure Follower where
  cache : Cache
  /-- The cluster of each lookup, and how far it is. -/
  lookups : List (String × LookupStage)
  /-- The cluster of each watcher. -/
  watchers : List String
  metrics : Metrics
deriving Repr

namespace Follower

/-- What can happen next. -/
inductive Event
  | lookUp (contextId : String)
  /-- A lookup takes its next step. -/
  | goOn (lookup : Nat)
  /-- The register answers a lookup. -/
  | answer (lookup : Nat) (found : List Instance)
  /-- The register calls a watcher. -/
  | push (watcher : Nat) (instances : List Instance)
deriving DecidableEq, Repr

/-- A directory in which nothing was looked up yet. -/
def start : Follower := ⟨.empty, [], [], .empty⟩

def setLookup (s : Follower) (i : Nat) (contextId : String) (stage : LookupStage) : Follower :=
  { s with lookups := s.lookups.set i (contextId, stage) }

@[simp] theorem setLookup_cache (s : Follower) (i : Nat) (contextId : String)
    (stage : LookupStage) : (s.setLookup i contextId stage).cache = s.cache := rfl

/-- A watcher is called: the directory takes in the list. -/
def push (s : Follower) (contextId : String) (instances : List Instance) : Follower :=
  { s with
    cache := s.cache.push contextId instances
    metrics := s.metrics.update contextId instances.length }

/-- The next step of a lookup, and how far it is then; nothing if it waits for the register or is
over. -/
def advance (s : Follower) (contextId : String) : LookupStage → Option (Follower × LookupStage)
  | .begun =>
    match s.cache.find? contextId with
    | some instances => some (s, .ended (some instances))
    | none => some (s, .missed)
  | .missed => some ({ s with watchers := s.watchers ++ [contextId] }, .subscribed)
  | .answered found =>
    let (cache, result) := s.cache.settle contextId found
    some ({ s with cache }, .ended result)
  | .subscribed | .ended _ => none

/-- What an event does; nothing if it cannot happen. -/
def step (s : Follower) : Event → Option Follower
  | .lookUp contextId => some { s with lookups := s.lookups ++ [(contextId, .begun)] }
  | .goOn i =>
    match s.lookups[i]? with
    | some (contextId, stage) =>
      (s.advance contextId stage).map fun (s, stage) => s.setLookup i contextId stage
    | none => none
  | .answer i found =>
    match s.lookups[i]? with
    | some (contextId, .subscribed) => some (s.setLookup i contextId (.answered found))
    | _ => none
  | .push w instances => (s.watchers[w]?).map fun contextId => s.push contextId instances

/-- What events do, one after the other. -/
def run (s : Follower) : List Event → Option Follower
  | [] => some s
  | e :: es => (s.step e).bind fun s => s.run es

theorem run_cons {s t : Follower} {e : Event} (h : s.step e = some t) (es : List Event) :
    s.run (e :: es) = t.run es := by
  rw [run, h, Option.bind_some]

theorem run_append (s : Follower) (es es' : List Event) :
    s.run (es ++ es') = (s.run es).bind fun t => t.run es' := by
  induction es generalizing s with
  | nil => rfl
  | cons e es ih =>
    rw [List.cons_append, run, run, Option.bind_assoc]
    exact Option.bind_congr fun t _ => ih t

theorem lookups_of_advance {s t : Follower} {contextId : String} {stage next : LookupStage}
    (h : s.advance contextId stage = some (t, next)) : t.lookups = s.lookups := by
  cases stage with
  | begun =>
    simp only [advance] at h
    split at h <;> cases h <;> rfl
  | subscribed | ended => cases h
  | missed | answered => cases h; rfl

theorem step_goOn {s t : Follower} {contextId : String} {stage next : LookupStage}
    (h : s.advance contextId stage = some (t, next)) {ls : List (String × LookupStage)}
    (hs : s.lookups = ls ++ [(contextId, stage)]) :
    s.step (.goOn ls.length) = some { t with lookups := ls ++ [(contextId, next)] } := by
  have ht := lookups_of_advance h
  simp [step, hs, h, setLookup, ht]

theorem step_answer {s : Follower} {contextId : String} {ls : List (String × LookupStage)}
    (hs : s.lookups = ls ++ [(contextId, .subscribed)]) (found : List Instance) :
    s.step (.answer ls.length found)
      = some { s with lookups := ls ++ [(contextId, .answered found)] } := by
  simp [step, hs, setLookup]

/-- The calls of a watcher, one after the other. -/
theorem run_pushes {w : Nat} {contextId : String} :
    ∀ (lists : List (List Instance)) {s : Follower}, s.watchers[w]? = some contextId →
      s.run (lists.map (.push w)) = some
        { s with
          cache := lists.foldl (fun k is => k.push contextId is) s.cache
          metrics := s.metrics.updates (lists.map fun is => (contextId, is.length)) }
  | [], _, _ => rfl
  | is :: lists, s, hw => by
    have hstep : s.step (.push w is) = some (s.push contextId is) := by simp [step, hw]
    rw [List.map_cons, run_cons hstep, run_pushes lists (by exact hw)]
    rfl

/-- A lookup of a cluster that is in the cache answers with what is there. -/
theorem run_lookUp_of_cached {s : Follower} {contextId : String} {instances : List Instance}
    (h : s.cache.find? contextId = some instances) :
    s.run [.lookUp contextId, .goOn s.lookups.length]
      = some { s with lookups := s.lookups ++ [(contextId, .ended (some instances))] } := by
  rw [run_cons rfl, run_cons (step_goOn (by simp only [advance, h]; rfl) rfl)]
  rfl

/-- A lookup of a cluster that is not in the cache, with what the register does about it. -/
def asking (s : Follower) (contextId : String) (pushed : List (List Instance))
    (found : List Instance) : List Event :=
  .lookUp contextId :: .goOn s.lookups.length :: .goOn s.lookups.length ::
    (pushed.map (.push s.watchers.length)
      ++ [.answer s.lookups.length found, .goOn s.lookups.length])

/-- A lookup of a cluster that is not in the cache, with nothing in between but what the register
does about it. -/
theorem run_lookUp_of_not_cached {s : Follower} {d : Directory} {register : Register}
    {contextId : String} (hr : d.register = some register) (hs : s.cache = d.cache)
    (h : d.cache.find? contextId = none) : ∃ t result,
      s.run (s.asking contextId (register.ask contextId).2.1 (register.ask contextId).2.2) = some t
      ∧ t.lookups = s.lookups ++ [(contextId, .ended result)]
      ∧ t.cache = (d.lookUp contextId).1.cache
      ∧ t.metrics = s.metrics.updates (d.lookUp contextId).2.1
      ∧ endpointsOf contextId result = (d.lookUp contextId).2.2 := by
  obtain ⟨cache, lookups, watchers, metrics⟩ := s
  subst hs
  simp only [asking, Directory.lookUp, hr]
  rw [run_cons rfl, run_cons (step_goOn (by simp only [advance, h]; rfl) rfl),
    run_cons (step_goOn rfl rfl), run_append,
    run_pushes _ (List.getElem?_concat_length : _ = some contextId), Option.bind_some,
    run_cons (step_answer rfl _), run_cons (step_goOn rfl rfl)]
  exact ⟨_, _, rfl, rfl, rfl, rfl, rfl⟩

end Follower

end Switchyard
