import Switchyard.Metrics
import Switchyard.Topology.Cache
import Switchyard.Topology.Registry

/-!
# Lookups and publications side by side

Several directories may follow one register, each with a cache of its own, while lookups and
publications are under way.  Each of these is a task that goes on step by step, and between two of
its steps others take theirs; `step` says what each step does.

A task that nothing comes between does what the register and the cache do in one piece: a lookup
that finds its cluster in the cache answers with it (`run_lookUp_of_cached`), any other lookup is
`Registry.lookUp` and `Cache.settle` (`run_lookUp_of_not_cached`), and a publication is
`Registry.publish` and a `Cache.push` for each watcher (`run_publish`).
-/

namespace Switchyard

/-- How far a lookup is. -/
inductive LookupStage
  | begun
  /-- The cluster was not in the cache. -/
  | missed
  /-- A watcher is subscribed. -/
  | subscribed
  /-- The register has answered. -/
  | answered (found : List Instance)
  /-- It is over; without a result the cluster is not known. -/
  | ended (result : Option (List Instance))
deriving DecidableEq, Repr

/-- How far a publication is. -/
inductive PublicationStage
  | begun
  /-- The register has the list. -/
  | stored
  /-- It calls watchers, and is over when none are left. -/
  | calling (directories : List Nat)
deriving DecidableEq, Repr

inductive TopologyTask
  | lookup (directory : Nat) (contextId : String) (stage : LookupStage)
  | publication (contextId : String) (instances : List Instance) (stage : PublicationStage)
deriving DecidableEq, Repr

/-- Directories by number, the register that they follow, and what is under way or over. -/
structure Scene where
  /-- Each watcher is the number of the directory whose cache it writes to. -/
  registry : Registry Nat
  caches : Store Nat Cache
  /-- The tasks in the order in which they were begun. -/
  tasks : List TopologyTask
  metrics : Metrics
deriving Repr

/-- What can happen next. -/
inductive Move
  | lookUp (directory : Nat) (contextId : String)
  | publish (contextId : String) (instances : List Instance)
  /-- A task takes its next step. -/
  | goOn (task : Nat)
deriving DecidableEq, Repr

namespace Scene

/-- Directories that have nothing in their caches. -/
def start (registry : Registry Nat) : Scene := ⟨registry, .empty, [], .empty⟩

def cacheOf (s : Scene) (directory : Nat) : Cache := (s.caches.find? directory).getD .empty

def setCache (s : Scene) (directory : Nat) (k : Cache) : Scene :=
  { s with caches := s.caches.set directory k }

theorem cacheOf_setCache (s : Scene) (i j : Nat) (k : Cache) :
    (s.setCache j k).cacheOf i = if i = j then k else s.cacheOf i := by
  simp only [cacheOf, setCache, Store.find?_set]
  split <;> rfl

def begin (s : Scene) (t : TopologyTask) : Scene := { s with tasks := s.tasks ++ [t] }

def setTask (s : Scene) (i : Nat) (t : TopologyTask) : Scene := { s with tasks := s.tasks.set i t }

/-- A watcher is called: the directory takes in the list. -/
def push (s : Scene) (directory : Nat) (contextId : String) (instances : List Instance) : Scene :=
  { s.setCache directory ((s.cacheOf directory).push contextId instances) with
    metrics := s.metrics.update contextId instances.length }

/-- The next step of a lookup, and how far it is then; nothing if it is over. -/
def advanceLookup (s : Scene) (directory : Nat) (contextId : String) :
    LookupStage → Option (Scene × LookupStage)
  | .begun =>
    match (s.cacheOf directory).find? contextId with
    | some instances => some (s, .ended (some instances))
    | none => some (s, .missed)
  | .missed => some ({ s with registry := s.registry.subscribe contextId directory }, .subscribed)
  | .subscribed => some (s, .answered (s.registry.instancesOf contextId))
  | .answered found =>
    let (cache, result) := (s.cacheOf directory).settle contextId found
    some (s.setCache directory cache, .ended result)
  | .ended _ => none

/-- The next step of a publication, and how far it is then; nothing if it is over. -/
def advancePublication (s : Scene) (contextId : String) (instances : List Instance) :
    PublicationStage → Option (Scene × PublicationStage)
  | .begun => some ({ s with registry := s.registry.store contextId instances }, .stored)
  | .stored => some (s, .calling (s.registry.watchersOf contextId))
  | .calling (directory :: rest) => some (s.push directory contextId instances, .calling rest)
  | .calling [] => none

/-- What a move does; nothing if it cannot happen. -/
def step (s : Scene) : Move → Option Scene
  | .lookUp directory contextId => some (s.begin (.lookup directory contextId .begun))
  | .publish contextId instances => some (s.begin (.publication contextId instances .begun))
  | .goOn i =>
    match s.tasks[i]? with
    | some (.lookup directory contextId stage) =>
      (s.advanceLookup directory contextId stage).map fun (s, stage) =>
        s.setTask i (.lookup directory contextId stage)
    | some (.publication contextId instances stage) =>
      (s.advancePublication contextId instances stage).map fun (s, stage) =>
        s.setTask i (.publication contextId instances stage)
    | none => none

/-- What moves do, one after the other. -/
def run (s : Scene) : List Move → Option Scene
  | [] => some s
  | m :: ms => (s.step m).bind fun s => s.run ms

@[simp] theorem run_nil (s : Scene) : s.run [] = some s := rfl

theorem run_cons {s t : Scene} {m : Move} (h : s.step m = some t) (ms : List Move) :
    s.run (m :: ms) = t.run ms := by
  rw [run, h, Option.bind_some]

theorem tasks_of_advanceLookup {s t : Scene} {directory : Nat} {contextId : String}
    {stage next : LookupStage}
    (h : s.advanceLookup directory contextId stage = some (t, next)) : t.tasks = s.tasks := by
  cases stage with
  | begun =>
    simp only [advanceLookup] at h
    split at h <;> cases h <;> rfl
  | ended _ => simp [advanceLookup] at h
  | _ => cases h; rfl

theorem tasks_of_advancePublication {s t : Scene} {contextId : String}
    {instances : List Instance} {stage next : PublicationStage}
    (h : s.advancePublication contextId instances stage = some (t, next)) :
    t.tasks = s.tasks := by
  cases stage with
  | calling directories =>
    cases directories with
    | nil => simp [advancePublication] at h
    | cons _ _ => cases h; rfl
  | _ => cases h; rfl

theorem step_goOn_lookup {s t : Scene} {directory : Nat} {contextId : String}
    {stage next : LookupStage} (h : s.advanceLookup directory contextId stage = some (t, next))
    {ts : List TopologyTask} (hs : s.tasks = ts ++ [.lookup directory contextId stage]) :
    s.step (.goOn ts.length)
      = some { t with tasks := ts ++ [.lookup directory contextId next] } := by
  have ht := tasks_of_advanceLookup h
  simp [step, hs, h, setTask, ht]

theorem step_goOn_publication {s t : Scene} {contextId : String} {instances : List Instance}
    {stage next : PublicationStage}
    (h : s.advancePublication contextId instances stage = some (t, next))
    {ts : List TopologyTask} (hs : s.tasks = ts ++ [.publication contextId instances stage]) :
    s.step (.goOn ts.length)
      = some { t with tasks := ts ++ [.publication contextId instances next] } := by
  have ht := tasks_of_advancePublication h
  simp [step, hs, h, setTask, ht]

/-- A lookup of a cluster that is in the cache answers with what is there. -/
theorem run_lookUp_of_cached {s : Scene} {directory : Nat} {contextId : String}
    {instances : List Instance} (h : (s.cacheOf directory).find? contextId = some instances) :
    s.run [.lookUp directory contextId, .goOn s.tasks.length]
      = some (s.begin (.lookup directory contextId (.ended (some instances)))) := by
  rw [run_cons rfl, run_cons (step_goOn_lookup (t := s.begin _)
    (by simp only [advanceLookup, cacheOf, begin] at h ⊢; rw [h]) rfl)]
  rfl

/-- A lookup of a cluster that is not in the cache, with nothing in between. -/
theorem run_lookUp_of_not_cached {s : Scene} {directory : Nat} {contextId : String}
    (h : (s.cacheOf directory).find? contextId = none) :
    s.run (.lookUp directory contextId :: List.replicate 4 (.goOn s.tasks.length))
      = some
          { s with
            registry := (s.registry.lookUp contextId directory).1
            caches := s.caches.set directory
              ((s.cacheOf directory).settle contextId (s.registry.lookUp contextId directory).2).1
            tasks := s.tasks ++ [.lookup directory contextId (.ended
              ((s.cacheOf directory).settle contextId
                (s.registry.lookUp contextId directory).2).2)] } := by
  simp only [List.replicate]
  rw [run_cons rfl,
    run_cons (step_goOn_lookup (t := s.begin _)
      (by simp only [advanceLookup, cacheOf, begin] at h ⊢; rw [h]) rfl),
    run_cons (step_goOn_lookup rfl rfl), run_cons (step_goOn_lookup rfl rfl),
    run_cons (step_goOn_lookup rfl rfl)]
  rfl

theorem foldl_push_tasks (contextId : String) (instances : List Instance)
    (ts : List TopologyTask) : ∀ (directories : List Nat) (s : Scene),
      directories.foldl (fun s d => s.push d contextId instances) { s with tasks := ts }
        = { directories.foldl (fun s d => s.push d contextId instances) s with tasks := ts }
  | [], _ => rfl
  | d :: ds, s => foldl_push_tasks contextId instances ts ds (s.push d contextId instances)

/-- The calls of a publication, with nothing in between. -/
theorem run_calling (contextId : String) (instances : List Instance) (ts : List TopologyTask) :
    ∀ (directories : List Nat) (s : Scene),
      s.tasks = ts ++ [.publication contextId instances (.calling directories)] →
      s.run (List.replicate directories.length (.goOn ts.length))
        = some { directories.foldl (fun s d => s.push d contextId instances) s with
            tasks := ts ++ [.publication contextId instances (.calling [])] }
  | [], s, h => by rw [← h]; rfl
  | d :: ds, s, h => by
    rw [List.length_cons, List.replicate_succ, run_cons (step_goOn_publication rfl h),
      run_calling contextId instances ts ds _ rfl, foldl_push_tasks]
    rfl

/-- A publication, with nothing in between. -/
theorem run_publish (s : Scene) (contextId : String) (instances : List Instance) :
    s.run (.publish contextId instances ::
        List.replicate (s.registry.watcherCount contextId + 2) (.goOn s.tasks.length))
      = some { (s.registry.watchersOf contextId).foldl
          (fun s d => s.push d contextId instances)
          { s with registry := s.registry.store contextId instances } with
        tasks := s.tasks ++ [.publication contextId instances (.calling [])] } := by
  let ds := s.registry.watchersOf contextId
  let tasks (ds : List Nat) : List TopologyTask :=
    s.tasks ++ [.publication contextId instances (.calling ds)]
  rw [List.replicate_succ, List.replicate_succ, run_cons rfl,
    run_cons (step_goOn_publication rfl rfl), run_cons (step_goOn_publication rfl rfl)]
  exact (run_calling contextId instances s.tasks ds _ rfl).trans
    (congrArg (fun t : Scene => some { t with tasks := tasks [] })
      (foldl_push_tasks contextId instances (tasks ds) ds
        { s with registry := s.registry.store contextId instances }))

end Scene

end Switchyard
