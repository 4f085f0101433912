import Switchyard.Store
import Switchyard.Topology.Instance

/-!
# The register in memory

A register holds the instances of each cluster and the watchers that are told of changes.  A
lookup subscribes its watcher first and takes the list then; a publication stores the list first
and calls the watchers then, in the order of their subscriptions.  A watcher that fails ends the
calls, though not the publication.
-/

namespace Switchyard

/-- The instances and the watchers of each cluster. -/
structure Registry (ω : Type) where
  lists : Store String (List Instance)
  watchers : Store String (List ω)
deriving Repr, Inhabited

namespace Registry

variable {ω : Type}

def empty : Registry ω := ⟨.empty, .empty⟩

/-- The instances of a cluster; none are known of a cluster that was never published. -/
def instancesOf (r : Registry ω) (contextId : String) : List Instance :=
  (r.lists.find? contextId).getD []

def watchersOf (r : Registry ω) (contextId : String) : List ω :=
  (r.watchers.find? contextId).getD []

def watcherCount (r : Registry ω) (contextId : String) : Nat := (r.watchersOf contextId).length

/-- Replaces the instances of a cluster. -/
def store (r : Registry ω) (contextId : String) (instances : List Instance) : Registry ω :=
  { r with lists := r.lists.set contextId instances }

/-- Adds a watcher of a cluster. -/
def subscribe (r : Registry ω) (contextId : String) (w : ω) : Registry ω :=
  { r with watchers := r.watchers.set contextId (r.watchersOf contextId ++ [w]) }

theorem instancesOf_store (r : Registry ω) (c d : String) (is : List Instance) :
    (r.store c is).instancesOf d = if d = c then is else r.instancesOf d := by
  simp only [instancesOf, store, Store.find?_set]
  split <;> rfl

theorem watchersOf_subscribe (r : Registry ω) (c d : String) (w : ω) :
    (r.subscribe c w).watchersOf d
      = if d = c then r.watchersOf d ++ [w] else r.watchersOf d := by
  simp only [watchersOf, subscribe, Store.find?_set]
  split
  · next h => simp [h]
  · rfl

@[simp] theorem watchersOf_store (r : Registry ω) (c d : String) (is : List Instance) :
    (r.store c is).watchersOf d = r.watchersOf d := rfl

@[simp] theorem instancesOf_subscribe (r : Registry ω) (c d : String) (w : ω) :
    (r.subscribe c w).instancesOf d = r.instancesOf d := rfl

/-- The instances by their clusters, each in the order in which they come. -/
def group (instances : List Instance) : Store String (List Instance) :=
  instances.foldl (fun s i => s.set i.contextId ((s.find? i.contextId).getD [] ++ [i])) .empty

/-- The register that holds the given lists. -/
def seed (lists : List (String × List Instance)) : Registry ω :=
  lists.foldl (fun r (c, is) => r.store c is) empty

/-- The register that starts with some instances. -/
def ofInstances (instances : List Instance) : Registry ω := seed (group instances).entries

/-- A lookup: the register with the watcher, and the instances at hand. -/
def lookUp (r : Registry ω) (contextId : String) (w : ω) : Registry ω × List Instance :=
  (r.subscribe contextId w, r.instancesOf contextId)

/-- The watchers that are called, up to the first that fails. -/
def called (fails : ω → Bool) : List ω → List ω
  | [] => []
  | w :: ws => if fails w then [w] else w :: called fails ws

theorem called_of_never_failing : ∀ ws : List ω, called (fun _ => false) ws = ws
  | [] => rfl
  | w :: ws => by rw [called, called_of_never_failing ws]; rfl

/-- A publication: the register with the list, and the watchers that are called with it. -/
def publish (r : Registry ω) (fails : ω → Bool) (contextId : String) (instances : List Instance) :
    Registry ω × List ω :=
  (r.store contextId instances, called fails (r.watchersOf contextId))

end Registry

end Switchyard
