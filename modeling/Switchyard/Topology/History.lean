import Switchyard.Topology.Directory

/-!
# A directory in use

What is done with a directory, one thing after the other (`Directory.after`).  The `Standing` of a
cluster is all that bears on it: what the register in memory holds, how many watchers it has there,
and what is cached.
-/

namespace Switchyard.Directory

open Dispatch (Error)

inductive Act
  | resolve (contextId : String)
  | publish (contextId : String) (instances : List Instance)
deriving DecidableEq, Repr

/-- The cluster that it is about. -/
def Act.contextId : Act → String
  | .resolve c | .publish c _ => c

def act (d : Directory) : Act → Directory
  | .resolve c => (d.resolve c).1
  | .publish c is => (d.publish c is).1

def after (d : Directory) (acts : List Act) : Directory := acts.foldl act d

/-- What resolving a cluster answers. -/
def answer (d : Directory) (contextId : String) : Except Error (List Endpoint) :=
  (d.resolve contextId).2.2

/-- The instances that the register in memory holds for a cluster. -/
def held (d : Directory) (contextId : String) : List Instance :=
  match d.register with
  | some (.memory r) => r.instancesOf contextId
  | _ => []

structure Standing where
  held : List Instance
  watchers : Nat
  cached : Option (List Instance)
deriving DecidableEq, Repr

def standing (d : Directory) (contextId : String) : Standing :=
  ⟨d.held contextId, d.watcherCount contextId, d.cache.find? contextId⟩

/-- The list that was published last for a cluster, or else the given one. -/
def latest (contextId : String) (seeded : List Instance) (acts : List Act) : List Instance :=
  (acts.filterMap fun
    | .publish c is => if c = contextId then some is else none
    | .resolve _ => none).getLastD seeded

theorem after_concat (d : Directory) (acts : List Act) (a : Act) :
    d.after (acts ++ [a]) = (d.after acts).act a := by
  simp [after]

theorem latest_concat (contextId : String) (seeded : List Instance) (acts : List Act) (a : Act) :
    latest contextId seeded (acts ++ [a]) = match a with
      | .publish c is => if c = contextId then is else latest contextId seeded acts
      | .resolve _ => latest contextId seeded acts := by
  cases a with
  | resolve c => simp [latest]
  | publish c is => by_cases h : c = contextId <;> simp [latest, h]

end Switchyard.Directory
