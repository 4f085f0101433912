import Switchyard.Balance.Table
import Switchyard.Dispatch.Attempt
import Switchyard.Topology.Directory
import Switchyard.Url.Retarget

/-!
# The dispatcher

A dispatcher aims requests at servers: it resolves the cluster of a request, selects one of its
endpoints and puts the base of that endpoint in place of the server in the URL.
-/

namespace Switchyard.Dispatch

open Http (Request Response)

structure Dispatcher where
  directory : Directory
  balancers : Balance.Table
  /-- The name of the balancer that selects. -/
  strategy : String
  policy : Retry.Policy
  metrics : Metrics

namespace Dispatcher

/-- The register that a dispatcher has when none is given: one in memory with the configured
instances, if that is the kind that is configured. -/
def ownRegister (s : Config.RegisterSettings) : Option Register :=
  if s.kind = Config.memoryKind then some (.memory (.ofInstances s.instances)) else none

/-- The dispatcher of settings, with further balancers by name. -/
def make (s : Config.Settings) (register : Option Register)
    (balancers : List (String × Balance.Balancer)) : Dispatcher where
  directory := .make s.register (register.orElse fun _ => ownRegister s.register)
  balancers := balancers.foldl (fun t (name, b) => t.register name b) .standard
  strategy := s.balance.strategy
  policy := .ofSettings s.register.retry
  metrics := .empty

/-- The endpoints of a cluster. -/
def resolve (d : Dispatcher) (contextId : String) : Dispatcher × Except Error (List Endpoint) :=
  let (directory, updates, endpoints) := d.directory.resolve contextId
  ({ d with directory, metrics := d.metrics.updates updates }, endpoints)

/-- Publishes instances in the register in memory. -/
def publish (d : Dispatcher) (contextId : String) (instances : List Instance) : Dispatcher :=
  let (directory, updates) := d.directory.publish contextId instances
  { d with directory, metrics := d.metrics.updates updates }

/-- Gives the register in memory a list, and leaves the watchers for later. -/
def store (d : Dispatcher) (contextId : String) (instances : List Instance) : Dispatcher :=
  { d with directory := d.directory.store contextId instances }

/-- Calls so many watchers with a list. -/
def spread (d : Dispatcher) (contextId : String) (instances : List Instance) (watchers : Nat) :
    Dispatcher :=
  let (directory, updates) := d.directory.spread contextId instances watchers
  { d with directory, metrics := d.metrics.updates updates }

theorem publish_eq_spread (d : Dispatcher) (contextId : String) (instances : List Instance) :
    d.publish contextId instances
      = (d.store contextId instances).spread contextId instances
          (d.directory.watcherCount contextId) := by
  simp only [publish, spread, Directory.publish_eq_spread]
  rfl

/-- The request aimed at the base of an endpoint. -/
def aim (r : Request) (e : Endpoint) : Except Error Request :=
  match Url.retarget e.url r.url with
  | .ok url => .ok (r.withUrl url)
  | .error fault => .error (.invalidUrl r.url fault.message)

/-- Aims a request at one server of its cluster. -/
def prepare (d : Dispatcher) (r : Request) : Dispatcher × Except Error Request :=
  match d.resolve r.contextId with
  | (d, .error e) => (d, .error e)
  | (d, .ok endpoints) =>
    match d.balancers.select d.strategy endpoints r.contextId with
    | (balancers, .error e) => ({ d with balancers }, .error e)
    | (balancers, .ok endpoint) => ({ d with balancers }, aim r endpoint)

/-- Counts another attempt for a request. -/
def countRetry (d : Dispatcher) (r : Request) : Dispatcher :=
  { d with metrics := d.metrics.retry r.method }

/-- Counts the result of a request. -/
def countResult (d : Dispatcher) (r : Request) (result : Except Error Response) : Dispatcher :=
  { d with metrics := d.metrics.request r.method (outcomeOf result) }

end Dispatcher

end Switchyard.Dispatch
