import Switchyard.Config.Settings
import Switchyard.Dispatch.Error
import Switchyard.Metrics
import Switchyard.Text.Quoted
import Switchyard.Topology.Cache
import Switchyard.Topology.Registry

/-!
# The directory

A directory resolves a cluster to its endpoints.  It reads a fixed list of servers, or it asks a
register once for each cluster and follows what the register pushes from then on.
-/

namespace Switchyard

open Dispatch (Error)

/-- Where a directory learns about clusters. -/
inductive Register
  /-- The register in memory, whose watchers are those of the directory. -/
  | memory (r : Registry Unit)
  /-- A register that pushes a list before it answers with another one, for every cluster. -/
  | overtaken (pushed initial : List Instance)
deriving Repr, Inhabited

/-- A lookup: the register that has a watcher more, the lists that it pushes before it answers, and
the answer. -/
def Register.ask (s : Register) (contextId : String) :
    Register × List (List Instance) × List Instance :=
  match s with
  | .memory r =>
    let (r, found) := r.lookUp contextId ()
    (.memory r, [], found)
  | .overtaken pushed initial => (s, [pushed], initial)

/-- Why a directory cannot resolve any cluster. -/
inductive DirectoryFault
  | noKind
  | noServers
  | noRegister (kind : String)
deriving DecidableEq, Repr

def DirectoryFault.message : DirectoryFault → String
  | .noKind => "configure registerType is required."
  | .noServers =>
    "illegal param, serverLists configuration required if registerType equals local."
  | .noRegister kind => "registerType `" ++ kind ++ "` requires an instance registry"

/-- What a lookup answers with: the endpoints of a cluster in the order of its instances; without
instances to go by the cluster is not known. -/
def endpointsOf (contextId : String) : Option (List Instance) → Except Error (List Endpoint)
  | some instances => .ok (instances.map Instance.endpoint)
  | none => .error (.topologyNotFound contextId)

structure Directory where
  /-- The kind of register, without blanks around it. -/
  kind : String
  /-- The addresses of the fixed list, between commas. -/
  servers : String
  register : Option Register
  cache : Cache
deriving Repr, Inhabited

/-- A list that was pushed: the cluster and the number of its instances. -/
abbrev Update := String × Nat

namespace Directory

def make (s : Config.RegisterSettings) (register : Option Register) : Directory :=
  { kind := trim s.kind, servers := s.servers, register, cache := .empty }

/-- The endpoints of a fixed list.  Blanks around an address do not count, and neither does a blank
address. -/
def fixedEndpoints (servers : String) : List Endpoint :=
  (((fields ',' servers.toList).map (trimBoth isBlank)).filter (!·.isEmpty)).map fun address =>
    .ofAddress (.ofList address)

/-- Takes in a list that was pushed. -/
def push (d : Directory) (contextId : String) (instances : List Instance) : Directory :=
  { d with cache := d.cache.push contextId instances }

/-- Whether the instances of a cluster have been stored. -/
def isCached (d : Directory) (contextId : String) : Bool := d.cache.has contextId

/-- The first lookup of a cluster. -/
def lookUp (d : Directory) (contextId : String) :
    Directory × List Update × Except Error (List Endpoint) :=
  match d.register with
  | none => (d, [], .error (.configuration (DirectoryFault.noRegister d.kind).message))
  | some register =>
    let (register, pushed, found) := register.ask contextId
    let cache := pushed.foldl (fun k is => k.push contextId is) d.cache
    let (cache, settled) := cache.settle contextId found
    ({ d with register := some register, cache },
      pushed.map fun is => (contextId, is.length), endpointsOf contextId settled)

/-- The endpoints of a cluster, with what was pushed on the way. -/
def resolve (d : Directory) (contextId : String) :
    Directory × List Update × Except Error (List Endpoint) :=
  if d.kind = "" then (d, [], .error (.configuration DirectoryFault.noKind.message))
  else if d.kind = Config.localKind then
    match fixedEndpoints d.servers with
    | [] => (d, [], .error (.configuration DirectoryFault.noServers.message))
    | endpoints => (d, [], .ok endpoints)
  else
    match d.cache.find? contextId with
    | some instances => (d, [], endpointsOf contextId (some instances))
    | none => d.lookUp contextId

/-- Publishes a list in the register in memory, which pushes it to each watcher; nothing without
such a register. -/
def publish (d : Directory) (contextId : String) (instances : List Instance) :
    Directory × List Update :=
  match d.register with
  | some (.memory r) =>
    let (r, watchers) := r.publish (fun _ => false) contextId instances
    let d := { d with register := some (.memory r) }
    (watchers.foldl (fun d _ => d.push contextId instances) d,
      watchers.map fun _ => (contextId, instances.length))
  | _ => (d, [])

/-- How many watchers a cluster has in the register in memory. -/
def watcherCount (d : Directory) (contextId : String) : Nat :=
  match d.register with
  | some (.memory r) => r.watcherCount contextId
  | _ => 0

/-- The first half of a publication: the register in memory has the list. -/
def store (d : Directory) (contextId : String) (instances : List Instance) : Directory :=
  match d.register with
  | some (.memory r) => { d with register := some (.memory (r.store contextId instances)) }
  | _ => d

/-- The other half: so many watchers are called. -/
def spread (d : Directory) (contextId : String) (instances : List Instance) (watchers : Nat) :
    Directory × List Update :=
  ((List.replicate watchers ()).foldl (fun d _ => d.push contextId instances) d,
    List.replicate watchers (contextId, instances.length))

/-- A publication stores its list and calls the watchers that there are. -/
theorem publish_eq_spread (d : Directory) (contextId : String) (instances : List Instance) :
    d.publish contextId instances
      = (d.store contextId instances).spread contextId instances (d.watcherCount contextId) := by
  unfold publish store spread watcherCount
  split
  · rename_i r _
    have hws : r.watchersOf contextId = List.replicate (r.watcherCount contextId) () :=
      List.eq_replicate_iff.mpr ⟨rfl, fun _ _ => rfl⟩
    simp only [Registry.publish, Registry.called_of_never_failing]
    rw [hws, List.map_replicate]
  · rfl

/-- What a directory is, for a reader. -/
def describe (d : Directory) : String :=
  "InstanceDirectory \x7b register_type: " ++ quote d.kind ++ ", server_lists: " ++ quote d.servers
    ++ ", has_registry: " ++ (if d.register.isSome then "true" else "false") ++ " \x7d"

end Directory

/-- Counts the lists that were pushed. -/
def Metrics.updates (m : Metrics) (us : List Update) : Metrics :=
  us.foldl (fun m (contextId, n) => m.update contextId n) m

end Switchyard
