import Switchyard.Config.Settings

/-!
# Validation

Settings of the right types may still make no sense together.  `faults` gives everything that is
wrong with them, in the order of the sections.
-/

namespace Switchyard.Config

/-- What is wrong with settings. -/
inductive Fault
  | noServers
  | blankHost (index : Nat)
  | noAttempts
  | periodAboveMax (period maxPeriod : UInt64)
  | noWorkers
  | noQueueCapacity
  | noRequestTimeout
deriving DecidableEq, Repr

def Fault.message : Fault → String
  | .noServers => "serverLists configuration required if registerType equals local"
  | .blankHost index => "register instance " ++ toString index ++ " has an empty host"
  | .noAttempts => "retry.maxAttempts must be at least 1"
  | .periodAboveMax period maxPeriod =>
    "retry.period (" ++ toString period.toNat ++ "ms) exceeds retry.maxPeriod ("
      ++ toString maxPeriod.toNat ++ "ms)"
  | .noWorkers => "gateway.workers must be at least 1"
  | .noQueueCapacity => "gateway.queue_capacity must be at least 1"
  | .noRequestTimeout => "transport.request_timeout_ms must be greater than 0"

/-- Whether a list of servers holds blanks alone between its commas. -/
def isBlankServerList (servers : String) : Bool :=
  (fields ',' servers.toList).all (·.all isBlank)

/-- The instances with a blank host, by their place in the list. -/
def blankHosts (instances : List Instance) : List Fault :=
  (instances.zipIdx.filter fun (i, _) => isBlankText i.host).map fun (_, index) => .blankHost index

def registerFaults (r : RegisterSettings) : List Fault :=
  (if r.kind = localKind ∧ isBlankServerList r.servers then [.noServers] else [])
    ++ if r.kind = memoryKind then blankHosts r.instances else []

def retryFaults (r : RetrySettings) : List Fault :=
  (if r.maxAttempts = 0 then [.noAttempts] else [])
    ++ if r.maxPeriod < r.period then [.periodAboveMax r.period r.maxPeriod] else []

def gatewayFaults (g : GatewaySettings) : List Fault :=
  (if g.workers = 0 then [.noWorkers] else [])
    ++ if g.queueCapacity = 0 then [.noQueueCapacity] else []

/-- Everything that is wrong with settings. -/
def faults (s : Settings) : List Fault :=
  registerFaults s.register ++ retryFaults s.register.retry ++ gatewayFaults s.gateway
    ++ if s.transport.requestTimeout = 0 then [.noRequestTimeout] else []

end Switchyard.Config
