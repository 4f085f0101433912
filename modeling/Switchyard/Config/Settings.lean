import Switchyard.Topology.Instance

/-!
# Settings

What a configuration says, with the value of each field that it leaves out.  Lengths of time are
in milliseconds unless the field says otherwise.
-/

namespace Switchyard.Config

/-- The kind of register that stands for a fixed list of servers. -/
def localKind : String := "local"

/-- The kind of register that is held in memory and seeded with the configured instances. -/
def memoryKind : String := "memory"

/-- Whether and how a request is sent again. -/
structure RetrySettings where
  enabled : Bool := false
  period : UInt64 := 100
  maxPeriod : UInt64 := 1000
  maxAttempts : UInt32 := 5
  jitter : Bool := false
deriving DecidableEq, Repr, Inhabited

/-- Where the servers of a cluster are found. -/
structure RegisterSettings where
  kind : String := ""
  /-- The addresses of the fixed list, between commas. -/
  servers : String := ""
  retry : RetrySettings := {}
  /-- The instances that a register in memory starts with. -/
  instances : List Instance := []
deriving DecidableEq, Repr, Inhabited

/-- How one server is selected among those of a cluster. -/
structure BalanceSettings where
  strategy : String := "roundRobin"
deriving DecidableEq, Repr, Inhabited

structure TransportSettings where
  requestTimeout : UInt64 := 30000
  maxBody : UInt64 := 2097152
deriving DecidableEq, Repr, Inhabited

structure GatewaySettings where
  bindAddress : String := "0.0.0.0:9195"
  /-- The cluster of requests that name none. -/
  defaultContextId : Option String := none
  queueCapacity : UInt64 := 1024
  workers : UInt64 := 4
  requestTimeoutSeconds : UInt64 := 30
  maxBody : UInt64 := 2097152
deriving DecidableEq, Repr, Inhabited

structure ObservabilitySettings where
  logLevel : String := "info"
  metricsEnabled : Bool := false
  metricsAddress : String := "0.0.0.0:9090"
deriving DecidableEq, Repr, Inhabited

structure Settings where
  register : RegisterSettings := {}
  balance : BalanceSettings := {}
  transport : TransportSettings := {}
  gateway : GatewaySettings := {}
  observability : ObservabilitySettings := {}
deriving DecidableEq, Repr, Inhabited

end Switchyard.Config
