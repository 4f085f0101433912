import Switchyard.Endpoint

/-!
# Instances

An instance is one server of a logical cluster, as a registry reports it: the host, the number it
listens at, and the context id of the cluster.
-/

namespace Switchyard

structure Instance where
  host : String
  portNumber : UInt16
  contextId : String
deriving DecidableEq, Repr, Inhabited

/-- The host and the number that the instance listens at. -/
def Instance.address (i : Instance) : String := i.host ++ ":" ++ toString i.portNumber.toNat

def Instance.endpoint (i : Instance) : Endpoint := .ofAddress i.address

end Switchyard
