import Switchyard.Url.Scheme

/-!
# Endpoints

An endpoint is a server that may answer a request: the base of its URLs, its weight and what is
known of its health.  An endpoint is usable unless it is known to be unhealthy.
-/

namespace Switchyard

/-- What is known of the health of a server. -/
inductive Health
  | unknown
  | healthy
  | unhealthy
deriving DecidableEq, Repr, Inhabited

def Health.name : Health → String
  | .unknown => "unknown"
  | .healthy => "healthy"
  | .unhealthy => "unhealthy"

structure Endpoint where
  url : String
  weight : UInt32 := 1
  health : Health := .unknown
deriving DecidableEq, Repr, Inhabited

/-- Whether requests may go there: healthy or not known to be otherwise. -/
def Endpoint.isUsable (e : Endpoint) : Bool := e.health != .unhealthy

/-- The endpoint at an address, which is a server of the web unless it names its scheme. -/
def Endpoint.ofAddress (address : String) : Endpoint := { url := Url.withScheme "http" address }

end Switchyard
