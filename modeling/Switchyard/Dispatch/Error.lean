import Switchyard.Dispatch.Failure
import Switchyard.Span

/-!
# Errors of a dispatch

Everything that a dispatch can end with other than a response.
-/

namespace Switchyard.Dispatch

/-- Why a request was not answered. -/
inductive Error
  | configuration (reason : String)
  | topologyNotFound (contextId : String)
  | noAvailableEndpoint (contextId : String)
  | invalidUrl (url reason : String)
  /-- The last of the attempts that the policy allows has failed. -/
  | io (failed : Failed) (attempts : UInt32) (elapsed : Span)
deriving DecidableEq, Repr

namespace Error

def message : Error → String
  | .configuration reason => "configuration error: " ++ reason
  | .topologyNotFound contextId =>
    "gateway address not found from registry for context id `" ++ contextId ++ "`"
  | .noAvailableEndpoint contextId =>
    "no available upstream for context id `" ++ contextId ++ "`"
  | .invalidUrl url reason => "invalid url `" ++ url ++ "`: " ++ reason
  | .io failed attempts elapsed =>
    failed.message ++ " (attempts: " ++ toString attempts.toNat ++ ", elapsed: "
      ++ toString elapsed.millis ++ "ms)"

/-- Whether no server can be named at the moment. -/
def isTopology : Error → Bool
  | .topologyNotFound _ | .noAvailableEndpoint _ => true
  | _ => false

/-- The failure underneath an error. -/
def cause? : Error → Option Failure
  | .io failed _ _ => some failed.cause
  | _ => none

/-- The class of an error, as it is counted. -/
def label : Error → String
  | .topologyNotFound _ | .noAvailableEndpoint _ => "topology"
  | .io _ _ _ => "io_error"
  | .invalidUrl _ _ => "invalid_url"
  | .configuration _ => "configuration"

end Error

end Switchyard.Dispatch
