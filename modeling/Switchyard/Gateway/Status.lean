import Switchyard.Dispatch.Error

/-!
# Statuses of failed dispatches
-/

namespace Switchyard.Gateway

/-- The status that a failed dispatch is answered with. -/
def statusOf (e : Dispatch.Error) : Nat :=
  if e.isTopology then 503
  else match e with
    | .invalidUrl _ _ => 400
    | .io _ _ _ => 502
    | _ => 500

end Switchyard.Gateway
