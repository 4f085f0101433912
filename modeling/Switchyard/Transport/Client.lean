import Switchyard.Config.Settings
import Switchyard.Dispatch.Failure
import Switchyard.Http.Message
import Switchyard.Http.Uri

/-!
# The client

The client sends a request over a network and turns whatever does not end in a whole response into
a failure.  What the network makes of a request is given (`Delivery`), so that a network without
any server is one of the networks.
-/

namespace Switchyard.Transport

open Dispatch (Failure)
open Http (Request Response Uri)

/-- What a network makes of a request that is sent to a server. -/
inductive Delivery
  /-- There is no connection to the server. -/
  | unconnected
  /-- The connection ends without a response that can be read. -/
  | unanswered
  /-- A response comes, whose body ends before it is complete. -/
  | cutShort
  | answered (r : Response)
  /-- No whole response comes in time. -/
  | late
deriving DecidableEq, Repr

abbrev Network := Request → Delivery

/-- The network on which nothing can be reached. -/
def isolated : Network := fun _ => .unconnected

/-- Whether a request says which server it is for. -/
def namesServer (method : String) (u : Uri) : Bool :=
  !u.authority.isEmpty && (u.scheme.isSome || method == "CONNECT")

/-- Sends a request over a network. -/
def send (network : Network) (settings : Config.TransportSettings) (r : Request) :
    Except Failure Response :=
  match Uri.parse r.url with
  | .error fault => .error ⟨.invalidInput, fault.message⟩
  | .ok u =>
    if !namesServer r.method u then .error ⟨.other, "client error (UserAbsoluteUriRequired)"⟩
    else match network r with
      | .unconnected => .error ⟨.other, "client error (Connect)"⟩
      | .unanswered => .error ⟨.other, "client error (SendRequest)"⟩
      | .cutShort => .error ⟨.other, "error reading a body from connection"⟩
      | .late =>
        .error ⟨.timedOut,
          "request timed out after " ++ toString settings.requestTimeout.toNat ++ "ms"⟩
      | .answered response =>
        if settings.maxBody.toNat < response.body.length then .error ⟨.other, "length limit exceeded"⟩
        else .ok response

end Switchyard.Transport
