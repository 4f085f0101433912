import Switchyard.Http.Message
import Switchyard.Text.Blank

/-!
# Crossing the gateway

What the gateway makes of an inbound request and of the response that comes back.  Headers that
concern one connection alone are left out in both directions; the cluster of a request is read
from a header of its own, or is the configured one.
-/

namespace Switchyard.Gateway

open Http

/-- The header that names the cluster. -/
def contextHeader : String := "x-context-id"

/-- The header that names the request. -/
def requestIdHeader : String := "x-request-id"

/-- The headers that do not cross the gateway. -/
def connectionHeaders : List String :=
  ["connection", "te", "trailer", "transfer-encoding", "upgrade", "proxy-authorization",
    "keep-alive", "proxy-connection"]

def stripConnection (hs : Headers) : Headers := Headers.without connectionHeaders hs

/-- The id of a request, for the log. -/
def requestId (hs : Headers) : String :=
  ((Headers.first? requestIdHeader hs).bind textOf?).getD "unknown"

/-- The cluster of a request: named by its header, or else the default. -/
def contextId (hs : Headers) (default : Option String) : Option String :=
  match (Headers.first? contextHeader hs).bind textOf? with
  | none => default
  | some named => if trim named = "" then default else some (trim named)

/-- The request that is dispatched for an inbound one. -/
def toRequest (method : String) (target : Option String) (hs : Headers) (body : Body)
    (contextId : String) : Request where
  method := method
  url := target.getD "/"
  contextId := contextId
  headers := Headers.without ["host", contextHeader] (stripConnection hs)
  body := body

/-- The answer that is made of a response. -/
def toResponse (r : Response) : Response := { r with headers := stripConnection r.headers }

end Switchyard.Gateway
