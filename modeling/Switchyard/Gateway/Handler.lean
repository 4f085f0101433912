import Switchyard.Gateway.Inbound
import Switchyard.Gateway.Status
import Switchyard.Metrics
import Switchyard.Queue.Submission
import Switchyard.Text.JsonText

/-!
# Handling an inbound request

The gateway names the cluster of a request, takes its body up to a limit, hands it to the queue and
waits for the answer.  A request that stops on the way is answered with a status and a reason
(`Course.response`).  Around this there are layers: a request without an id is given one, an answer
without an id gets that of its request, and a request that takes too long is answered with a bare
status (`respond`).
-/

namespace Switchyard.Gateway

open Http (Body Headers Request Response)
open Queue (Answer DispatchPool Refusal Result Submission)

/-- A request as it comes in. -/
structure Inbound where
  method : String
  /-- The path and the query, unless the request is for an authority. -/
  target : Option String
  headers : Headers
  body : Body
deriving Repr

/-- What a gateway is told about requests. -/
structure Front where
  /-- The cluster of requests that name none. -/
  defaultContextId : Option String
  maxBody : Nat
deriving Repr

/-- Whether a request is handed to the queue. -/
inductive Admission
  | noCluster
  | tooLarge
  | admitted (s : Submission)
deriving Repr

/-- A request needs a cluster first and a body within the limit then. -/
def Front.admit (g : Front) (i : Inbound) : Admission :=
  match contextId i.headers g.defaultContextId with
  | none => .noCluster
  | some c =>
    if g.maxBody < i.body.length then .tooLarge
    else .admitted ⟨requestId i.headers, toRequest i.method i.target i.headers i.body c⟩

/-- How the handling of a request goes. -/
inductive Course
  | noCluster
  | tooLarge
  | refused (r : Refusal)
  | answered (a : Answer Result)
deriving Repr

/-- Hands a request to the queue, if it is admitted.  Without a course the answer is to come from
the queue.  Requests refused by a full queue are counted. -/
def Front.enqueue (g : Front) (i : Inbound) (p : DispatchPool) (m : Metrics) :
    DispatchPool × Metrics × Option Course :=
  match g.admit i with
  | .noCluster => (p, m, some .noCluster)
  | .tooLarge => (p, m, some .tooLarge)
  | .admitted s =>
    match p.submit s with
    | .ok p => (p, m, none)
    | .error .full => (p, m.rejection, some (.refused .full))
    | .error .closed => (p, m, some (.refused .closed))

/-- An answer that gives a reason. -/
def problem (status : Nat) (reason : String) : Response where
  status := status
  headers := [Headers.entry "content-type" (Http.bytesOf "application/json")]
  body := Http.bytesOf ("\x7b\"error\":" ++ jsonText reason ++ "\x7d")

/-- The answer to a request. -/
def Course.response : Course → Response
  | .noCluster => problem 400 "missing x-context-id header"
  | .tooLarge => problem 413 "request body too large"
  | .refused r => problem 503 r.message
  | .answered (.result (.ok r)) => toResponse r
  | .answered (.result (.error e)) => problem (statusOf e) e.message
  | .answered .dropped => problem 500 "dispatch worker stopped"

/-- The id of a request, which is `fresh` if it comes without one. -/
def idOf (fresh : List UInt8) (i : Inbound) : List UInt8 :=
  (Headers.first? requestIdHeader i.headers).getD fresh

/-- The request with an id. -/
def withId (fresh : List UInt8) (i : Inbound) : Inbound :=
  match Headers.first? requestIdHeader i.headers with
  | some _ => i
  | none => { i with headers := i.headers ++ [⟨requestIdHeader, fresh⟩] }

/-- Gives an answer the id of its request, unless it has one. -/
def propagate (id : List UInt8) (r : Response) : Response :=
  match Headers.first? requestIdHeader r.headers with
  | some _ => r
  | none => { r with headers := r.headers ++ [⟨requestIdHeader, id⟩] }

/-- What the client gets; no course means that the time is up before there is one. -/
def respond (fresh : List UInt8) (i : Inbound) : Option Course → Response
  | none => .make 408
  | some course => propagate (idOf fresh i) course.response

end Switchyard.Gateway
