import Switchyard.Dispatch.Execution
import Switchyard.Queue.Submission

/-!
# The pool at work

Workers execute the requests that they take, each for itself, and answer them with the results.
What happens in an execution depends on the register, the transport and the time, all of which may
do as they like, so an event says what it was; `Service.step` lets it happen if the execution is at
that point.  The log tells for every request what its execution has met so far.
-/

namespace Switchyard.Queue

open Dispatch (Execution Happening)

structure Service where
  policy : Retry.Policy
  pool : DispatchPool
  /-- What happened in the executions of requests, by their numbers, the latest last. -/
  log : List (Nat × Happening)
deriving Repr

/-- Whether a worker is done with its request by it. -/
def Event.isReply {α β : Type} : Event α β → Bool
  | .complete _ _ | .crash _ => true
  | _ => false

/-- What can happen in a service; workers are named by their places. -/
inductive Service.Event
  /-- What happens in the pool apart from answers. -/
  | queue (e : Queue.Event Submission Result)
  /-- Something happens to the execution of a worker. -/
  | happen (w : Nat) (h : Happening)
  /-- A worker whose execution is over is done with its request. -/
  | reply (w : Nat)
deriving Repr

namespace Service

def start (policy : Retry.Policy) (capacity workers : Nat) (signal : Signal) : Service :=
  ⟨policy, .start capacity workers signal, []⟩

/-- The request that a worker answers. -/
def ticketAt (s : Service) (w : Nat) : Option (Ticket Submission) :=
  (s.pool.workers[w]?).bind Worker.ticket?

/-- What the execution of a request has met. -/
def logOf (s : Service) (number : Nat) : List Happening :=
  (s.log.filter (·.1 == number)).map (·.2)

/-- How far the execution of a request is. -/
def execution? (s : Service) (t : Ticket Submission) : Option Execution :=
  (Execution.ready s.policy t.payload.request).replay (s.logOf t.number)

/-- Lets an event happen in the pool. -/
def inPool (s : Service) (e : Queue.Event Submission Result) : Option Service :=
  (s.pool.step e).map fun pool => { s with pool }

/-- What an event does; nothing if it cannot happen. -/
def step (s : Service) : Event → Option Service
  | .queue e => if e.isReply then none else s.inPool e
  | .happen w h =>
    match s.ticketAt w with
    | some t =>
      match (s.execution? t).bind (·.after h) with
      | some _ => some { s with log := s.log ++ [(t.number, h)] }
      | none => none
    | none => none
  | .reply w =>
    match (s.ticketAt w).bind s.execution? with
    | some (.ended (.answered result)) => s.inPool (.complete w result)
    | some (.ended .crashed) => s.inPool (.crash w)
    | _ => none

/-- What events do, one after the other. -/
def run (s : Service) : List Event → Option Service
  | [] => some s
  | e :: es => (s.step e).bind fun t => t.run es

end Service

end Switchyard.Queue
