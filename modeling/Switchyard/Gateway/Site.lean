import Switchyard.Dispatch.Traffic
import Switchyard.Gateway.Handler

/-!
# A gateway at work

Requests come in at the front and are handed to the queue; workers take them from there, each of
them is a trip to the servers of its cluster, and how the trip ends is the answer to the request.
Front, queue and dispatcher go on side by side: `Site.step` says what each event does, or that it
cannot happen.

Three numbers name a request on its way.  It is a visit, by the order in which requests come; if it
is let in it gets a number in the queue; and the trip that is made for it is the one that began
when a worker took that number.
-/

namespace Switchyard

namespace Queue

/-- Whether it brings a request, or a worker takes one or is done with one by it. -/
def Event.movesRequest {α β : Type} : Event α β → Bool
  | .submit _ | .receive _ | .complete _ _ | .crash _ => true
  | _ => false

/-- The request that a worker answers. -/
def Pool.ticketAt {α β : Type} (p : Pool α β) (w : Nat) : Option (Ticket α) :=
  (p.workers[w]?).bind Worker.ticket?

end Queue

/-- Whether a trip begins by it. -/
def Dispatch.Traffic.Event.isArrival : Dispatch.Traffic.Event → Bool
  | .arrive _ _ => true
  | _ => false

namespace Gateway

open Dispatch (Dispatcher Traffic Trip)
open Http (Response)
open Queue (DispatchPool Pool Result Submission Ticket)

/-- A request that has come, with the id that it gets if it has none. -/
structure Visit where
  inbound : Inbound
  fresh : List UInt8
  /-- Why it was turned away, or its number in the queue. -/
  place : Except Course Nat

/-- The request as the handler gets it. -/
def Visit.received (v : Visit) : Inbound := withId v.fresh v.inbound

structure Site where
  front : Front
  pool : DispatchPool
  traffic : Traffic
  /-- The requests that have come, the latest last. -/
  visits : List Visit
  /-- What the front has counted, beside what the dispatcher has. -/
  metrics : Metrics

/-- What can happen next; workers are named by their places. -/
inductive Site.Event
  | arrive (i : Inbound) (fresh : List UInt8)
  /-- A worker takes what has waited longest, at some time. -/
  | receive (w : Nat) (now : Span)
  /-- Something happens in the queue that leaves the requests where they are.  It may be that the
  time of a request is up, or that its client is gone. -/
  | queue (e : Queue.Event Submission Result)
  /-- A trip goes on, or a list is published. -/
  | travel (e : Traffic.Event)
  /-- A worker whose trip is over is done with its request. -/
  | reply (w : Nat)

namespace Site

def start (g : Front) (capacity workers : Nat) (signal : Signal) (d : Dispatcher) : Site :=
  ⟨g, .start capacity workers signal, .start d, [], .empty⟩

/-- The trip that is made for a request of the queue. -/
def tripOf? (s : Site) (number : Nat) : Option Trip :=
  s.traffic.trips[s.pool.received.idxOf number]?

/-- A request comes, and is let in or turned away. -/
def arrive (s : Site) (i : Inbound) (fresh : List UInt8) : Site :=
  let (pool, metrics, course) := s.front.enqueue (withId fresh i) s.pool s.metrics
  let place := match course with
    | some course => .error course
    | none => .ok s.pool.accepted
  { s with pool, metrics, visits := s.visits ++ [⟨i, fresh, place⟩] }

def inPool (s : Site) (e : Queue.Event Submission Result) : Option Site :=
  (s.pool.step e).map fun pool => { s with pool }

def inTraffic (s : Site) (e : Traffic.Event) : Option Site :=
  (s.traffic.step e).map fun traffic => { s with traffic }

/-- What an event does; nothing if it cannot happen. -/
def step (s : Site) : Event → Option Site
  | .arrive i fresh => some (s.arrive i fresh)
  | .receive w now =>
    match s.inPool (.receive w) with
    | some s =>
      match s.pool.ticketAt w with
      | some t => s.inTraffic (.arrive t.payload.request now)
      | none => none
    | none => none
  | .queue e => if e.movesRequest then none else s.inPool e
  | .travel e => if e.isArrival then none else s.inTraffic e
  | .reply w =>
    match (s.pool.ticketAt w).bind fun t => s.tripOf? t.number with
    | some ⟨_, _, .ended (.answered result)⟩ => s.inPool (.complete w result)
    | some ⟨_, _, .ended .crashed⟩ => s.inPool (.crash w)
    | _ => none

/-- What events do, one after the other. -/
def run (s : Site) : List Event → Option Site
  | [] => some s
  | e :: es => (s.step e).bind fun t => t.run es

/-- What the client of a visit gets, if it has come to that. -/
def answerTo? (s : Site) (v : Visit) : Option Response :=
  match v.place with
  | .error course => some (respond v.fresh v.inbound (some course))
  | .ok number =>
    match s.pool.answerOf number with
    | some answer =>
      some (respond v.fresh v.inbound
        (if number ∈ s.pool.unread then none else some (.answered answer)))
    | none =>
      if number ∈ s.pool.abandoned then some (respond v.fresh v.inbound none) else none

/-- How often something was counted. -/
def counted (s : Site) (k : Metric) : Nat :=
  s.metrics.value k + s.traffic.dispatcher.metrics.value k

end Site

end Gateway

end Switchyard
