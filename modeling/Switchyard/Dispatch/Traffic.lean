import Switchyard.Dispatch.Dispatcher
import Switchyard.Dispatch.Execution

/-!
# Executions side by side

Several executions share one dispatcher, and lists are published while they are under way.  An
attempt takes two steps there: the endpoints of the cluster are resolved, and the request is aimed
at one of them and sent.  Between any two steps others take theirs; `Traffic.step` says what each
of them does.  What an execution meets otherwise, from the transport and by the clock, is given by
the events.
-/

namespace Switchyard.Dispatch

open Http (Request)

namespace Dispatcher

/-- Aims a request at one of the endpoints of its cluster. -/
def choose (d : Dispatcher) (r : Request) (endpoints : List Endpoint) :
    Dispatcher × Except Error Request :=
  match d.balancers.select d.strategy endpoints r.contextId with
  | (balancers, .error e) => ({ d with balancers }, .error e)
  | (balancers, .ok endpoint) => ({ d with balancers }, aim r endpoint)

/-- With nothing in between, the two steps of an attempt are its preparation. -/
theorem prepare_eq (d : Dispatcher) (r : Request) :
    d.prepare r = match d.resolve r.contextId with
      | (d, .error e) => (d, .error e)
      | (d, .ok endpoints) => d.choose r endpoints := rfl

/-- Counts what the execution of a request has come to. -/
def note (d : Dispatcher) (r : Request) : Execution → Dispatcher
  | .resting _ => d.countRetry r
  | .ended (.answered result) => d.countResult r result
  | _ => d

end Dispatcher

/-- A request that is executed. -/
structure Trip where
  request : Request
  /-- The endpoints of its cluster, when they are resolved for the attempt at hand. -/
  offered : Option (List Endpoint)
  progress : Execution

/-- An attempt of a trip to aim a request at one of some endpoints; the result goes to the
transport unless it is an error. -/
structure Turn where
  trip : Nat
  request : Request
  offered : List Endpoint
  result : Except Error Request

/-- Trips by the order in which they were begun, on one dispatcher. -/
structure Traffic where
  dispatcher : Dispatcher
  trips : List Trip
  /-- The attempts so far, in order. -/
  turns : List Turn

/-- What can happen next. -/
inductive Traffic.Event
  /-- A request comes, at some time. -/
  | arrive (r : Request) (now : Span)
  | resolve (trip : Nat)
  | choose (trip : Nat)
  /-- The transport is done with an attempt, with a random number at hand. -/
  | reply (trip : Nat) (reply : Reply) (draw : Nat) (now : Span)
  /-- The wait before another attempt is over. -/
  | rest (trip : Nat)
  | publish (contextId : String) (instances : List Instance)

namespace Traffic

def start (d : Dispatcher) : Traffic := ⟨d, [], []⟩

/-- Something happens to the execution of a trip. -/
def happen (s : Traffic) (i : Nat) (h : Happening) : Option Traffic :=
  match s.trips[i]? with
  | none => none
  | some trip => (trip.progress.after h).map fun x =>
    { s with
      dispatcher := s.dispatcher.note trip.request x
      trips := s.trips.set i { trip with offered := none, progress := x } }

/-- What an event does; nothing if it cannot happen. -/
def step (s : Traffic) : Event → Option Traffic
  | .arrive r now =>
    some { s with trips := s.trips ++ [⟨r, none, .preparing (.start s.dispatcher.policy r now)⟩] }
  | .resolve i =>
    match s.trips[i]? with
    | some ⟨r, none, .preparing c⟩ =>
      match s.dispatcher.resolve c.request.contextId with
      | (dispatcher, .ok endpoints) =>
        some { s with dispatcher, trips := s.trips.set i ⟨r, some endpoints, .preparing c⟩ }
      | (dispatcher, .error e) => { s with dispatcher }.happen i (.prepared (.error e))
    | _ => none
  | .choose i =>
    match s.trips[i]? with
    | some ⟨_, some endpoints, .preparing c⟩ =>
      let (dispatcher, result) := s.dispatcher.choose c.request endpoints
      let turn : Turn := ⟨i, c.request, endpoints, result⟩
      { s with dispatcher, turns := s.turns ++ [turn] }.happen i (.prepared result)
    | _ => none
  | .reply i reply draw now => s.happen i (.replied reply draw now)
  | .rest i => s.happen i .rested
  | .publish contextId instances =>
    some { s with dispatcher := s.dispatcher.publish contextId instances }

/-- What events do, one after the other. -/
def run (s : Traffic) : List Event → Option Traffic
  | [] => some s
  | e :: es => (s.step e).bind fun t => t.run es

end Traffic

end Switchyard.Dispatch
