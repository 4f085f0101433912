import Switchyard.Dispatch.Dispatcher

/-!
# Sharing a dispatcher

Executions that go on side by side share one dispatcher.  Whatever they and those who publish do
to it is a sequence of uses (`Use`), each of them in one piece.
-/

namespace Switchyard.Dispatch

open Http (Request Response)

/-- What is done to a dispatcher in one piece. -/
inductive Use
  /-- An attempt for a request is prepared. -/
  | prepare (r : Request)
  /-- Another attempt for a request is counted. -/
  | retry (r : Request)
  /-- The result of a request is counted. -/
  | finish (r : Request) (result : Except Error Response)
  | publish (contextId : String) (instances : List Instance)

namespace Dispatcher

/-- The dispatcher after a use. -/
def use (d : Dispatcher) : Use → Dispatcher
  | .prepare r => (d.prepare r).1
  | .retry r => d.countRetry r
  | .finish r result => d.countResult r result
  | .publish contextId instances => d.publish contextId instances

/-- The dispatcher after one use after the other. -/
def after (d : Dispatcher) (us : List Use) : Dispatcher := us.foldl use d

end Dispatcher

/-- Surroundings of an execution that shares a dispatcher.  Its attempts are prepared there, and
while it waits, for the transport or for another attempt, uses of some kind are made of it. -/
structure Surroundings.Shares {σ : Type} (e : Surroundings σ) (view : σ → Dispatcher)
    (meanwhile : Use → Prop) : Prop where
  prepare : ∀ r s, view (e.prepare r s).1 = ((view s).prepare r).1
    ∧ (e.prepare r s).2 = ((view s).prepare r).2
  send : ∀ aimed s, ∃ us, (∀ u ∈ us, meanwhile u) ∧ view (e.send aimed s).1 = (view s).after us
  wait : ∀ r delay s, ∃ us, (∀ u ∈ us, meanwhile u)
    ∧ view (e.wait r delay s) = (view s).after us

end Switchyard.Dispatch
