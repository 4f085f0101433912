import Switchyard.Dispatch.Sharing
import Switchyard.Rehearsal.Script

/-!
# Rehearsing executions

A dispatcher is run with a transport that follows a script, one request at a time.  Time passes
only where the script or the retries wait, and exactly as long as they say.
-/

namespace Switchyard.Rehearsal

open Dispatch (Dispatcher Ending Error Reply Surroundings Use)
open Http (Request Response)

/-- A call that the transport got, and when. -/
structure LoggedCall where
  request : Request
  time : Span
deriving DecidableEq, Repr

structure Stage where
  dispatcher : Dispatcher
  /-- Whether the script can reach the register. -/
  publishes : Bool
  script : List Cue
  clock : Span
  /-- The calls so far, the last one first. -/
  calls : List LoggedCall

namespace Stage

/-- Publishes instances, if the register can be reached. -/
def publish (s : Stage) (contextId : String) (instances : List Instance) : Stage :=
  if s.publishes then { s with dispatcher := s.dispatcher.publish contextId instances } else s

/-- A call to the transport. -/
def send (r : Request) (s : Stage) : Stage × Reply :=
  let s := { s with calls := ⟨r, s.clock⟩ :: s.calls }
  let cue := s.script.headD {}
  let s := { s with script := s.script.tail }
  let s := match cue.publish with
    | some (contextId, instances) => s.publish contextId instances
    | none => s
  ({ s with clock := s.clock.add cue.delay }, (cue.act.reply? r).getD .crash)

def surroundings : Surroundings Stage where
  prepare r s :=
    let (dispatcher, result) := s.dispatcher.prepare r
    ({ s with dispatcher }, result)
  send := send
  wait r delay s := { s with dispatcher := s.dispatcher.countRetry r, clock := s.clock.add delay }
  now s := s.clock
  draw _ := 0
  finish r result s := { s with dispatcher := s.dispatcher.countResult r result }

/-- Meanwhile the script publishes, and nothing else is done to the dispatcher. -/
theorem surroundings_shares : surroundings.Shares Stage.dispatcher fun u =>
    (∃ r, u = .retry r) ∨ ∃ contextId instances, u = .publish contextId instances where
  prepare _ _ := ⟨rfl, rfl⟩
  send aimed s := by
    cases hp : (s.script.headD {}).publish with
    | none => exact ⟨[], by simp, by simp only [surroundings, send, hp]; rfl⟩
    | some p =>
      cases hs : s.publishes with
      | false => exact ⟨[], by simp, by simp only [surroundings, send, publish, hp, hs]; rfl⟩
      | true =>
        exact ⟨[.publish p.1 p.2], by simp, by
          simp only [surroundings, send, publish, hp, hs]
          rfl⟩
  wait r _ _ := ⟨[.retry r], by simp, rfl⟩

/-- Executes a request; the calls that it takes come with the result. -/
def execute (s : Stage) (r : Request) : Stage × List LoggedCall × Ending :=
  let (s, ending) := Dispatch.execute surroundings s.dispatcher.policy r { s with calls := [] }
  (s, s.calls.reverse, ending)

end Stage

end Switchyard.Rehearsal
