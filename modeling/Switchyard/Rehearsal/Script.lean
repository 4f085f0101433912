import Switchyard.Dispatch.Dispatcher

/-!
# Scripts

A script says, call by call, what a transport is to do.  One call may publish instances, wait, and
then answer, fail, break down or never answer at all.
-/

namespace Switchyard.Rehearsal

open Dispatch (Failure Reply)
open Http (Request Response)

/-- How a call to the transport ends. -/
inductive Act
  /-- The answer is the URL that was asked for. -/
  | echo
  | answer (r : Response)
  | fail (f : Failure)
  | crash
  | hang
deriving DecidableEq, Repr

/-- What happens in one call to the transport. -/
structure Cue where
  publish : Option (String × List Instance) := none
  delay : Span := .zero
  act : Act := .echo
deriving DecidableEq, Repr

/-- The answer whose body is the URL that was asked for. -/
def echoOf (r : Request) : Response := (Response.make 200).withBody (Http.bytesOf r.url)

/-- What comes of a call; nothing if it hangs. -/
def Act.reply? (a : Act) (r : Request) : Option Reply :=
  match a with
  | .echo => some (.response (echoOf r))
  | .answer response => some (.response response)
  | .fail f => some (.failure f)
  | .crash => some .crash
  | .hang => none

end Switchyard.Rehearsal
