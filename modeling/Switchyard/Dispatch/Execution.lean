import Switchyard.Dispatch.Attempt

/-!
# Executions step by step

Executions of several requests go on side by side, and each goes on when something happens to it:
a request was prepared, the transport has replied, a wait is over.  `Execution.after` says where
that takes it.  What happens to an execution that runs in given surroundings can be recorded
(`Surroundings.recorded`).
-/

namespace Switchyard.Dispatch

open Http (Request)

/-- What can happen to an execution. -/
inductive Happening
  | began (now : Span)
  | prepared (result : Except Error Request)
  /-- The transport is done, with a random number at hand. -/
  | replied (reply : Reply) (draw : Nat) (now : Span)
  /-- The wait before another attempt is over. -/
  | rested
deriving Repr

/-- Whether it takes a call to the transport. -/
def Happening.isReply : Happening → Bool
  | .replied _ _ _ => true
  | _ => false

/-- Whether a wait before another attempt is over. -/
def Happening.isRested : Happening → Bool
  | .rested => true
  | _ => false

/-- How far an execution is. -/
inductive Execution
  | ready (policy : Retry.Policy) (r : Request)
  | preparing (c : Call)
  | sending (c : Call) (aimed : Request)
  /-- It waits for the attempt of the call. -/
  | resting (c : Call)
  | ended (e : Ending)
deriving Repr

namespace Execution

/-- How far it is after a failure of the transport. -/
def afterFailure (c : Call) (draw : Nat) (now : Span) (f : Failure) : Execution :=
  match c.afterFailure draw now f with
  | .error e => .ended (.answered (.error e))
  | .ok next => .resting next

/-- How far it is when something has happened; nothing if that cannot happen to it. -/
def after : Execution → Happening → Option Execution
  | .ready policy r, .began now => some (.preparing (.start policy r now))
  | .preparing _, .prepared (.error e) => some (.ended (.answered (.error e)))
  | .preparing c, .prepared (.ok aimed) => some (.sending c aimed)
  | .sending _ _, .replied (.response r) _ _ => some (.ended (.answered (.ok r)))
  | .sending _ _, .replied .crash _ _ => some (.ended .crashed)
  | .sending c _, .replied (.failure f) draw now => some (afterFailure c draw now f)
  | .resting c, .rested => some (.preparing c)
  | _, _ => none

/-- How far it is when one thing has happened after the other. -/
def replay (x : Execution) : List Happening → Option Execution
  | [] => some x
  | h :: hs => (x.after h).bind fun y => y.replay hs

@[simp] theorem replay_ended (e : Ending) (h : Happening) (hs : List Happening) :
    (ended e).replay (h :: hs) = none := rfl

end Execution

/-- Surroundings that keep a record of what happens. -/
def Surroundings.recorded {σ : Type} (e : Surroundings σ) : Surroundings (σ × List Happening) where
  prepare r s :=
    let (t, result) := e.prepare r s.1
    ((t, s.2 ++ [.prepared result]), result)
  send r s :=
    let (t, reply) := e.send r s.1
    ((t, s.2 ++ [.replied reply (e.draw t) (e.now t)]), reply)
  wait r delay s := (e.wait r delay s.1, s.2 ++ [.rested])
  now s := e.now s.1
  draw s := e.draw s.1
  finish r result s := (e.finish r result s.1, s.2)

/-- There are surroundings in which the execution of a request meets just these happenings, and
ends like this. -/
def Meets (policy : Retry.Policy) (r : Request) (log : List Happening) (ending : Ending) : Prop :=
  ∃ (σ : Type) (e : Surroundings σ) (s t : σ),
    execute e.recorded policy r (s, [.began (e.now s)]) = ((t, log), ending)

end Switchyard.Dispatch
