import Switchyard.Dispatch.Execution
import Switchyard.Metrics

/-!
# What is counted for executions

Executions go on side by side, each under a policy of its own, and what they come to is counted in
one place.  A ledger has an account for each of them, with all that has happened to it.

How a request is prepared for a server is left open here, so nothing depends on what the executions
share: whatever a register or a balancer says, and in whatever order things happen, the result of
the preparation is given with the event.  Only the transport can fail with an error of its own kind
(`Happening.isPossible`).
-/

namespace Switchyard

/-- Counts what the execution of a request has come to. -/
def Metrics.note (m : Metrics) (r : Http.Request) : Dispatch.Execution → Metrics
  | .resting _ => m.retry r.method
  | .ended (.answered result) => m.request r.method (Dispatch.outcomeOf result)
  | _ => m

namespace Dispatch

open Http (Request)

/-- Preparing a request is not what fails for want of attempts. -/
def Happening.isPossible : Happening → Bool
  | .prepared (.error (.io _ _ _)) => false
  | _ => true

structure Account where
  request : Request
  /-- What has happened to the execution, in order. -/
  log : List Happening
  progress : Execution

structure Ledger where
  /-- The executions by the order in which they were begun. -/
  accounts : List Account
  metrics : Metrics

inductive Ledger.Event
  /-- A request is to be executed under a policy. -/
  | arrive (policy : Retry.Policy) (r : Request) (now : Span)
  | happen (i : Nat) (h : Happening)
  /-- A list of so many instances was pushed. -/
  | update (contextId : String) (instances : Nat)
  /-- A request was turned away. -/
  | reject

namespace Ledger

def empty : Ledger := ⟨[], .empty⟩

/-- What an event does; nothing if it cannot happen. -/
def step (l : Ledger) : Event → Option Ledger
  | .arrive policy r now =>
    some { l with
      accounts := l.accounts ++ [⟨r, [.began now], .preparing (.start policy r now)⟩] }
  | .happen i h =>
    match l.accounts[i]? with
    | none => none
    | some a =>
      if h.isPossible then
        (a.progress.after h).map fun x =>
          ⟨l.accounts.set i ⟨a.request, a.log ++ [h], x⟩, l.metrics.note a.request x⟩
      else none
  | .update contextId instances => some { l with metrics := l.metrics.update contextId instances }
  | .reject => some { l with metrics := l.metrics.rejection }

/-- What events do, one after the other. -/
def run (l : Ledger) : List Event → Option Ledger
  | [] => some l
  | e :: es => (l.step e).bind fun k => k.run es

end Ledger

end Dispatch

end Switchyard
