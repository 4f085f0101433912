import Switchyard.Config.Settings
import Switchyard.Dispatch.Error
import Switchyard.Retry.Backoff

/-!
# Retry policies

A policy says how many attempts a request may take and how long to wait between them.  A `State`
follows one request: it counts the attempts, the one at hand included, and after a failure either
allows another attempt (`State.retry`) or ends the request with an error.
-/

namespace Switchyard.Retry

open Dispatch (Error Failed)

structure Policy where
  maxAttempts : UInt32
  period : UInt64
  maxPeriod : UInt64
  jitter : Bool
deriving DecidableEq, Repr, Inhabited

namespace Policy

/-- At least one attempt is made. -/
def make (period maxPeriod : UInt64) (maxAttempts : UInt32) : Policy :=
  { maxAttempts := if maxAttempts = 0 then 1 else maxAttempts, period, maxPeriod, jitter := false }

/-- The first failure ends the request. -/
def never : Policy := { maxAttempts := 1, period := 0, maxPeriod := 0, jitter := false }

def withJitter (p : Policy) (jitter : Bool) : Policy := { p with jitter }

def ofSettings (s : Config.RetrySettings) : Policy :=
  if s.enabled then (make s.period s.maxPeriod s.maxAttempts).withJitter s.jitter else never

def standard : Policy := ofSettings {}

end Policy

/-- The progress of one request. -/
structure State where
  policy : Policy
  attempt : UInt32
  /-- How long the attempt at hand was waited for. -/
  delay : Span
deriving DecidableEq, Repr, Inhabited

namespace State

/-- The first attempt is at hand, and nothing was waited for it. -/
def start (p : Policy) : State := ⟨p, 1, .zero⟩

/-- How long another attempt would be waited for. -/
def nextDelay (s : State) (draw : Nat) : Span :=
  let delay := Span.ofMillis (backoff s.attempt s.policy.period s.policy.maxPeriod).toNat
  if s.policy.jitter then withJitter draw delay else delay

/-- Whether the attempt at hand is the last one. -/
def isSpent (s : State) : Bool := s.policy.maxAttempts ≤ s.attempt

/-- After a failure: the error that ends the request, or the state of the next attempt, whose
`delay` is still to be waited for. -/
def retry (s : State) (draw : Nat) (elapsed : Span) (failed : Failed) : Except Error State :=
  if s.isSpent then .error (.io failed s.attempt elapsed)
  else .ok { s with attempt := s.attempt + 1, delay := s.nextDelay draw }

end State

end Switchyard.Retry
