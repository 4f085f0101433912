import Switchyard.Http.Message
import Switchyard.Retry.Policy

/-!
# Executing a request

A request is executed attempt by attempt: it is prepared for one server, sent, and, when the
transport fails, tried again for as long as the policy allows.  The surroundings are given, with a
state of any type, so the loop says only in which order things happen.  It ends because every
failed attempt brings the state of the retries nearer to its last attempt (`State.left_retry`).
-/

namespace Switchyard

namespace Retry.State

/-- How many attempts are left after the one at hand. -/
def left (s : State) : Nat := s.policy.maxAttempts.toNat - s.attempt.toNat

theorem left_retry {s t : State} {draw : Nat} {elapsed : Span} {failed : Dispatch.Failed}
    (h : s.retry draw elapsed failed = .ok t) : t.left < s.left := by
  unfold retry at h
  split at h
  · simp at h
  · next hs =>
    simp only [Except.ok.injEq] at h
    subst h
    simp only [isSpent, decide_eq_true_eq, UInt32.le_iff_toNat_le, Nat.not_le] at hs
    have hm := s.policy.maxAttempts.toNat_lt
    simp only [left, UInt32.toNat_add, UInt32.reduceToNat]
    omega

end Retry.State

namespace Dispatch

open Http (Request Response)

/-- The execution of a request, at one of its attempts. -/
structure Call where
  request : Request
  retries : Retry.State
  began : Span
deriving Repr

namespace Call

/-- The first attempt for a request. -/
def start (policy : Retry.Policy) (r : Request) (now : Span) : Call := ⟨r, .start policy, now⟩

/-- After a failure of the transport: the error that ends the execution, or the call at its next
attempt, which is still to be waited for. -/
def afterFailure (c : Call) (draw : Nat) (now : Span) (f : Failure) : Except Error Call :=
  (c.retries.retry draw (now.since c.began) ⟨c.request.method, c.request.url, f⟩).map
    fun retries => { c with retries }

theorem left_afterFailure {c d : Call} {draw : Nat} {now : Span} {f : Failure}
    (h : c.afterFailure draw now f = .ok d) : d.retries.left < c.retries.left := by
  unfold afterFailure at h
  cases hr : c.retries.retry draw (now.since c.began) ⟨c.request.method, c.request.url, f⟩ with
  | error e => simp [hr, Except.map] at h
  | ok t =>
    simp only [hr, Except.map, Except.ok.injEq] at h
    subst h
    exact Retry.State.left_retry hr

end Call

/-- What comes of sending a request to a server. -/
inductive Reply
  | response (r : Response)
  | failure (f : Failure)
  /-- The transport broke down; nothing is made of it. -/
  | crash
deriving DecidableEq, Repr

/-- How an execution ends. -/
inductive Ending
  | answered (result : Except Error Response)
  | crashed
deriving Repr

/-- The class of a result, as it is counted. -/
def outcomeOf : Except Error Response → String
  | .ok _ => "success"
  | .error e => e.label

/-- What an execution needs of its surroundings. -/
structure Surroundings (σ : Type) where
  /-- Aims a request at one server of its cluster. -/
  prepare : Request → σ → σ × Except Error Request
  send : Request → σ → σ × Reply
  /-- Waits before another attempt for a request. -/
  wait : Request → Span → σ → σ
  now : σ → Span
  /-- A random number. -/
  draw : σ → Nat
  /-- Takes note of a result. -/
  finish : Request → Except Error Response → σ → σ

variable {σ : Type}

/-- The attempts for a request from a call on. -/
def attempts (e : Surroundings σ) (c : Call) (s : σ) : σ × Ending :=
  match e.prepare c.request s with
  | (s, .error error) => (s, .answered (.error error))
  | (s, .ok aimed) =>
    match e.send aimed s with
    | (s, .crash) => (s, .crashed)
    | (s, .response response) => (s, .answered (.ok response))
    | (s, .failure f) =>
      match _h : c.afterFailure (e.draw s) (e.now s) f with
      | .error error => (s, .answered (.error error))
      | .ok next => attempts e next (e.wait next.request next.retries.delay s)
termination_by c.retries.left
decreasing_by exact Call.left_afterFailure _h

/-- Executes a request under a policy. -/
def execute (e : Surroundings σ) (policy : Retry.Policy) (r : Request) (s : σ) : σ × Ending :=
  match attempts e (.start policy r (e.now s)) s with
  | (s, .answered result) => (e.finish r result s, .answered result)
  | (s, .crashed) => (s, .crashed)

end Dispatch

end Switchyard
