import Switchyard.Retry.Policy

/-!
# Tries side by side

A policy gives out a state for every request that is tried.  When an attempt of a try has failed,
its state is asked about the failure: it rules at once that the try is over, with an error, or it
lets the try wait, and rules at the end of the wait that there may be another attempt.  Until then
the state stays as it is, also if the wait is given up.

`Try.after` says what becomes of one try, `Tries.step` of many that go on side by side under one
policy.
-/

namespace Switchyard.Retry

open Dispatch (Error Failed)

/-- What a state has ruled on a failure, some time after its try began. -/
structure Ruling where
  failed : Failed
  elapsed : Span
  result : Except Error Unit

/-- Whether there may be another attempt. -/
def Ruling.isGrant (r : Ruling) : Bool :=
  match r.result with
  | .ok _ => true
  | .error _ => false

/-- A wait for another attempt: the ruling that is due at its end, and the state that the try has
then. -/
structure Wait where
  ruling : Ruling
  next : State

/-- A request that is tried. -/
structure Try where
  state : State
  wait : Option Wait
  /-- The rulings so far, the latest last. -/
  rulings : List Ruling

/-- What can happen to a try. -/
inductive Try.Event
  /-- Its state is asked about a failure, with a random number at hand. -/
  | ask (failed : Failed) (draw : Nat) (elapsed : Span)
  /-- The wait is over. -/
  | wake
  | giveUp

namespace Try

def start (p : Policy) : Try := ⟨.start p, none, []⟩

def grants (x : Try) : Nat := x.rulings.countP Ruling.isGrant

def rule (x : Try) (r : Ruling) : Try := { x with rulings := x.rulings ++ [r] }

def ask (x : Try) (failed : Failed) (draw : Nat) (elapsed : Span) : Try :=
  match x.state.retry draw elapsed failed with
  | .error e => x.rule ⟨failed, elapsed, .error e⟩
  | .ok next => { x with wait := some ⟨⟨failed, elapsed, .ok ()⟩, next⟩ }

/-- What becomes of a try; nothing if the event cannot happen.  A try that waits is not asked. -/
def after (x : Try) : Event → Option Try
  | .ask failed draw elapsed =>
    match x.wait with
    | some _ => none
    | none => some (x.ask failed draw elapsed)
  | .wake => x.wait.map fun w => { x.rule w.ruling with state := w.next, wait := none }
  | .giveUp => x.wait.map fun _ => { x with wait := none }

/-- What becomes of a try by one event after the other. -/
def replay (x : Try) : List Event → Option Try
  | [] => some x
  | e :: es => (x.after e).bind fun y => y.replay es

end Try

/-- Tries by the order in which they were begun. -/
structure Tries where
  policy : Policy
  tries : List Try

inductive Tries.Event
  | begin
  | goOn (i : Nat) (e : Try.Event)

namespace Tries

def start (p : Policy) : Tries := ⟨p, []⟩

/-- What an event does; nothing if it cannot happen. -/
def step (t : Tries) : Event → Option Tries
  | .begin => some { t with tries := t.tries ++ [.start t.policy] }
  | .goOn i e =>
    match t.tries[i]? with
    | none => none
    | some x => (x.after e).map fun y => { t with tries := t.tries.set i y }

/-- What events do, one after the other. -/
def run (t : Tries) : List Event → Option Tries
  | [] => some t
  | e :: es => (t.step e).bind fun u => u.run es

end Tries

end Switchyard.Retry
