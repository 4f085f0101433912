import Switchyard.Queue.Channel
import Switchyard.Signal

/-!
# The pool of workers

A fixed number of workers takes requests from one channel and answers them.  A worker waits for a
request or for the signal to stop; after the signal it closes the channel and answers what is left
in it.  A worker that breaks down answers nothing any more, and when no worker is left, what still
waits is dropped.

The channel is for one worker at a time.  A worker that waits for a request may hold it while it
waits, and gives it back with the request, or when it turns to the signal; the others wait for it
with the signal in view.

Everything happens in events (`Event`), each of which one party can bring about on its own; `step`
says what an event does, or that it cannot happen.  Tickets number the requests that were taken
in, in the order in which they came.
-/

namespace Switchyard.Queue

/-- A request that was taken in. -/
structure Ticket (α : Type) where
  number : Nat
  payload : α
deriving Repr

/-- What a worker is doing. -/
inductive Worker (α : Type)
  /-- It waits for a request or the signal. -/
  | selecting
  /-- It has seen the signal and has not closed the channel yet. -/
  | closing
  /-- It takes what is left in the channel. -/
  | draining
  /-- It answers a request, and goes on to wait or to drain. -/
  | serving (t : Ticket α) (drains : Bool)
  | finished
  /-- It has broken down on a request, before or after it closed the channel. -/
  | dead (drains : Bool)
deriving Repr

namespace Worker

variable {α : Type}

def isLive : Worker α → Bool
  | .finished | .dead _ => false
  | _ => true

/-- A worker that would take a request, before or after the signal. -/
def ready (drains : Bool) : Worker α := if drains then .draining else .selecting

/-- Whether it drains, if it would take a request. -/
def ready? : Worker α → Option Bool
  | .selecting => some false
  | .draining => some true
  | _ => none

/-- The request that it answers. -/
def ticket? : Worker α → Option (Ticket α)
  | .serving t _ => some t
  | _ => none

@[simp] theorem isLive_ready (drains : Bool) : (ready drains : Worker α).isLive = true := by
  cases drains <;> rfl

@[simp] theorem ticket?_ready (drains : Bool) : (ready drains : Worker α).ticket? = none := by
  cases drains <;> rfl

theorem ready?_eq_some_iff {w : Worker α} {drains : Bool} :
    w.ready? = some drains ↔ w = ready drains := by
  cases w <;> cases drains <;> simp [ready?, ready]

end Worker

/-- What became of a request. -/
inductive Answer (β : Type)
  | result (b : β)
  /-- No answer will come. -/
  | dropped
deriving Repr

structure Pool (α β : Type) where
  channel : Channel (Ticket α)
  /-- The worker that has the channel to itself while it waits for a request. -/
  holder : Option Nat
  workers : List (Worker α)
  /-- The signal that the workers have subscribed to. -/
  signal : Signal
  /-- The place of the first worker's receiver among those of the signal. -/
  firstReceiver : Nat
  /-- The requests that were taken in, the latest last. -/
  requests : List α
  /-- The numbers of the requests that workers took, the latest last. -/
  received : List Nat
  /-- What became of requests, the latest last. -/
  answers : List (Nat × Answer β)
  /-- The requests whose answers nobody waits for. -/
  abandoned : List Nat
  /-- The requests whose answers came when nobody waited for them any more. -/
  unread : List Nat
deriving Repr

/-- What can happen in a pool; workers are named by their places. -/
inductive Event (α β : Type)
  | submit (a : α)
  | addProducer
  | dropProducer
  | signal
  /-- The last of those who could give the signal is gone. -/
  | endSignal
  | abandon (number : Nat)
  /-- A worker takes the channel for itself until there is a request. -/
  | acquire (w : Nat)
  /-- A worker takes what has waited longest. -/
  | receive (w : Nat)
  /-- A worker sees the signal. -/
  | notice (w : Nat)
  /-- A worker that has seen the signal closes the channel. -/
  | close (w : Nat)
  /-- A worker answers its request. -/
  | complete (w : Nat) (b : β)
  /-- A worker breaks down on its request. -/
  | crash (w : Nat)
  /-- A worker finds that nothing is left. -/
  | leave (w : Nat)
deriving Repr

namespace Pool

variable {α β : Type}

/-- Workers that wait, at least one, on an empty channel.  They subscribe to the signal first. -/
def start (capacity workers : Nat) (signal : Signal := .make) : Pool α β where
  channel := .make capacity
  holder := none
  workers := List.replicate (max workers 1) .selecting
  signal := signal.subscribeAll (max workers 1)
  firstReceiver := signal.receivers.length
  requests := []
  received := []
  answers := []
  abandoned := []
  unread := []

/-- A pool as `start` makes it, if a channel can have the capacity. -/
def start? (capacity workers : Nat) (signal : Signal := .make) : Option (Pool α β) :=
  if capacity ≤ Channel.largest then some (start capacity workers signal) else none

theorem start?_eq_none_iff (capacity workers : Nat) (signal : Signal) :
    (start? capacity workers signal : Option (Pool α β)) = none ↔ Channel.largest < capacity := by
  unfold start?
  split <;> simp_all

/-- How many requests were taken in. -/
def accepted (p : Pool α β) : Nat := p.requests.length

def setWorker (p : Pool α β) (w : Nat) (state : Worker α) : Pool α β :=
  { p with workers := p.workers.set w state }

/-- The channel with the request that gets the next number. -/
def offer (p : Pool α β) (a : α) : Except Refusal (Channel (Ticket α)) :=
  p.channel.offer ⟨p.accepted, a⟩

/-- Takes a request in; it gets the next number. -/
def submit (p : Pool α β) (a : α) : Except Refusal (Pool α β) :=
  match p.offer a with
  | .ok channel => .ok { p with channel, requests := p.requests ++ [a] }
  | .error refusal => .error refusal

/-- Whether a worker has the channel, or could have it at once. -/
def isFreeFor (p : Pool α β) (w : Nat) : Bool := p.holder.all (· == w)

/-- Gives the channel back, if the worker has it. -/
def release (p : Pool α β) (w : Nat) : Pool α β :=
  { p with holder := if p.holder = some w then none else p.holder }

/-- The signal after a worker has found something, if there is something to be found. -/
def hear? (p : Pool α β) (w : Nat) : Option Signal := p.signal.hear? (p.firstReceiver + w)

/-- Answers a request.  Without anybody who waits for it the answer is lost. -/
def reply (p : Pool α β) (number : Nat) (a : Answer β) : Pool α β :=
  { p with
    answers := p.answers ++ [(number, a)]
    unread := if number ∈ p.abandoned then p.unread ++ [number] else p.unread }

/-- Drops what waits, oldest first. -/
def dropAll (p : Pool α β) : List (Ticket α) → Pool α β
  | [] => p
  | t :: ts => (p.reply t.number .dropped).dropAll ts

/-- A worker is gone, and its receiver with it. -/
def retire (p : Pool α β) (w : Nat) (state : Worker α) : Pool α β :=
  { p with
    workers := p.workers.set w state
    signal := p.signal.unsubscribe (p.firstReceiver + w) }

def liveWorkers (p : Pool α β) : Nat := p.workers.countP Worker.isLive

/-- When no worker is left, the channel is closed, and what waits in it is dropped. -/
def closeIfDeserted (p : Pool α β) : Pool α β :=
  if p.liveWorkers = 0 then
    { p with channel := { p.channel with waiting := [], shut := true } }.dropAll p.channel.waiting
  else p

/-- What an event does; nothing if it cannot happen.  A request that is refused changes nothing. -/
def step (p : Pool α β) : Event α β → Option (Pool α β)
  | .submit a =>
    match p.submit a with
    | .ok q => some q
    | .error _ => some p
  | .addProducer =>
    if p.channel.producers = 0 then none
    else some { p with channel := { p.channel with producers := p.channel.producers + 1 } }
  | .dropProducer =>
    if p.channel.producers = 0 then none
    else some { p with channel := { p.channel with producers := p.channel.producers - 1 } }
  | .signal => some { p with signal := p.signal.trigger }
  | .endSignal => some { p with signal := p.signal.close }
  | .abandon number => some { p with abandoned := number :: p.abandoned }
  | .acquire w =>
    match p.workers[w]?, p.holder with
    | some .selecting, none => some { p with holder := some w }
    | _, _ => none
  | .receive w =>
    match (p.workers[w]?).bind Worker.ready?, p.channel.take with
    | some drains, some (t, channel) =>
      if p.isFreeFor w then
        some ({ p with channel, holder := none, received := p.received ++ [t.number] }.setWorker w
          (.serving t drains))
      else none
    | _, _ => none
  | .notice w =>
    match p.workers[w]?, p.hear? w with
    | some .selecting, some signal => some ({ p.release w with signal }.setWorker w .closing)
    | _, _ => none
  | .close w =>
    match p.workers[w]?, p.holder with
    | some .closing, none => some ({ p with channel := p.channel.shutDown }.setWorker w .draining)
    | _, _ => none
  | .complete w b =>
    match p.workers[w]? with
    | some (.serving t drains) => some ((p.reply t.number (.result b)).setWorker w (.ready drains))
    | _ => none
  | .crash w =>
    match p.workers[w]? with
    | some (.serving t drains) =>
      some ((p.reply t.number .dropped).retire w (.dead drains)).closeIfDeserted
    | _ => none
  | .leave w =>
    match (p.workers[w]?).bind Worker.ready? with
    | some _ =>
      if p.isFreeFor w && p.channel.isOver then some ({ p with holder := none }.retire w .finished)
      else none
    | none => none

/-- What events do, one after the other. -/
def run (p : Pool α β) : List (Event α β) → Option (Pool α β)
  | [] => some p
  | e :: es => (p.step e).bind fun q => q.run es

/-- What became of a request, if anything did. -/
def answerOf (p : Pool α β) (number : Nat) : Option (Answer β) :=
  (p.answers.find? (·.1 == number)).map (·.2)

end Pool

end Switchyard.Queue
