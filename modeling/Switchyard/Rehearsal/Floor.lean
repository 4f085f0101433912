import Switchyard.Queue.Submission
import Switchyard.Rehearsal.Stage

/-!
# Rehearsing a queue

A pool of workers is run with a transport that follows a script.  Every call to the transport, once
it is logged, waits for a permit; permits are handed out in the order of the calls, and those left
over are kept.  Time stands still between steps that move it.

Workers run one at a time, each until it has to wait, in the order in which they were woken.  A
worker that is done with a request looks for the signal first and for the next request then.

A call that publishes gives the register its list and waits until all watchers have seen it.  They
are called apart from the workers, for each publication by itself, and a watcher takes as long as
its list is.  So of two publications that overlap the one with less to tell is over first.
-/

namespace Switchyard.Rehearsal

open Dispatch (Call Dispatcher Error Reply)
open Http (Request Response)
open Queue (DispatchPool Event Refusal Result Submission)

/-- What a worker does next. -/
inductive Duty
  /-- Looks for the signal and for a request. -/
  | look
  /-- Aims its request at a server and sends it. -/
  | send (c : Call)
  /-- Has got a permit for a call to the transport. -/
  | pass (c : Call) (aimed : Request) (cue : Cue)
  /-- Has published what the script says. -/
  | rest (c : Call) (aimed : Request) (cue : Cue)
  /-- Has waited as long as the script says. -/
  | act (c : Call) (aimed : Request) (cue : Cue)
deriving Repr

/-- A worker by its place, and what it does next. -/
structure Task where
  worker : Nat
  duty : Duty
deriving Repr

/-- A task that begins at some time. -/
structure Timer where
  due : Span
  task : Task
deriving Repr

/-- A publication whose watchers are being called, and the task that waits for it. -/
structure Round where
  contextId : String
  instances : List Instance
  watchers : Nat
  /-- When it is over, by the work that takes until then. -/
  due : Nat
  task : Task
deriving Repr

structure Floor where
  dispatcher : Dispatcher
  /-- Whether the register can be reached. -/
  publishes : Bool
  script : List Cue
  clock : Span
  /-- The calls to the transport since they were last read, the last one first. -/
  calls : List LoggedCall
  pool : DispatchPool
  /-- The permits that no call waits for. -/
  permits : Nat
  /-- The calls that wait for a permit. -/
  gate : List Task
  timers : List Timer
  /-- The publications that are under way. -/
  rounds : List Round
  /-- How much work has gone into publications that are over. -/
  effort : Nat
  /-- The workers that can go on. -/
  ready : List Task

namespace Floor

/-- A floor at the beginning of time, without permits. -/
def make (dispatcher : Dispatcher) (publishes : Bool) (script : List Cue) (pool : DispatchPool) :
    Floor where
  dispatcher := dispatcher
  publishes := publishes
  script := script
  clock := .zero
  calls := []
  pool := pool
  permits := 0
  gate := []
  timers := []
  rounds := []
  effort := 0
  ready := []

/-- Lets an event happen in the pool, if it can. -/
def happen (f : Floor) (e : Event Submission Result) : Floor :=
  { f with pool := (f.pool.step e).getD f.pool }

/-- Lets a worker go on before all others. -/
def goOn (f : Floor) (w : Nat) (d : Duty) : Floor := { f with ready := ⟨w, d⟩ :: f.ready }

/-- Lets a worker go on after all others. -/
def wake (f : Floor) (t : Task) : Floor := { f with ready := f.ready ++ [t] }

/-- Lets a task go on at a later time; at once if that is now. -/
def sleep (f : Floor) (delay : Span) (t : Task) : Floor :=
  if delay.micros = 0 then f.goOn t.worker t.duty
  else { f with timers := f.timers ++ [⟨f.clock.add delay, t⟩] }

/-- A worker is done with its request. -/
def complete (f : Floor) (w : Nat) (r : Request) (result : Result) : Floor :=
  ({ f with dispatcher := f.dispatcher.countResult r result }.happen (.complete w result)).goOn w
    .look

/-- A worker waits for a request or the signal: it sees the signal, takes a request, leaves, or
stays where it is. -/
def look (f : Floor) (w : Nat) : Floor :=
  match f.pool.step (.notice w) with
  | some pool => ({ f with pool }.happen (.close w)).goOn w .look
  | none =>
    match f.pool.step (.receive w) with
    | some pool =>
      let f := { f with pool }
      match (pool.workers[w]?).bind Queue.Worker.ticket? with
      | some t => f.goOn w (.send (.start f.dispatcher.policy t.payload.request f.clock))
      | none => f
    | none => f.happen (.leave w)

/-- A worker aims its request at a server and calls the transport. -/
def send (f : Floor) (w : Nat) (c : Call) : Floor :=
  match f.dispatcher.prepare c.request with
  | (dispatcher, .error e) => { f with dispatcher }.complete w c.request (.error e)
  | (dispatcher, .ok aimed) =>
    let cue := f.script.headD {}
    let f := { f with
      dispatcher, script := f.script.tail, calls := ⟨aimed, f.clock⟩ :: f.calls }
    if f.permits = 0 then { f with gate := f.gate ++ [⟨w, .pass c aimed cue⟩] }
    else { f with permits := f.permits - 1 }.goOn w (.pass c aimed cue)

/-- Publishes instances, if the register can be reached. -/
def publish (f : Floor) (contextId : String) (instances : List Instance) : Floor :=
  if f.publishes then { f with dispatcher := f.dispatcher.publish contextId instances } else f

/-- A call to the transport goes on behind the gate, and publishes first if the script says so. -/
def pass (f : Floor) (w : Nat) (c : Call) (aimed : Request) (cue : Cue) : Floor :=
  match cue.publish with
  | some (contextId, instances) =>
    let watchers := f.dispatcher.directory.watcherCount contextId
    if f.publishes && watchers != 0 then
      { f with
        dispatcher := f.dispatcher.store contextId instances
        rounds := f.rounds ++ [{
          contextId, instances, watchers
          due := f.effort + watchers * (instances.length + 1)
          task := ⟨w, .rest c aimed cue⟩ }] }
    else (f.publish contextId instances).goOn w (.rest c aimed cue)
  | none => f.goOn w (.rest c aimed cue)

/-- A call to the transport waits as long as the script says. -/
def rest (f : Floor) (w : Nat) (c : Call) (aimed : Request) (cue : Cue) : Floor :=
  f.sleep cue.delay ⟨w, .act c aimed cue⟩

/-- The publication that is over first. -/
def nextRound? (f : Floor) : Option (Round × List Round) :=
  match f.rounds.mergeSort fun a b => a.due ≤ b.due with
  | [] => none
  | r :: rounds => some (r, rounds)

/-- A call to the transport ends. -/
def act (f : Floor) (w : Nat) (c : Call) (aimed : Request) (cue : Cue) : Floor :=
  match cue.act.reply? aimed with
  | none => f
  | some .crash => f.happen (.crash w)
  | some (.response r) => f.complete w c.request (.ok r)
  | some (.failure failure) =>
    match c.afterFailure 0 f.clock failure with
    | .error e => f.complete w c.request (.error e)
    | .ok next =>
      { f with dispatcher := f.dispatcher.countRetry c.request }.sleep next.retries.delay
        ⟨w, .send next⟩

/-- Lets the first of the workers that can go on do so; if there is none, a publication comes to its
end. -/
def tick (f : Floor) : Option Floor :=
  match f.ready with
  | [] => f.nextRound?.map fun (r, rounds) =>
    { f with
      dispatcher := f.dispatcher.spread r.contextId r.instances r.watchers
      rounds, effort := r.due }.wake r.task
  | ⟨w, duty⟩ :: ready =>
    let f := { f with ready }
    some (match duty with
      | .look => f.look w
      | .send c => f.send w c
      | .pass c aimed cue => f.pass w c aimed cue
      | .rest c aimed cue => f.rest w c aimed cue
      | .act c aimed cue => f.act w c aimed cue)

/-- Lets workers go on until all of them wait for good, for at most the given number of moves. -/
def settle : Nat → Floor → Floor
  | 0, f => f
  | fuel + 1, f =>
    match f.tick with
    | some f => settle fuel f
    | none => f

/-- A bound for the moves until all workers wait.  Between two calls to the transport a worker
makes few moves for each request that waits, and calls need permits. -/
def moves (f : Floor) : Nat :=
  12 * (f.permits + f.ready.length + f.pool.channel.waiting.length + f.pool.workers.length + 1)

def run (f : Floor) : Floor := f.settle f.moves

/-- The first worker that waits for a request. -/
def idleWorker? (f : Floor) : Option Nat :=
  (List.range f.pool.workers.length).find? fun w =>
    match f.pool.workers[w]? with
    | some .selecting => true
    | _ => false

/-- Wakes all workers that wait for a request. -/
def wakeAll (f : Floor) : Floor :=
  let idle := (List.range f.pool.workers.length).filter fun w =>
    match f.pool.workers[w]? with
    | some .selecting => true
    | _ => false
  { f with ready := f.ready ++ idle.map (⟨·, .look⟩) }

/-- Submits a request under a name. -/
def submit (f : Floor) (name : String) (r : Request) : Except Refusal Floor :=
  match f.pool.submit ⟨name, r⟩ with
  | .error refusal => .error refusal
  | .ok pool =>
    let f := { f with pool }
    .ok (match f.idleWorker? with
      | some w => (f.wake ⟨w, .look⟩).run
      | none => f)

/-- Hands out permits to the calls that wait, in order, and keeps the others. -/
def release (f : Floor) (n : Nat) : Floor :=
  { f with
    gate := f.gate.drop n
    permits := f.permits + (n - f.gate.length)
    ready := f.ready ++ f.gate.take n }.run

/-- Moves time on, and lets the tasks that are due begin in the order in which they were due. -/
def advance (f : Floor) (millis : Nat) : Floor :=
  let clock := f.clock.addMillis millis
  let (due, later) := f.timers.partition (fun t => t.due.micros ≤ clock.micros)
  let due := due.mergeSort fun a b => a.due.micros ≤ b.due.micros
  { f with clock, timers := later, ready := f.ready ++ due.map Timer.task }.run

/-- Gives the signal to stop. -/
def shutDown (f : Floor) : Floor := (f.happen .signal).wakeAll.run

def addProducer (f : Floor) : Floor := f.happen .addProducer

/-- Drops a producer; without producers the workers that wait can leave. -/
def dropProducer (f : Floor) : Floor := (f.happen .dropProducer).wakeAll.run

def abandon (f : Floor) (number : Nat) : Floor := f.happen (.abandon number)

end Floor

end Switchyard.Rehearsal
