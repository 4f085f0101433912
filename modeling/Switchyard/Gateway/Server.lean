import Switchyard.Config.Settings
import Switchyard.Gateway.Handler
import Switchyard.Transport.Client

/-!
# Serving

A gateway serves on a host.  It listens at the configured address, which needs a network, and then
takes requests in front of a queue of its own.
-/

namespace Switchyard.Gateway

/-- Why a gateway cannot listen. -/
inductive ListenFault
  | unreachable
  /-- No queue can have the capacity. -/
  | capacity
deriving DecidableEq, Repr

def ListenFault.message : ListenFault → String
  | .unreachable => "Network is unreachable (os error 101)"
  | .capacity =>
    s!"a semaphore may not have more than MAX_PERMITS permits ({Queue.Channel.largest})"

/-- What a gateway runs on. -/
structure Host where
  /-- Whether addresses can be listened at. -/
  listens : Bool
  network : Transport.Network

/-- A host that has no network. -/
def Host.isolated : Host := ⟨false, Transport.isolated⟩

/-- A gateway that takes requests. -/
structure Server where
  front : Front
  pool : Queue.DispatchPool
deriving Repr

/-- The gateway of settings, with its workers started; nothing if no queue can have the capacity. -/
def Server.make? (s : Config.GatewaySettings) : Option Server :=
  (Queue.Pool.start? s.queueCapacity.toNat s.workers.toNat).map fun pool =>
    ⟨⟨s.defaultContextId, s.maxBody.toNat⟩, pool⟩

/-- Starts a gateway that listens on a host. -/
def Server.listen (h : Host) (s : Config.GatewaySettings) : Except ListenFault Server :=
  if h.listens then
    match make? s with
    | some server => .ok server
    | none => .error .capacity
  else .error .unreachable

end Switchyard.Gateway
