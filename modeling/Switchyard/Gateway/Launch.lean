import Switchyard.Gateway.Server
import Switchyard.Gateway.Site

/-!
# Launching a gateway

A gateway is launched from settings and a signal to stop: a dispatcher is made, a queue is opened,
and workers are started on it.  What the settings ask for is not always to be had: there are
capacities that no channel has.
-/

namespace Switchyard.Gateway

open Balance (Balancer)
open Dispatch (Dispatcher)

/-- The gateway of settings; nothing if no queue can have the capacity. -/
def Site.launch? (s : Config.Settings) (register : Option Register)
    (balancers : List (String × Balancer)) (signal : Signal) : Option Site :=
  (Queue.Pool.start? s.gateway.queueCapacity.toNat s.gateway.workers.toNat signal).map fun pool =>
    { front := ⟨s.gateway.defaultContextId, s.gateway.maxBody.toNat⟩
      pool
      traffic := .start (Dispatcher.make s register balancers)
      visits := []
      metrics := .empty }

/-- What a host serves is launched, with a signal of its own. -/
theorem Server.make?_eq_map_launch? (s : Config.Settings) (register : Option Register)
    (balancers : List (String × Balancer)) : Server.make? s.gateway
      = (Site.launch? s register balancers .make).map fun site => ⟨site.front, site.pool⟩ := by
  rw [Server.make?, Site.launch?, Option.map_map]
  rfl

end Switchyard.Gateway
