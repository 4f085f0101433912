import Switchyard.Config.Validation
import Switchyard.Gateway.Launch
import Switchyard.Proofs.Attempts
import Switchyard.Proofs.QueueRest

/-!
# Which settings a gateway can be launched with

Settings without faults ask for at least one worker, one attempt and one place in the queue
(`Config.faults_eq_nil_iff`), so a gateway that is launched with them has what they ask for.  There
is no bound above: with a capacity beyond that of any channel no gateway is launched, whatever else
the settings say (`Gateway.Site.launches_iff`).
-/

namespace Switchyard

theorem Config.faults_eq_nil_iff (s : Settings) : faults s = [] ↔
    registerFaults s.register = []
      ∧ (s.register.retry.maxAttempts ≠ 0 ∧ s.register.retry.period ≤ s.register.retry.maxPeriod)
      ∧ (s.gateway.workers ≠ 0 ∧ s.gateway.queueCapacity ≠ 0)
      ∧ s.transport.requestTimeout ≠ 0 := by
  simp [faults, retryFaults, gatewayFaults, and_assoc]

theorem one_le_toNat {n : UInt64} (h : n ≠ 0) : 1 ≤ n.toNat := by
  have hne : n.toNat ≠ 0 := fun h0 => h (UInt64.toNat_inj.mp h0)
  omega

namespace Queue.Pool

variable {α β : Type} {capacity workers : Nat} {signal : Signal}

theorem submit_start (a : α) :
    ∃ p : Pool α β, (start capacity workers signal).submit a = .ok p := by
  have hroom : 0 < max capacity 1 := Nat.lt_of_lt_of_le Nat.one_pos (Nat.le_max_right capacity 1)
  have hoffer : (start capacity workers signal : Pool α β).offer a = .ok _ :=
    Channel.offer_of_room _ rfl hroom
  exact ⟨_, by rw [submit, hoffer]⟩

theorem receivers_start {w : Nat} (hw : w < max workers 1) :
    (start capacity workers signal : Pool α β).signal.receivers[signal.receivers.length + w]?
      = some (some signal.sent) := by
  rw [start, Signal.receivers_subscribeAll, List.getElem?_append_right (Nat.le_add_right _ w),
    Nat.add_sub_cancel_left, List.getElem?_replicate, if_pos hw]

end Queue.Pool

namespace Gateway.Site

open Balance (Balancer)
open Dispatch (Dispatcher)
open Queue (Channel Pool Submission Ticket)

variable {s : Config.Settings} {register : Option Register} {balancers : List (String × Balancer)}
  {signal : Signal} {site : Site}

theorem launch?_eq_none_iff : launch? s register balancers signal = none
    ↔ Channel.largest < s.gateway.queueCapacity.toNat := by
  rw [launch?, Option.map_eq_none_iff, Pool.start?_eq_none_iff]

theorem launch?_eq_some (h : launch? s register balancers signal = some site) :
    site = start ⟨s.gateway.defaultContextId, s.gateway.maxBody.toNat⟩
      s.gateway.queueCapacity.toNat s.gateway.workers.toNat signal
      (.make s register balancers) ∧ s.gateway.queueCapacity.toNat ≤ Channel.largest := by
  obtain ⟨pool, hpool, rfl⟩ := Option.map_eq_some_iff.mp h
  unfold Pool.start? at hpool
  split at hpool
  · next hle =>
    cases hpool
    exact ⟨rfl, hle⟩
  · cases hpool

theorem listen_eq_capacity_iff (s : Config.Settings) (host : Host) :
    Server.listen host s.gateway = .error .capacity
      ↔ host.listens = true ∧ Channel.largest < s.gateway.queueCapacity.toNat := by
  have hmake : Server.make? s.gateway = none
      ↔ Channel.largest < s.gateway.queueCapacity.toNat := by
    rw [Server.make?_eq_map_launch? s none [], Option.map_eq_none_iff, launch?_eq_none_iff]
  rw [← hmake, Server.listen]
  split_ifs with hlistens
  · cases Server.make? s.gateway <;> simp [hlistens]
  · simp [hlistens]

/-- Settings without faults launch a gateway if and only if there can be a channel of the capacity
that they ask for.  The gateway has just this channel, which is empty and takes requests, as many
workers as they ask for, all of them waiting and subscribed to the signal, and the dispatcher of the
settings, with as many attempts as they allow.  Where none is launched, a host that could listen
reports the capacity. -/
theorem launches_iff (hs : Config.faults s = []) (register : Option Register)
    (balancers : List (String × Balancer)) (signal : Signal) :
    (launch? s register balancers signal = none
      ↔ Channel.largest < s.gateway.queueCapacity.toNat)
    ∧ (∀ host, Server.listen host s.gateway = .error .capacity
      ↔ host.listens = true ∧ launch? s register balancers signal = none)
    ∧ ∀ site, launch? s register balancers signal = some site →
        Channel.open? s.gateway.queueCapacity.toNat = some site.pool.channel
        ∧ (1 ≤ s.gateway.workers.toNat
          ∧ site.pool.workers = List.replicate s.gateway.workers.toNat .selecting
          ∧ ∀ w < s.gateway.workers.toNat,
            site.pool.signal.receivers[site.pool.firstReceiver + w]? = some (some signal.sent))
        ∧ (∀ a, ∃ pool, site.pool.submit a = .ok pool)
        ∧ (site.traffic = .start (.make s register balancers)
          ∧ site.traffic.dispatcher.policy.maxAttempts
            = if s.register.retry.enabled then s.register.retry.maxAttempts else 1) := by
  obtain ⟨-, ⟨hattempts, -⟩, ⟨hworkers, hcapacity⟩, -⟩ := (Config.faults_eq_nil_iff s).mp hs
  have hone := one_le_toNat hworkers
  have hroom := one_le_toNat hcapacity
  refine ⟨launch?_eq_none_iff, fun host => ?_, fun site h => ?_⟩
  · rw [listen_eq_capacity_iff, launch?_eq_none_iff]
  obtain ⟨rfl, hle⟩ := launch?_eq_some h
  -- what is clamped at the start was no less before
  have hmax : max s.gateway.workers.toNat 1 = s.gateway.workers.toNat := Nat.max_eq_left hone
  refine ⟨?_, ⟨hone, ?_, fun w hw => ?_⟩, fun a => ?_, rfl, ?_⟩
  · rw [Channel.open?, if_neg (by omega)]
    show _ = some (Channel.make _)
    rw [Channel.make, Nat.max_eq_left hroom]
  · show List.replicate (max s.gateway.workers.toNat 1) _ = _
    rw [hmax]
  · exact Pool.receivers_start (hmax.symm ▸ hw)
  · exact Pool.submit_start a
  · show (Retry.Policy.ofSettings s.register.retry).maxAttempts = _
    unfold Retry.Policy.ofSettings
    split
    · exact if_neg hattempts
    · rfl

def vast (capacity : UInt64) : Config.Settings where
  register := { kind := Config.localKind, servers := "10.0.0.1:80" }
  gateway := { queueCapacity := capacity }

/-- Without a fault, one beyond the largest capacity, and at it. -/
theorem launches_iff_vast : Config.faults (vast 0x2000000000000000) = []
    ∧ launch? (vast 0x2000000000000000) none [] .make = none
    ∧ Server.listen ⟨true, Transport.isolated⟩ (vast 0x2000000000000000).gateway = .error .capacity
    ∧ ∃ site, launch? (vast 0x1fffffffffffffff) none [] .make = some site
      ∧ site.pool.channel.capacity = 0x1fffffffffffffff ∧ site.pool.workers.length = 4 := by
  have hbeyond : Config.faults (vast 0x2000000000000000) = [] := rfl
  have hlargest : Config.faults (vast 0x1fffffffffffffff) = [] := rfl
  obtain ⟨hnone, hlisten, -⟩ := launches_iff hbeyond none [] .make
  obtain ⟨hsome, -, hsite⟩ := launches_iff hlargest none [] .make
  have hlaunch := hnone.mpr (by decide)
  refine ⟨hbeyond, hlaunch, (hlisten _).mpr ⟨rfl, hlaunch⟩, ?_⟩
  obtain ⟨site, h⟩ := Option.ne_none_iff_exists'.mp (mt hsome.mp (by decide))
  obtain ⟨hchannel, ⟨-, hworkers, -⟩, -⟩ := hsite site h
  refine ⟨site, h, ?_, by rw [hworkers]; rfl⟩
  exact congrArg Channel.capacity (Option.some.inj hchannel).symm

end Gateway.Site

end Switchyard
