import Switchyard.Gateway.Site
import Switchyard.Proofs.QueuePlaces
import Switchyard.Proofs.TrafficStep

/-!
# What an event does to a gateway at work

`Site.Step` lists what can happen at a gateway and what comes of it.  A request that comes is
turned away for one of three reasons (`Front.Refuses`), with nothing changed behind the front, or
it is let in.

Visits, requests of the queue and trips belong together (`Site.Linked`): the visits that were let
in have the numbers of the queue in order, the trip that began when a worker took a number is one
for the request of that number, and the answer to it is how that trip has ended.
-/

namespace Switchyard

namespace Queue

variable {α β : Type} {p q : Pool α β}

namespace Pool

theorem ticketAt_eq_some_iff {w : Nat} {t : Ticket α} :
    p.ticketAt w = some t ↔ ∃ drains, p.workers[w]? = some (.serving t drains) := by
  unfold ticketAt
  rw [Option.bind_eq_some_iff]
  constructor
  · rintro ⟨x, hx, ht⟩
    cases x <;> simp only [Worker.ticket?, reduceCtorEq, Option.some.injEq] at ht
    exact ⟨_, ht ▸ hx⟩
  · rintro ⟨drains, h⟩
    exact ⟨_, h, rfl⟩

theorem Accounted.nodup_received (h : p.Accounted) : (p.received ++ p.waitingNumbers).Nodup :=
  h.order.sublist.nodup List.nodup_range

/-- A request that waits is not answered, and none is answered twice. -/
theorem Accounted.count_answered (h : p.Accounted) (n : Nat) :
    p.waitingNumbers.count n + p.heldNumbers.count n + p.answeredNumbers.count n ≤ 1 := by
  rw [h.places n]
  exact List.nodup_iff_count_le_one.mp List.nodup_range n

theorem Accounted.not_answered (h : p.Accounted) {n : Nat} {a : Answer β}
    (hn : n ∈ p.waitingNumbers ∨ n ∈ p.heldNumbers) : (n, a) ∉ p.answers := by
  intro ha
  have hle := h.count_answered n
  have hans : 0 < p.answeredNumbers.count n :=
    List.count_pos_iff.mpr (List.mem_map_of_mem (f := (·.1)) ha)
  rcases hn with hn | hn
  · have := List.count_pos_iff.mpr hn
    omega
  · have := List.count_pos_iff.mpr hn
    omega

/-- What stays as it is while requests stay where they are. -/
theorem Step.aside {e : Event α β} (h : Step p e q) (he : e.movesRequest = false) :
    q.requests = p.requests ∧ q.received = p.received ∧ q.answers = p.answers
      ∧ q.unread = p.unread ∧ ∀ n ∈ p.abandoned, n ∈ q.abandoned := by
  cases h with
  | accept | refuse | receive | complete | crash => cases he
  | abandon number => exact ⟨rfl, rfl, rfl, rfl, fun n hn => List.mem_cons_of_mem _ hn⟩
  | _ => exact ⟨rfl, rfl, rfl, rfl, fun n hn => hn⟩

theorem Step.received_eq {w : Nat} (h : Step p (.receive w) q) : ∃ t rest,
    p.channel.waiting = t :: rest ∧ q.ticketAt w = some t ∧ q.requests = p.requests
      ∧ q.received = p.received ++ [t.number] ∧ q.answers = p.answers ∧ q.unread = p.unread
      ∧ q.abandoned = p.abandoned := by
  cases h with
  | @receive _ drains t rest hw hc =>
    refine ⟨t, rest, hc, ticketAt_eq_some_iff.mpr ⟨drains, ?_⟩, rfl, rfl, rfl, rfl, rfl⟩
    exact List.getElem?_set_self (List.getElem?_eq_some_iff.mp hw).1

/-- Nobody is left without an answer who has not given up waiting for it. -/
def Wanted (p : Pool α β) : Prop := ∀ n ∈ p.unread, n ∈ p.abandoned

theorem Wanted.reply (h : p.Wanted) (number : Nat) (a : Answer β) : (p.reply number a).Wanted := by
  intro n hn
  simp only [Pool.reply] at hn ⊢
  split_ifs at hn with hm
  · rcases List.mem_append.mp hn with hn | hn
    · exact h n hn
    · exact List.mem_singleton.mp hn ▸ hm
  · exact h n hn

theorem Wanted.dropAll : ∀ (ts : List (Ticket α)) {p : Pool α β}, p.Wanted → (p.dropAll ts).Wanted
  | [], _, h => h
  | t :: ts, _, h => Wanted.dropAll ts (h.reply t.number .dropped)

theorem Wanted.step {e : Event α β} (h : p.Wanted) (hs : Step p e q) : q.Wanted := by
  cases hs with
  | abandon number => exact fun n hn => List.mem_cons_of_mem _ (h n hn)
  | @complete w t drains b hw => exact h.reply t.number (.result b)
  | @crash w t drains hw =>
    have hq : ((p.reply t.number .dropped).retire w (.dead drains)).Wanted :=
      h.reply t.number .dropped
    unfold closeIfDeserted
    split_ifs
    · exact Wanted.dropAll _ hq
    · exact hq
  | _ => exact h

theorem Step.completed_eq {w : Nat} {t : Ticket α} {b : β} (h : Step p (.complete w b) q)
    (ht : p.ticketAt w = some t) :
    q.requests = p.requests ∧ q.received = p.received
      ∧ q.answers = p.answers ++ [(t.number, .result b)] := by
  obtain ⟨drains, ht⟩ := ticketAt_eq_some_iff.mp ht
  cases h with
  | complete hw =>
    rw [ht, Option.some.injEq, Worker.serving.injEq] at hw
    obtain ⟨rfl, -⟩ := hw
    exact ⟨rfl, rfl, rfl⟩

/-- A worker that breaks down drops its request, and perhaps what waits. -/
theorem Step.crashed_eq {w : Nat} {t : Ticket α} (h : Step p (.crash w) q)
    (ht : p.ticketAt w = some t) :
    q.requests = p.requests ∧ q.received = p.received
      ∧ ∀ n a, (n, a) ∈ q.answers → (n, a) ∈ p.answers
        ∨ a = .dropped ∧ (n = t.number ∨ n ∈ p.waitingNumbers) := by
  obtain ⟨drains, ht⟩ := ticketAt_eq_some_iff.mp ht
  cases h with
  | @crash _ t' drains' hw =>
    rw [ht, Option.some.injEq, Worker.serving.injEq] at hw
    obtain ⟨rfl, rfl⟩ := hw
    rcases closeIfDeserted_cases ((p.reply t.number .dropped).retire w (.dead drains)) with
      ⟨-, hq⟩ | ⟨-, unread, hq⟩ <;> rw [hq]
    · refine ⟨rfl, rfl, fun n a ha => ?_⟩
      rcases List.mem_append.mp ha with ha | ha
      · exact Or.inl ha
      · obtain ⟨rfl, rfl⟩ := Prod.mk.inj (List.mem_singleton.mp ha)
        exact Or.inr ⟨rfl, Or.inl rfl⟩
    · refine ⟨rfl, rfl, fun n a ha => ?_⟩
      rcases List.mem_append.mp ha with ha | ha
      · rcases List.mem_append.mp ha with ha | ha
        · exact Or.inl ha
        · obtain ⟨rfl, rfl⟩ := Prod.mk.inj (List.mem_singleton.mp ha)
          exact Or.inr ⟨rfl, Or.inl rfl⟩
      · obtain ⟨t', ht', heq⟩ := List.mem_map.mp ha
        obtain ⟨rfl, rfl⟩ := Prod.mk.inj heq
        exact Or.inr ⟨rfl, Or.inr (List.mem_map_of_mem (f := (·.number)) ht')⟩

end Pool

end Queue

namespace Dispatch

/-- The answer to a request whose execution has ended. -/
def Ending.answer : Ending → Queue.Answer Queue.Result
  | .answered result => .result result
  | .crashed => .dropped

namespace Traffic

variable {s t : Traffic} {e : Event}

/-- Trips stay the trips of their requests, and those that have ended stay as they are. -/
theorem Step.trips_cases (h : Step s e t) (he : e.isArrival = false) :
    t.trips.length = s.trips.length ∧ ∀ (k : Nat) (trip : Trip), t.trips[k]? = some trip →
      ∃ old : Trip, s.trips[k]? = some old ∧ trip.request = old.request
        ∧ ∀ ending, old.progress = .ended ending → trip = old := by
  cases h with
  | arrive => cases he
  | publish => exact ⟨rfl, fun k trip hk => ⟨trip, hk, rfl, fun _ _ => rfl⟩⟩
  | goOn hi hg =>
    refine ⟨List.length_set, fun k trip hk => ?_⟩
    rcases getElem?_set_cases hi hk with ⟨rfl, rfl⟩ | ⟨-, hk⟩
    · exact ⟨_, hi, hg.request_eq, fun ending hp => absurd hp (hg.not_ended ending)⟩
    · exact ⟨trip, hk, rfl, fun _ _ => rfl⟩

end Traffic

end Dispatch

namespace Gateway

open Dispatch (Dispatcher Ending Traffic Trip)
open Queue (Answer DispatchPool Pool Refusal Result Submission Ticket)

/-- The reasons to turn a request away, in the order in which they count. -/
inductive Front.Refuses (g : Front) (i : Inbound) (p : DispatchPool) : Course → Prop
  | noCluster (h : g.admit i = .noCluster) : Refuses g i p .noCluster
  | tooLarge (h : g.admit i = .tooLarge) : Refuses g i p .tooLarge
  | refused {x : Submission} {r : Refusal} (h : g.admit i = .admitted x)
    (hr : p.offer x = .error r) : Refuses g i p (.refused r)

/-- Counts a request that is turned away, if that is counted. -/
def Course.count (m : Metrics) : Course → Metrics
  | .refused .full => m.rejection
  | _ => m

theorem Front.refuses_or (g : Front) (i : Inbound) (p : DispatchPool) :
    (∃ course, g.Refuses i p course)
      ∨ ∃ x channel, g.admit i = .admitted x ∧ p.offer x = .ok channel := by
  cases hg : g.admit i with
  | noCluster => exact Or.inl ⟨_, .noCluster hg⟩
  | tooLarge => exact Or.inl ⟨_, .tooLarge hg⟩
  | admitted x =>
    cases ho : p.offer x with
    | ok channel => exact Or.inr ⟨x, channel, rfl, ho⟩
    | error r => exact Or.inl ⟨_, .refused hg ho⟩

theorem Front.Refuses.enqueue_eq {g : Front} {i : Inbound} {p : DispatchPool} {course : Course}
    (h : g.Refuses i p course) (m : Metrics) :
    g.enqueue i p m = (p, course.count m, some course) := by
  cases h with
  | noCluster h | tooLarge h =>
    simp only [enqueue, h]
    rfl
  | @refused x r h hr => cases r <;> simp only [enqueue, h, Pool.submit, hr, Course.count]

/-- The number of a visit in the queue. -/
def Visit.number? (v : Visit) : Option Nat := v.place.toOption

theorem Visit.number?_eq_some_iff {v : Visit} {n : Nat} : v.number? = some n ↔ v.place = .ok n := by
  unfold number?
  cases v.place <;> simp [Except.toOption]

namespace Site

/-- The rules by which things happen at a gateway. -/
inductive Step (s : Site) : Event → Site → Prop
  | refuse {i : Inbound} {fresh : List UInt8} {course : Course}
    (h : s.front.Refuses (withId fresh i) s.pool course) : Step s (.arrive i fresh)
      { s with
        visits := s.visits ++ [⟨i, fresh, .error course⟩]
        metrics := course.count s.metrics }
  | letIn {i : Inbound} {fresh : List UInt8} {x : Submission}
    {channel : Queue.Channel (Ticket Submission)}
    (h : s.front.admit (withId fresh i) = .admitted x) (ho : s.pool.offer x = .ok channel) :
    Step s (.arrive i fresh)
      { s with
        pool := { s.pool with channel, requests := s.pool.requests ++ [x] }
        visits := s.visits ++ [⟨i, fresh, .ok s.pool.accepted⟩] }
  | receive {w : Nat} {now : Span} {pool : DispatchPool} {t : Ticket Submission}
    {traffic : Traffic} (h : Pool.Step s.pool (.receive w) pool) (ht : pool.ticketAt w = some t)
    (hb : s.traffic.step (.arrive t.payload.request now) = some traffic) :
    Step s (.receive w now) { s with pool, traffic }
  | queue {e : Queue.Event Submission Result} {pool : DispatchPool}
    (he : e.movesRequest = false) (h : Pool.Step s.pool e pool) :
    Step s (.queue e) { s with pool }
  | travel {e : Traffic.Event} {traffic : Traffic} (he : e.isArrival = false)
    (h : s.traffic.step e = some traffic) : Step s (.travel e) { s with traffic }
  | answer {w : Nat} {t : Ticket Submission} {trip : Trip} {result : Result}
    {pool : DispatchPool} (hw : s.pool.ticketAt w = some t)
    (ht : s.tripOf? t.number = some trip) (hp : trip.progress = .ended (.answered result))
    (h : Pool.Step s.pool (.complete w result) pool) : Step s (.reply w) { s with pool }
  | crash {w : Nat} {t : Ticket Submission} {trip : Trip} {pool : DispatchPool}
    (hw : s.pool.ticketAt w = some t) (ht : s.tripOf? t.number = some trip)
    (hp : trip.progress = .ended .crashed) (h : Pool.Step s.pool (.crash w) pool) :
    Step s (.reply w) { s with pool }

variable {s t : Site} {e : Event}

theorem inPool_eq_some {e : Queue.Event Submission Result} (h : s.inPool e = some t) :
    ∃ pool, Pool.Step s.pool e pool ∧ t = { s with pool } := by
  obtain ⟨pool, hp, rfl⟩ := Option.map_eq_some_iff.mp h
  exact ⟨pool, .of_step hp, rfl⟩

theorem inTraffic_eq_some {e : Traffic.Event} (h : s.inTraffic e = some t) :
    ∃ traffic, s.traffic.step e = some traffic ∧ t = { s with traffic } := by
  obtain ⟨traffic, ht, rfl⟩ := Option.map_eq_some_iff.mp h
  exact ⟨traffic, ht, rfl⟩

theorem Step.step_eq (h : Step s e t) : s.step e = some t := by
  cases h with
  | refuse h => simp only [step, Site.arrive, h.enqueue_eq]
  | letIn h ho => simp only [step, Site.arrive, Front.enqueue, h, Pool.submit, ho]
  | receive h ht hb =>
    simp only [step, inPool, h.step_eq, Option.map_some, ht, inTraffic, hb]
  | queue he h =>
    simp only [step, he, Bool.false_eq_true, ↓reduceIte, inPool, h.step_eq, Option.map_some]
  | travel he h =>
    simp only [step, he, Bool.false_eq_true, ↓reduceIte, inTraffic, h, Option.map_some]
  | @answer w t trip result pool hw ht hp h =>
    obtain ⟨r, offered, progress⟩ := trip
    cases hp
    simp only [step, hw, Option.bind_some, ht, inPool, h.step_eq, Option.map_some]
  | @crash w t trip pool hw ht hp h =>
    obtain ⟨r, offered, progress⟩ := trip
    cases hp
    simp only [step, hw, Option.bind_some, ht, inPool, h.step_eq, Option.map_some]

/-- A request that comes is turned away or let in. -/
theorem Step.arrive (s : Site) (i : Inbound) (fresh : List UInt8) :
    Step s (.arrive i fresh) (s.arrive i fresh) := by
  rcases s.front.refuses_or (withId fresh i) s.pool with ⟨course, hc⟩ | ⟨x, channel, ha, ho⟩
  · have h := Step.refuse hc
    rwa [← Option.some.inj h.step_eq] at h
  · have h := Step.letIn ha ho
    rwa [← Option.some.inj h.step_eq] at h

theorem Step.of_step (h : s.step e = some t) : Step s e t := by
  cases e with
  | arrive i fresh => exact Option.some.inj h ▸ .arrive s i fresh
  | receive w now =>
    simp only [step] at h
    split at h
    · rename_i u hu
      obtain ⟨pool, hp, rfl⟩ := inPool_eq_some hu
      split at h
      · rename_i k hk
        obtain ⟨traffic, ht, rfl⟩ := inTraffic_eq_some h
        exact .receive hp hk ht
      · cases h
    · cases h
  | queue e =>
    simp only [step] at h
    split_ifs at h with he
    obtain ⟨pool, hp, rfl⟩ := inPool_eq_some h
    exact .queue (Bool.not_eq_true _ ▸ he) hp
  | travel e =>
    simp only [step] at h
    split_ifs at h with he
    obtain ⟨traffic, ht, rfl⟩ := inTraffic_eq_some h
    exact .travel (Bool.not_eq_true _ ▸ he) ht
  | reply w =>
    simp only [step] at h
    split at h
    · rename_i result ho
      obtain ⟨k, hw, ht⟩ := Option.bind_eq_some_iff.mp ho
      obtain ⟨pool, hp, rfl⟩ := inPool_eq_some h
      exact .answer hw ht rfl hp
    · rename_i ho
      obtain ⟨k, hw, ht⟩ := Option.bind_eq_some_iff.mp ho
      obtain ⟨pool, hp, rfl⟩ := inPool_eq_some h
      exact .crash hw ht rfl hp
    · cases h

/-- What every event keeps is kept by every run. -/
theorem run_keeps {P : Site → Prop} (hP : ∀ {s t : Site} {e : Event}, P s → Step s e t → P t) :
    ∀ {es : List Event} {s t : Site}, P s → s.run es = some t → P t
  | [], _, _, hs, h => Option.some.inj h ▸ hs
  | _ :: _, _, _, hs, h =>
    let ⟨_, hu, ht⟩ := Option.bind_eq_some_iff.mp h
    run_keeps hP (hP hs (.of_step hu)) ht

/-- What has come to hold in a run came to hold at some event. -/
theorem run_moment {P : Site → Prop} : ∀ {es : List Event} {s t : Site}, s.run es = some t →
    ¬P s → P t → ∃ before e after u v, es = before ++ e :: after ∧ s.run before = some u
      ∧ Step u e v ∧ v.run after = some t ∧ ¬P u ∧ P v
  | [], _, _, h, hs, ht => absurd (Option.some.inj h ▸ ht) hs
  | e :: es, s, t, h, hs, ht => by
    obtain ⟨v, hv, hrun⟩ := Option.bind_eq_some_iff.mp h
    by_cases hP : P v
    · exact ⟨[], e, es, s, v, rfl, rfl, .of_step hv, hrun, hs, hP⟩
    · obtain ⟨before, e', after, u, v', rfl, hb, hstep, ha, hu, hv'⟩ := run_moment hrun hP ht
      refine ⟨e :: before, e', after, u, v', rfl, ?_, hstep, ha, hu, hv'⟩
      rw [run, hv]
      exact hb

theorem Step.front_eq (h : Step s e t) : t.front = s.front := by
  cases h <;> rfl

/-- What happens at a gateway is traffic to its dispatcher. -/
theorem run_traffic {es : List Event} (h : s.run es = some t) :
    ∃ es', s.traffic.run es' = some t.traffic := by
  induction es generalizing s with
  | nil => exact ⟨[], congrArg (Option.map traffic) h⟩
  | cons e es ih =>
    obtain ⟨u, hu, ht⟩ := Option.bind_eq_some_iff.mp h
    obtain ⟨es', hrun⟩ := ih ht
    have hcons : ∀ e', s.traffic.step e' = some u.traffic →
        ∃ es', s.traffic.run es' = some t.traffic :=
      fun e' he => ⟨e' :: es', by rw [Traffic.run, he]; exact hrun⟩
    cases Step.of_step hu with
    | receive _ _ hb => exact hcons _ hb
    | travel _ hb => exact hcons _ hb
    | _ => exact ⟨es', hrun⟩

/-- How visits, requests of the queue and trips belong together. -/
structure Linked (s : Site) : Prop where
  accounted : s.pool.Accounted
  wanted : s.pool.Wanted
  /-- Those that were let in have the numbers of the queue in order. -/
  numbers : s.visits.filterMap Visit.number? = List.range s.pool.accepted
  admitted : ∀ v ∈ s.visits, ∀ n, v.number? = some n →
    ∃ x, s.front.admit v.received = .admitted x ∧ s.pool.requests[n]? = some x
  began : s.traffic.trips.length = s.pool.received.length
  made : ∀ (k n : Nat) (trip : Trip), s.pool.received[k]? = some n →
    s.traffic.trips[k]? = some trip →
    ∃ x : Submission, s.pool.requests[n]? = some x ∧ trip.request = x.request
  answered : ∀ (k n : Nat) (trip : Trip) (a : Answer Result), s.pool.received[k]? = some n →
    s.traffic.trips[k]? = some trip → (n, a) ∈ s.pool.answers →
    ∃ ending : Ending, trip.progress = .ended ending ∧ a = ending.answer
  /-- Only requests that were dropped while they waited are answered without a trip. -/
  results : ∀ (n : Nat) (result : Result), (n, .result result) ∈ s.pool.answers →
    ∃ (k : Nat) (trip : Trip), s.pool.received[k]? = some n ∧ s.traffic.trips[k]? = some trip
      ∧ trip.progress = .ended (.answered result)

theorem Linked.tripOf?_eq (h : s.Linked) {k n : Nat} (hk : s.pool.received[k]? = some n) :
    s.tripOf? n = s.traffic.trips[k]? := by
  obtain ⟨hlt, rfl⟩ := List.getElem?_eq_some_iff.mp hk
  have hnodup := (List.nodup_append.mp h.accounted.nodup_received).1
  rw [tripOf?, hnodup.idxOf_getElem k hlt]

/-- A worker that is done with a request answers it with how the trip has ended. -/
theorem Linked.reply {pool : DispatchPool} {k : Ticket Submission} {trip : Trip}
    {ending : Ending} {e : Queue.Event Submission Result} (h : s.Linked)
    (hp : Pool.Step s.pool e pool)
    (ht : s.tripOf? k.number = some trip) (hended : trip.progress = .ended ending)
    (hreq : pool.requests = s.pool.requests) (hrec : pool.received = s.pool.received)
    (hans : ∀ n a, (n, a) ∈ pool.answers → (n, a) ∈ s.pool.answers
      ∨ a = ending.answer ∧ (n = k.number ∨ a = .dropped ∧ n ∈ s.pool.waitingNumbers)) :
    Linked { s with pool } where
  accounted := h.accounted.step hp
  wanted := h.wanted.step hp
  numbers := by simpa only [Pool.accepted, hreq] using h.numbers
  admitted := by simpa only [hreq] using h.admitted
  began := by simpa only [hrec] using h.began
  made := by simpa only [hreq, hrec] using h.made
  answered j n trip' a hj hj' ha := by
    simp only [hrec] at hj
    rcases hans n a ha with ha | ⟨rfl, rfl | ⟨-, hn⟩⟩
    · exact h.answered j n trip' a hj hj' ha
    · have htrip := (h.tripOf?_eq hj).symm.trans ht
      exact ⟨ending, by rw [← hended, Option.some.inj (hj'.symm.trans htrip)], rfl⟩
    · -- what waits was not taken
      exact absurd hn ((List.nodup_append.mp h.accounted.nodup_received).2.2 n
        (List.mem_of_getElem? hj) n · rfl)
  results n result ha := by
    simp only [hrec]
    rcases hans n _ ha with ha | ⟨hend, rfl | ⟨hd, -⟩⟩
    · exact h.results n result ha
    · have hlt : s.pool.received.idxOf k.number < s.pool.received.length :=
        h.began ▸ (List.getElem?_eq_some_iff.mp ht).1
      refine ⟨_, trip, ?_, ht, ?_⟩
      · rw [List.getElem?_eq_getElem hlt, List.getElem_idxOf]
      · cases ending with
        | answered => cases hend; exact hended
        | crashed => cases hend
    · cases hd

/-- A request that is turned away is none of the queue. -/
theorem Linked.refuse {v : Visit} (h : s.Linked) (hv : v.number? = none) (metrics : Metrics) :
    Linked { s with visits := s.visits ++ [v], metrics } where
  accounted := h.accounted
  wanted := h.wanted
  numbers := by
    rw [List.filterMap_append, h.numbers, List.filterMap_cons, hv]
    exact List.append_nil _
  admitted u hu n hn := by
    rcases List.mem_append.mp hu with hu | hu
    · exact h.admitted u hu n hn
    · rw [List.mem_singleton.mp hu, hv] at hn
      cases hn
  began := h.began
  made := h.made
  answered := h.answered
  results := h.results

/-- A request that is let in has the next number of the queue. -/
theorem Linked.letIn {v : Visit} {x : Submission} {channel : Queue.Channel (Ticket Submission)}
    (h : s.Linked) (hv : v.number? = some s.pool.accepted)
    (ha : s.front.admit v.received = .admitted x) (ho : s.pool.offer x = .ok channel) :
    Linked { s with
      pool := { s.pool with channel, requests := s.pool.requests ++ [x] }
      visits := s.visits ++ [v] } where
  accounted := h.accounted.accept ho
  wanted := h.wanted
  numbers := by
    rw [List.filterMap_append, h.numbers, List.filterMap_cons, hv]
    simp [Pool.accepted, List.range_succ]
  admitted u hu n hn := by
    rcases List.mem_append.mp hu with hu | hu
    · obtain ⟨y, hy, hn⟩ := h.admitted u hu n hn
      exact ⟨y, hy, Queue.getElem?_append_of_some hn⟩
    · rw [List.mem_singleton.mp hu] at hn ⊢
      rw [hv, Option.some.injEq] at hn
      subst hn
      exact ⟨x, ha, List.getElem?_concat_length⟩
  began := h.began
  made k n trip hk ht := by
    obtain ⟨y, hy, hreq⟩ := h.made k n trip hk ht
    exact ⟨y, Queue.getElem?_append_of_some hy, hreq⟩
  answered := h.answered
  results := h.results

/-- When a worker takes a request, a trip begins for it. -/
theorem Linked.receive {w : Nat} {now : Span} {pool : DispatchPool} {k : Ticket Submission}
    {traffic : Traffic} (h : s.Linked) (hp : Pool.Step s.pool (.receive w) pool)
    (hk : pool.ticketAt w = some k)
    (hb : s.traffic.step (.arrive k.payload.request now) = some traffic) :
    Linked { s with pool, traffic } := by
  obtain ⟨k', rest, hwait, hk', hreq, hrec, hans, -, -⟩ := hp.received_eq
  obtain rfl := Option.some.inj (hk'.symm.trans hk)
  have hmem : k' ∈ s.pool.channel.waiting := hwait ▸ List.mem_cons_self
  have hwaits : k'.number ∈ s.pool.waitingNumbers := List.mem_map_of_mem hmem
  obtain rfl := Option.some.inj hb
  -- a trip has been there before, or it is the one for what was taken
  have htrips : ∀ {j n : Nat} {trip : Trip}, pool.received[j]? = some n →
      (s.traffic.trips ++ [⟨k'.payload.request, none,
        .preparing (.start s.traffic.dispatcher.policy k'.payload.request now)⟩])[j]? = some trip →
      s.pool.received[j]? = some n ∧ s.traffic.trips[j]? = some trip
        ∨ n = k'.number ∧ trip.request = k'.payload.request := by
    intro j n trip hj ht
    rw [hrec] at hj
    rcases Dispatch.getElem?_concat_cases ht with ht | ⟨rfl, rfl⟩
    · rw [List.getElem?_append_left (h.began ▸ (List.getElem?_eq_some_iff.mp ht).1)] at hj
      exact Or.inl ⟨hj, ht⟩
    · rw [h.began, List.getElem?_concat_length, Option.some.injEq] at hj
      exact Or.inr ⟨hj.symm, rfl⟩
  refine ⟨h.accounted.step hp, h.wanted.step hp, ?_, ?_, ?_, fun j n trip hj ht => ?_,
    fun j n trip a hj ht ha => ?_, fun n result ha => ?_⟩
  · simpa only [Pool.accepted, hreq] using h.numbers
  · simpa only [hreq] using h.admitted
  · simp only [hrec, List.length_append, List.length_singleton, h.began]
  · rw [hreq]
    rcases htrips hj ht with ⟨hj, ht⟩ | ⟨rfl, htrip⟩
    · exact h.made j n trip hj ht
    · exact ⟨_, h.accounted.payload k' (List.mem_append_left _ hmem), htrip⟩
  · simp only [hans] at ha
    rcases htrips hj ht with ⟨hj, ht⟩ | ⟨rfl, -⟩
    · exact h.answered j n trip a hj ht ha
    · exact absurd ha (h.accounted.not_answered (Or.inl hwaits))
  · simp only [hans] at ha
    obtain ⟨j, trip, hj, ht, hp⟩ := h.results n result ha
    exact ⟨j, trip, hrec ▸ Queue.getElem?_append_of_some hj, Queue.getElem?_append_of_some ht, hp⟩

/-- What leaves the requests of the queue where they are changes nothing. -/
theorem Linked.aside {e : Queue.Event Submission Result} {pool : DispatchPool} (h : s.Linked)
    (he : e.movesRequest = false) (hp : Pool.Step s.pool e pool) : Linked { s with pool } := by
  obtain ⟨hreq, hrec, hans, -, -⟩ := hp.aside he
  refine ⟨h.accounted.step hp, h.wanted.step hp, ?_, ?_, ?_, ?_, ?_, ?_⟩
  · simpa only [Pool.accepted, hreq] using h.numbers
  · simpa only [hreq] using h.admitted
  · simpa only [hrec] using h.began
  · simpa only [hreq, hrec] using h.made
  · simpa only [hrec, hans] using h.answered
  · simpa only [hrec, hans] using h.results

/-- Trips go on as those of their requests, and once they have ended they stay as they are. -/
theorem Linked.travel {e : Traffic.Event} {traffic : Traffic} (h : s.Linked)
    (he : e.isArrival = false) (hb : s.traffic.step e = some traffic) :
    Linked { s with traffic } := by
  obtain ⟨hlen, htrips⟩ := (Traffic.Step.of_step hb).trips_cases he
  refine ⟨h.accounted, h.wanted, h.numbers, h.admitted, hlen.trans h.began,
    fun k n trip hk ht => ?_, fun k n trip a hk ht ha => ?_, fun n result ha => ?_⟩
  · obtain ⟨old, ho, hreq, -⟩ := htrips k trip ht
    rw [hreq]
    exact h.made k n old hk ho
  · obtain ⟨old, ho, -, hstay⟩ := htrips k trip ht
    obtain ⟨ending, hended, rfl⟩ := h.answered k n old a hk ho ha
    exact ⟨ending, hstay ending hended ▸ hended, rfl⟩
  · obtain ⟨k, old, hk, ho, hended⟩ := h.results n result ha
    have ht := List.getElem?_eq_getElem (hlen ▸ (List.getElem?_eq_some_iff.mp ho).1)
    obtain ⟨old', ho', -, hstay⟩ := htrips k _ ht
    obtain rfl := Option.some.inj (ho.symm.trans ho')
    exact ⟨k, old, hk, hstay _ hended ▸ ht, hended⟩

theorem Linked.step (h : s.Linked) (hs : Step s e t) : t.Linked := by
  cases hs with
  | refuse hc => exact h.refuse rfl _
  | letIn ha ho => exact h.letIn rfl ha ho
  | receive hp hk hb => exact h.receive hp hk hb
  | queue he hp => exact h.aside he hp
  | travel he hb => exact h.travel he hb
  | answer hw ht hended hp =>
    obtain ⟨hreq, hrec, hans⟩ := hp.completed_eq hw
    refine h.reply hp ht hended hreq hrec fun n a ha => ?_
    rw [hans, List.mem_append, List.mem_singleton] at ha
    exact ha.imp_right fun ha => ⟨(Prod.mk.inj ha).2, Or.inl (Prod.mk.inj ha).1⟩
  | crash hw ht hended hp =>
    obtain ⟨hreq, hrec, hans⟩ := hp.crashed_eq hw
    refine h.reply hp ht hended hreq hrec fun n a ha => ?_
    rcases hans n a ha with ha | ⟨rfl, rfl | hn⟩
    · exact Or.inl ha
    · exact Or.inr ⟨rfl, Or.inl rfl⟩
    · exact Or.inr ⟨rfl, Or.inr ⟨rfl, hn⟩⟩

theorem linked_start (g : Front) (capacity workers : Nat) (signal : Signal) (d : Dispatcher) :
    (start g capacity workers signal d).Linked where
  accounted := Pool.accounted_start capacity workers signal
  wanted _ hn := nomatch hn
  numbers := rfl
  admitted _ hv := nomatch hv
  began := rfl
  made _ _ _ hk := nomatch hk
  answered _ _ _ _ hk := nomatch hk
  results _ _ ha := nomatch ha

theorem linked_of_run {g : Front} {capacity workers : Nat} {signal : Signal} {d : Dispatcher}
    {es : List Event} (h : (start g capacity workers signal d).run es = some s) : s.Linked :=
  run_keeps (P := Linked) (fun h hs => h.step hs) (linked_start g capacity workers signal d) h

theorem Step.visits_cases {v : Visit} (h : Step s e t) (hv : v ∈ t.visits) : v ∈ s.visits
    ∨ (∃ course, v.place = .error course ∧ s.front.Refuses v.received s.pool course)
    ∨ v.place = .ok s.pool.accepted := by
  cases h with
  | refuse hc =>
    rcases List.mem_append.mp hv with hv | hv
    · exact Or.inl hv
    · obtain rfl := List.mem_singleton.mp hv
      exact Or.inr (Or.inl ⟨_, rfl, hc⟩)
  | letIn =>
    rcases List.mem_append.mp hv with hv | hv
    · exact Or.inl hv
    · obtain rfl := List.mem_singleton.mp hv
      exact Or.inr (Or.inr rfl)
  | _ => exact Or.inl hv

/-- Whoever was turned away, there was a reason for it when the request came. -/
theorem refuses_of_run {g : Front} {capacity workers : Nat} {signal : Signal} {d : Dispatcher}
    {es : List Event} (h : (start g capacity workers signal d).run es = some s) {v : Visit}
    {course : Course} (hv : v ∈ s.visits) (hp : v.place = .error course) :
    ∃ p, s.front.Refuses v.received p course := by
  refine run_keeps (P := fun s => ∀ v ∈ s.visits, ∀ course, v.place = .error course →
    ∃ p, s.front.Refuses v.received p course) (fun {s t e} hs hstep v hv course hp => ?_)
    (fun _ hv => absurd hv List.not_mem_nil) h v hv course hp
  rw [hstep.front_eq]
  rcases hstep.visits_cases hv with hv | ⟨c, hc, hr⟩ | hn
  · exact hs v hv course hp
  · rw [hp, Except.error.injEq] at hc
    exact ⟨_, hc ▸ hr⟩
  · rw [hp] at hn
    cases hn

/-- No two visits have the same number. -/
theorem Linked.visit_unique (h : s.Linked) {i j n : Nat} {u v : Visit}
    (hu : s.visits[i]? = some u) (hv : s.visits[j]? = some v) (hun : u.number? = some n)
    (hvn : v.number? = some n) : i = j := by
  have hnodup : (s.visits.filterMap Visit.number?).Nodup := h.numbers ▸ List.nodup_range
  rw [List.Nodup, List.pairwise_filterMap, List.pairwise_iff_getElem] at hnodup
  obtain ⟨hi, rfl⟩ := List.getElem?_eq_some_iff.mp hu
  obtain ⟨hj, rfl⟩ := List.getElem?_eq_some_iff.mp hv
  rcases Nat.lt_trichotomy i j with hlt | rfl | hlt
  · exact absurd rfl (hnodup i j hi hj hlt n hun n hvn)
  · rfl
  · exact absurd rfl (hnodup j i hj hi hlt n hvn n hun)

/-- Every trip is one for a visit that was let in, and for its request. -/
theorem Linked.visit_of_trip (h : s.Linked) {k : Nat} {trip : Trip}
    (hk : s.traffic.trips[k]? = some trip) : ∃ v ∈ s.visits, ∃ n x, v.number? = some n
      ∧ s.pool.received[k]? = some n ∧ s.front.admit v.received = .admitted x
      ∧ trip.request = x.request := by
  obtain ⟨n, hn⟩ : ∃ n, s.pool.received[k]? = some n :=
    ⟨_, List.getElem?_eq_getElem (h.began ▸ (List.getElem?_eq_some_iff.mp hk).1)⟩
  obtain ⟨x, hx, hreq⟩ := h.made k n trip hn hk
  have hmem : n ∈ List.range s.pool.accepted :=
    h.accounted.order.subset (List.mem_append_left _ (List.mem_of_getElem? hn))
  rw [← h.numbers] at hmem
  obtain ⟨v, hv, hvn⟩ := List.mem_filterMap.mp hmem
  obtain ⟨y, hy, hyn⟩ := h.admitted v hv n hvn
  rw [hx, Option.some.injEq] at hyn
  exact ⟨v, hv, n, x, hvn, hn, hyn ▸ hy, hreq⟩

end Site

end Gateway

end Switchyard
