import Switchyard.Proofs.Selection
import Switchyard.Proofs.SiteStep
import Switchyard.Proofs.Targets

/-!
# Requests and answers on their way through

A request that is let in reaches the transport as it came, aimed at a server (`Carried`), at each
attempt that is made for it; and the response to the last attempt reaches the client as the
transport gave it (`Returned`).  Headers that are for one connection alone stay behind, and so do
those by which the gateway itself goes.  Whatever requests are under way beside it, an answer is
for the request that its trip was made for.
-/

namespace Switchyard

namespace Dispatch

variable {c : Call} {aimed : Http.Request}

theorem Execution.prepared_of_after {x : Execution} {h : Happening}
    (hx : x.after h = some (.sending c aimed)) : h = .prepared (.ok aimed) := by
  unfold after at hx
  split at hx <;> try cases hx
  · rfl
  · unfold afterFailure at hx
    split at hx <;> cases hx

theorem Execution.replied_of_after {x : Execution} {h : Happening} {r : Http.Response}
    (hx : x.after h = some (.ended (.answered (.ok r)))) :
    ∃ draw now c aimed, h = .replied (.response r) draw now ∧ x = .sending c aimed := by
  unfold after at hx
  split at hx <;> try cases hx
  · exact ⟨_, _, _, _, rfl, rfl⟩
  · unfold afterFailure at hx
    split at hx <;> cases hx

/-- What the transport has at hand is what was aimed last. -/
theorem Execution.aimedIn_of_sending {policy : Retry.Policy} {r : Http.Request}
    {log : List Happening} (h : (ready policy r).replay log = some (.sending c aimed)) :
    (aimedIn log).getLast? = some aimed := by
  rcases List.eq_nil_or_concat log with rfl | ⟨hs, g, rfl⟩
  · cases h
  · rw [List.concat_eq_append, replay_concat] at h
    obtain ⟨x, -, hx⟩ := Option.bind_eq_some_iff.mp h
    rw [prepared_of_after hx, List.concat_eq_append, aimedIn_append]
    exact List.getLast?_concat

namespace Traffic

variable {s t : Traffic} {e : Event}

/-- A trip ends with a response when the transport gives it. -/
theorem Goes.replied {d d' : Dispatcher} {i : Nat} {a b : Trip} {turns : List Turn}
    {r : Http.Response} (h : Goes d i e a b d' turns)
    (hb : b.progress = .ended (.answered (.ok r))) :
    ∃ draw now c aimed, e = .reply i (.response r) draw now ∧ a.progress = .sending c aimed := by
  cases h with
  | resolve | unresolved | aim | unaimed => cases hb
  | @reply _ x reply draw now h =>
    cases hb
    obtain ⟨draw', now', c, aimed, heq, hp⟩ := Execution.replied_of_after h
    cases heq
    exact ⟨draw, now, c, aimed, rfl, hp⟩
  | rest h =>
    cases hb
    obtain ⟨_, _, _, _, heq, -⟩ := Execution.replied_of_after h
    cases heq

end Traffic

end Dispatch

namespace Queue.Pool

variable {α β : Type} {p : Pool α β} {n : Nat}

theorem mem_of_answerOf {a : Answer β} (h : p.answerOf n = some a) : (n, a) ∈ p.answers := by
  obtain ⟨⟨m, b⟩, hb, rfl⟩ := Option.map_eq_some_iff.mp h
  have hm : m = n := by simpa using List.find?_some hb
  exact hm ▸ List.mem_of_find?_eq_some hb

theorem answerOf_of_mem (h : n ∈ p.answeredNumbers) :
    ∃ a, p.answerOf n = some a ∧ (n, a) ∈ p.answers := by
  obtain ⟨⟨m, a⟩, ha, rfl⟩ := List.mem_map.mp h
  have hfound : (p.answers.find? (·.1 == m)).isSome = true :=
    List.find?_isSome.mpr ⟨(m, a), ha, beq_self_eq_true m⟩
  obtain ⟨x, hx⟩ := Option.isSome_iff_exists.mp hfound
  have hanswer : p.answerOf m = some x.2 := by simp only [answerOf, hx, Option.map_some]
  exact ⟨x.2, hanswer, mem_of_answerOf hanswer⟩

theorem answerOf_concat {a : Answer β} (h : n ∉ p.answeredNumbers) :
    (p.reply n a).answerOf n = some a := by
  have hnone : p.answers.find? (·.1 == n) = none := List.find?_eq_none.mpr fun x hx hn =>
    h (beq_iff_eq.mp hn ▸ List.mem_map_of_mem (f := (·.1)) hx)
  simp only [answerOf, reply, List.find?_append, hnone, Option.none_or, List.find?_singleton,
    beq_self_eq_true, if_true, Option.map_some]

end Queue.Pool

namespace Http.Headers

theorem values_without (name : String) (names : List String) (hs : Headers) :
    values name (without names hs) = if name ∈ names then [] else values name hs := by
  split_ifs with h
  · exact values_without_of_mem h hs
  · exact values_without_of_not_mem h hs

theorem values_concat (name : String) (hs : Headers) (h : Header) :
    values name (hs ++ [h]) = values name hs ++ if h.name = name then [h.value] else [] := by
  by_cases hn : h.name = name <;> simp [values, hn]

end Http.Headers

namespace Gateway

open Dispatch (Dispatcher Ending Traffic Trip Turn)
open Http (Headers IsPath Request Response)
open Queue (Pool Result Submission Ticket)

/-- What the router hands on: requests for a path. -/
def Inbound.IsRouted (i : Inbound) : Prop :=
  ∃ line u, Http.Uri.parse line = .ok u ∧ u.target? = i.target ∧ i.target ≠ some "*"

/-- The headers of a request that stay behind. -/
def keptBack : List String := "host" :: contextHeader :: connectionHeaders

/-- What the transport gets for a request at an attempt, if a server was selected for it. -/
structure Carried (i : Inbound) (server : Endpoint) (aimed : Request) : Prop where
  method : aimed.method = i.method
  body : aimed.body = i.body
  url : aimed.url = String.ofList (Url.trimBase server.url.toList
    ++ Url.withoutEmptyQuery (i.target.getD "/").toList)
  headers : ∀ name, Headers.values name aimed.headers
    = if name ∈ keptBack then [] else Headers.values name i.headers

/-- What the client gets for a response of the transport to a request with that id. -/
structure Returned (id : List UInt8) (r answer : Response) : Prop where
  status : answer.status = r.status
  body : answer.body = r.body
  headers : ∀ name, name ≠ requestIdHeader → Headers.values name answer.headers
    = if name ∈ connectionHeaders then [] else Headers.values name r.headers
  id : Headers.values requestIdHeader answer.headers
    = if Headers.values requestIdHeader r.headers = [] then [id]
      else Headers.values requestIdHeader r.headers

theorem Inbound.IsRouted.isPath {i : Inbound} (h : i.IsRouted) :
    IsPath (i.target.getD "/").toList := by
  obtain ⟨line, u, hu, ht, hall⟩ := h
  cases htarget : i.target with
  | none => exact ⟨⟨'/', [], rfl, Or.inl rfl⟩, by decide⟩
  | some target =>
    rw [htarget] at ht hall
    exact Http.Uri.isPath_target hu ht fun h => hall (congrArg some h)

theorem Inbound.IsRouted.withId {i : Inbound} (h : i.IsRouted) (fresh : List UInt8) :
    (withId fresh i).IsRouted := by
  unfold Gateway.withId
  split
  · exact h
  · exact h

theorem Front.request_of_admitted {g : Front} {i : Inbound} {x : Submission}
    (h : g.admit i = .admitted x) :
    ∃ c, x.request = toRequest i.method i.target i.headers i.body c := by
  unfold Front.admit at h
  split at h
  · cases h
  · split_ifs at h
    cases h
    exact ⟨_, rfl⟩

/-- Aiming a request at a server leaves its headers alone. -/
theorem headers_of_aim {g : Front} {i : Inbound} {x : Submission} {server : Endpoint}
    {aimed : Request} (hx : g.admit i = .admitted x)
    (h : Dispatcher.aim x.request server = .ok aimed) (name : String) :
    Headers.values name aimed.headers
      = if name ∈ keptBack then [] else Headers.values name i.headers := by
  obtain ⟨c, hr⟩ := Front.request_of_admitted hx
  have haimed : aimed.headers = x.request.headers := by
    unfold Dispatcher.aim at h
    split at h <;> cases h
    rfl
  rw [haimed, hr, toRequest, stripConnection, Headers.values_without, Headers.values_without]
  simp only [keptBack, List.mem_cons, List.not_mem_nil, or_false]
  split_ifs <;> simp_all

theorem carried_of_aim {g : Front} {i : Inbound} {x : Submission} {server : Endpoint}
    {aimed : Request} (hx : g.admit i = .admitted x) (hi : i.IsRouted)
    (h : Dispatcher.aim x.request server = .ok aimed) : Carried i server aimed := by
  have hheaders := headers_of_aim hx h
  obtain ⟨c, hr⟩ := Front.request_of_admitted hx
  rw [hr, Dispatcher.aim, toRequest, Url.retarget_of_isPath hi.isPath] at h
  cases h
  exact ⟨rfl, rfl, rfl, hheaders⟩

theorem propagate_eq (id : List UInt8) (r : Response) : propagate id r
    = if Headers.values requestIdHeader r.headers = []
      then { r with headers := r.headers ++ [⟨requestIdHeader, id⟩] } else r := by
  unfold propagate Headers.first?
  cases Headers.values requestIdHeader r.headers <;> rfl

theorem returned_respond (fresh : List UInt8) (i : Inbound) (r : Response) :
    Returned (idOf fresh i) r (respond fresh i (some (.answered (.result (.ok r))))) := by
  have hvalues : ∀ name, Headers.values name (toResponse r).headers
      = if name ∈ connectionHeaders then [] else Headers.values name r.headers :=
    fun name => Headers.values_without name connectionHeaders r.headers
  have hid : Headers.values requestIdHeader (toResponse r).headers
      = Headers.values requestIdHeader r.headers :=
    (hvalues requestIdHeader).trans (if_neg (by decide))
  change Returned (idOf fresh i) r (propagate (idOf fresh i) (toResponse r))
  rw [propagate_eq, hid]
  split_ifs with hnone
  · refine ⟨rfl, rfl, fun name hn => ?_, ?_⟩
    · rw [Headers.values_concat, if_neg (Ne.symm hn), List.append_nil, hvalues]
    · rw [Headers.values_concat, hid, hnone, if_pos rfl, if_pos rfl, List.nil_append]
  · exact ⟨rfl, rfl, fun name _ => hvalues name, hid.trans (if_neg hnone).symm⟩

namespace Site

variable {s t : Site} {e : Event}

theorem Step.turns_cases {j : Nat} {turn : Turn} {aimed : Request} (h : Step s e t)
    (hs : s.traffic.turns[j]? ≠ some turn) (ht : t.traffic.turns[j]? = some turn)
    (ha : turn.result = .ok aimed) : s.traffic.turns.length = j ∧ ∃ server,
      (s.traffic.dispatcher.balancers.select s.traffic.dispatcher.strategy turn.offered
        turn.request.contextId).2 = .ok server
      ∧ Dispatcher.aim turn.request server = .ok aimed := by
  cases h with
  | refuse | letIn | queue | answer | crash => exact absurd ht hs
  | receive _ _ hb =>
    cases hb
    exact absurd ht hs
  | travel he hb =>
    obtain ⟨-, hlen, hresult⟩ := (Traffic.Step.of_step hb).turn_cases hs ht
    rw [ha, Dispatcher.choose_snd] at hresult
    exact ⟨hlen, eq_ok_of_bind hresult.symm⟩

theorem Step.response_cases {k : Nat} {r : Response} (h : Step s e t)
    (hs : ¬∃ trip, s.traffic.trips[k]? = some trip
      ∧ trip.progress = .ended (.answered (.ok r)))
    (ht : ∃ trip, t.traffic.trips[k]? = some trip ∧ trip.progress = .ended (.answered (.ok r))) :
    ∃ draw now trip c aimed, e = .travel (.reply k (.response r) draw now)
      ∧ s.traffic.trips[k]? = some trip ∧ trip.progress = .sending c aimed := by
  obtain ⟨trip, hk, hp⟩ := ht
  cases h with
  | refuse | letIn | queue | answer | crash => exact absurd ⟨trip, hk, hp⟩ hs
  | receive _ _ hb =>
    cases hb
    rcases Dispatch.getElem?_concat_cases hk with hk | ⟨-, rfl⟩
    · exact absurd ⟨trip, hk, hp⟩ hs
    · cases hp
  | travel he hb =>
    cases Traffic.Step.of_step hb with
    | arrive => cases he
    | publish => exact absurd ⟨trip, hk, hp⟩ hs
    | goOn hi hg =>
      rcases Dispatch.getElem?_set_cases hi hk with ⟨rfl, rfl⟩ | ⟨-, hk⟩
      · obtain ⟨draw, now, c, aimed, rfl, ha⟩ := hg.replied hp
        exact ⟨draw, now, _, c, aimed, rfl, hi, ha⟩
      · exact absurd ⟨trip, hk, hp⟩ hs

/-- Once a trip has ended its request is answered with that, or its worker can do so now. -/
theorem Linked.answer_of_ended (h : s.Linked) {k n : Nat} {trip : Trip} {result : Result}
    (hk : s.pool.received[k]? = some n) (ht : s.traffic.trips[k]? = some trip)
    (hp : trip.progress = .ended (.answered result)) :
    ∃ t, (t = s ∨ ∃ w, s.step (.reply w) = some t) ∧ t.pool.answerOf n = some (.result result)
      ∧ t.pool.abandoned = s.pool.abandoned ∧ t.Linked := by
  have hreceived : n ∈ s.pool.received := List.mem_of_getElem? hk
  have hplace := h.accounted.places n
  have hone : (List.range s.pool.accepted).count n = 1 :=
    List.count_eq_one_of_mem List.nodup_range
      (h.accounted.order.subset (List.mem_append_left _ hreceived))
  have hwaits : s.pool.waitingNumbers.count n = 0 := List.count_eq_zero.mpr fun hn =>
    (List.nodup_append.mp h.accounted.nodup_received).2.2 n hreceived n hn rfl
  by_cases hans : n ∈ s.pool.answeredNumbers
  · obtain ⟨a, ha, hmem⟩ := Pool.answerOf_of_mem hans
    obtain ⟨ending, hended, rfl⟩ := h.answered k n trip a hk ht hmem
    rw [hp, Dispatch.Execution.ended.injEq] at hended
    exact ⟨s, Or.inl rfl, by rw [ha, ← hended]; rfl, rfl, h⟩
  · -- it was taken and not answered yet, so a worker has it
    have hheld : n ∈ s.pool.heldNumbers := by
      refine List.count_pos_iff.mp ?_
      have := List.count_eq_zero.mpr hans
      omega
    obtain ⟨t, hmem, rfl⟩ := List.mem_map.mp hheld
    obtain ⟨x, hx, htx⟩ := List.mem_filterMap.mp hmem
    obtain ⟨w, hw⟩ := List.mem_iff_getElem?.mp hx
    have hticket : s.pool.ticketAt w = some t := by rw [Pool.ticketAt, hw]; exact htx
    obtain ⟨drains, hserving⟩ := Pool.ticketAt_eq_some_iff.mp hticket
    have hstep := Step.answer hticket ((h.tripOf?_eq hk).trans ht) hp (.complete hserving)
    refine ⟨_, Or.inr ⟨w, hstep.step_eq⟩, ?_, rfl, h.step hstep⟩
    exact Pool.answerOf_concat hans

section Run

variable {g : Front} {capacity workers : Nat} {signal : Signal} {d : Dispatcher} {es : List Event}

/-- A request goes to the transport at the moment at which a server is selected for it. -/
theorem sent_moment (h : (start g capacity workers signal d).run es = some s) {j : Nat}
    {turn : Turn} {aimed : Request} (ht : s.traffic.turns[j]? = some turn)
    (ha : turn.result = .ok aimed) :
    ∃ before after u server, es = before ++ after
      ∧ (start g capacity workers signal d).run before = some u ∧ u.traffic.turns.length = j
      ∧ (u.traffic.dispatcher.balancers.select u.traffic.dispatcher.strategy turn.offered
        turn.request.contextId).2 = .ok server
      ∧ Dispatcher.aim turn.request server = .ok aimed := by
  obtain ⟨before, e, after, u, v, rfl, hb, hstep, -, hu, hv⟩ :=
    run_moment (P := fun s => s.traffic.turns[j]? = some turn) h (fun h => nomatch h) ht
  obtain ⟨hlen, server, hs, haim⟩ := hstep.turns_cases hu hv ha
  exact ⟨before, e :: after, u, server, rfl, hb, hlen, hs, haim⟩

/-- A turn is one for the request whose number its worker took. -/
theorem request_of_turn (h : (start g capacity workers signal d).run es = some s) {v : Visit}
    {n : Nat} {turn : Turn} (hv : v ∈ s.visits) (hn : v.number? = some n)
    (hturn : turn ∈ s.traffic.turns) (hk : s.pool.received[turn.trip]? = some n) :
    ∃ x, s.front.admit v.received = .admitted x ∧ turn.request = x.request := by
  have hlinked := linked_of_run h
  obtain ⟨x, hx, hxn⟩ := hlinked.admitted v hv n hn
  obtain ⟨es', htraffic⟩ := run_traffic h
  obtain ⟨trip, htrip, hreq⟩ := (Traffic.owned_of_run htraffic).turns turn hturn
  obtain ⟨y, hy, hyreq⟩ := hlinked.made turn.trip n trip hk htrip
  rw [hxn, Option.some.injEq] at hy
  subst hy
  exact ⟨x, hx, hreq.trans hyreq⟩

/-- A trip ends with a response at the moment at which the transport gives it for what it was sent
last. -/
theorem response_moment (h : (start g capacity workers signal d).run es = some s) {k : Nat}
    {trip : Trip} {r : Response} (ht : s.traffic.trips[k]? = some trip)
    (hp : trip.progress = .ended (.answered (.ok r))) :
    ∃ before draw now after u aimed,
      es = before ++ .travel (.reply k (.response r) draw now) :: after
      ∧ (start g capacity workers signal d).run before = some u
      ∧ (u.traffic.sentFor k).getLast? = some aimed := by
  obtain ⟨before, e, after, u, v, rfl, hb, hstep, -, hu, hv⟩ :=
    run_moment (P := fun s => ∃ trip, s.traffic.trips[k]? = some trip
      ∧ trip.progress = .ended (.answered (.ok r))) h (fun ⟨_, h, _⟩ => nomatch h) ⟨trip, ht, hp⟩
  obtain ⟨draw, now, trip, c, aimed, rfl, hk, hsending⟩ := hstep.response_cases hu hv
  obtain ⟨es', hrun⟩ := run_traffic hb
  obtain ⟨log, hlog, haimed⟩ := Traffic.trip_replay hrun hk
  rw [hsending] at hlog
  exact ⟨before, draw, now, after, u, aimed, rfl, hb,
    haimed ▸ Dispatch.Execution.aimedIn_of_sending hlog⟩

/-- A gateway is transparent.  Take a request that was let in, in any run.  Its number in the queue
is its own.  Whatever the transport gets for that number is the request as the handler got it,
aimed at the server that the balancer selects at that moment.  When the trip for that number has
ended with a response, it is the one that the transport gave for what it was sent last, and unless
the time is up the client has got it, or gets it as soon as the worker replies.  And no other
result is ever the answer to that number. -/
theorem transparent (h : (start g capacity workers signal d).run es = some s) {i n : Nat}
    {v : Visit} (hv : s.visits[i]? = some v) (hn : v.number? = some n)
    (hrouted : v.inbound.IsRouted) :
    (∀ j u, s.visits[j]? = some u → u.number? = some n → j = i)
      ∧ (∀ (j : Nat) (turn : Turn) (aimed : Request), s.traffic.turns[j]? = some turn →
        s.pool.received[turn.trip]? = some n → turn.result = .ok aimed →
        ∃ before after u server, es = before ++ after
          ∧ (start g capacity workers signal d).run before = some u ∧ u.traffic.turns.length = j
          ∧ (u.traffic.dispatcher.balancers.select u.traffic.dispatcher.strategy turn.offered
            turn.request.contextId).2 = .ok server
          ∧ Carried v.received server aimed)
      ∧ (∀ (k : Nat) (trip : Trip) (r : Response), s.pool.received[k]? = some n →
        s.traffic.trips[k]? = some trip → trip.progress = .ended (.answered (.ok r)) →
        (∃ before draw now after u aimed,
          es = before ++ .travel (.reply k (.response r) draw now) :: after
          ∧ (start g capacity workers signal d).run before = some u
          ∧ (u.traffic.sentFor k).getLast? = some aimed)
        ∧ (n ∉ s.pool.abandoned → ∃ t answer, (t = s ∨ ∃ w, s.step (.reply w) = some t)
          ∧ t.answerTo? v = some answer ∧ Returned (idOf v.fresh v.inbound) r answer))
      ∧ ∀ result, s.pool.answerOf n = some (.result result) → ∃ (k : Nat) (trip : Trip),
        s.pool.received[k]? = some n ∧ s.traffic.trips[k]? = some trip
          ∧ trip.progress = .ended (.answered result) := by
  have hlinked := linked_of_run h
  refine ⟨fun j u hu hun => hlinked.visit_unique hu hv hun hn, fun j turn aimed ht hk ha => ?_,
    fun k trip r hk ht hp => ⟨response_moment h ht hp, fun hwanted => ?_⟩, fun result ha => ?_⟩
  · obtain ⟨before, after, u, server, hes, hb, hlen, hs, haim⟩ := sent_moment h ht ha
    obtain ⟨x, hx, hreq⟩ :=
      request_of_turn h (List.mem_of_getElem? hv) hn (List.mem_of_getElem? ht) hk
    rw [hreq] at haim
    exact ⟨before, after, u, server, hes, hb, hlen, hs,
      carried_of_aim hx (hrouted.withId v.fresh) haim⟩
  · obtain ⟨t, htime, ha, habandoned, ht⟩ := hlinked.answer_of_ended hk ht hp
    have hunread : n ∉ t.pool.unread := fun hn => hwanted (habandoned ▸ ht.wanted n hn)
    refine ⟨t, _, htime, ?_, returned_respond v.fresh v.inbound r⟩
    simp only [answerTo?, Visit.number?_eq_some_iff.mp hn, ha, if_neg hunread]
  · exact hlinked.results n result (Pool.mem_of_answerOf ha)

end Run

/-- One request to the only server and its response; the worker has not replied yet. -/
def oneThrough : List Event :=
  [.arrive ⟨"PUT", some "/a?x=http://b/", [⟨"te", [1]⟩, ⟨"x", [2]⟩, ⟨"x", [3]⟩], [4]⟩ [5],
    .receive 0 .zero, .travel (.resolve 0), .travel (.choose 0),
    .travel (.reply 0 (.response ⟨201, [⟨"y", [6]⟩], [7]⟩) 0 .zero)]

theorem transparent_once : ∃ s turn aimed server v t answer,
    (start ⟨some "c", 8⟩ 1 1 .make
      (.make { register := { kind := "local", servers := "s" } } none [])).run oneThrough = some s
    ∧ s.traffic.turns[0]? = some turn ∧ turn.result = .ok aimed
    ∧ aimed.url = "http://s/a?x=http://b/" ∧ Carried v.received server aimed
    ∧ s.visits[0]? = some v ∧ s.answerTo? v = none ∧ (∃ w, s.step (.reply w) = some t)
    ∧ t.answerTo? v = some answer ∧ Returned [5] ⟨201, [⟨"y", [6]⟩], [7]⟩ answer := by
  obtain ⟨s, hs, ⟨v, hv, hinbound, hfresh, hn⟩, hk, ⟨turn, hturn, htrip, aimed, ha, hurl⟩,
      ⟨trip, ht, hp⟩, hwanted, hanswers⟩ : ∃ s,
      (start ⟨some "c", 8⟩ 1 1 .make
        (.make { register := { kind := "local", servers := "s" } } none [])).run oneThrough = some s
      ∧ (∃ v, s.visits[0]? = some v ∧ v.inbound.target = some "/a?x=http://b/"
        ∧ idOf v.fresh v.inbound = [5] ∧ v.number? = some 0)
      ∧ s.pool.received[0]? = some 0
      ∧ (∃ turn, s.traffic.turns[0]? = some turn ∧ turn.trip = 0 ∧ ∃ aimed,
        turn.result = .ok aimed ∧ aimed.url = "http://s/a?x=http://b/")
      ∧ (∃ trip, s.traffic.trips[0]? = some trip
        ∧ trip.progress = .ended (.answered (.ok ⟨201, [⟨"y", [6]⟩], [7]⟩)))
      ∧ s.pool.abandoned = [] ∧ s.pool.answers = [] :=
    ⟨_, rfl, ⟨_, rfl, rfl, rfl, rfl⟩, rfl, ⟨_, rfl, rfl, _, rfl, rfl⟩, ⟨_, rfl, rfl⟩, rfl, rfl⟩
  have hrouted : v.inbound.IsRouted :=
    ⟨"http://gateway/a?x=http://b/", ⟨some "http".toList, "gateway".toList,
      "/a?x=http://b/".toList⟩, by rfl, by rw [hinbound]; rfl, by rw [hinbound]; decide⟩
  obtain ⟨-, hsent, hresponse, -⟩ := transparent hs hv hn hrouted
  obtain ⟨-, -, -, server, -, -, -, -, hcarried⟩ := hsent 0 turn aimed hturn (htrip ▸ hk) ha
  obtain ⟨t, answer, htime, hanswer, hreturned⟩ :=
    (hresponse 0 trip _ hk ht hp).2 (by rw [hwanted]; exact List.not_mem_nil)
  have hnone : s.answerTo? v = none := by
    simp [answerTo?, Visit.number?_eq_some_iff.mp hn, Pool.answerOf, hanswers, hwanted]
  have hreply : ∃ w, s.step (.reply w) = some t := htime.resolve_left fun heq => by
    rw [heq, hnone] at hanswer
    cases hanswer
  exact ⟨s, turn, aimed, server, v, t, answer, hs, hturn, ha, hurl, hcarried, hv, hnone, hreply,
    hanswer, hfresh ▸ hreturned⟩

end Site

end Gateway

end Switchyard
