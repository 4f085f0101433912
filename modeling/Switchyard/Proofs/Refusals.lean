import Switchyard.Proofs.SiteStep

/-!
# Requests that are turned away

A gateway turns a request away when it names no cluster, else when its body is too large, else
when the queue does not take it (`Front.refusal?`).  Nothing behind the front has to do with such a
request: every run leads where it leads without the requests that it turns away
(`Site.run_kept`), and those that the full queue did not take are the ones that are counted.
-/

namespace Switchyard

namespace Metrics

theorem value_updates_queueRejections (us : List Update) (m : Metrics) :
    (m.updates us).value .queueRejections = m.value .queueRejections := by
  induction us generalizing m with
  | nil => rfl
  | cons u us ih =>
    have hu : (m.update u.1 u.2).value .queueRejections = m.value .queueRejections := by
      rw [update, value, Store.find?_set_of_ne _ (by simp), ← value, value_count, if_neg (by simp)]
    exact (ih (m.update u.1 u.2)).trans hu

end Metrics

namespace Dispatch

variable {d d' : Dispatcher}

/-- What a dispatcher counts is not refusals of the queue. -/
theorem Dispatcher.note_queueRejections (d : Dispatcher) (r : Http.Request) (x : Execution) :
    (d.note r x).metrics.value .queueRejections = d.metrics.value .queueRejections := by
  unfold note
  split
  · exact (Metrics.value_count _ _ _).trans (if_neg (by simp))
  · simp only [countResult, Metrics.request, Metrics.value_count, reduceCtorEq, if_false]
  · rfl

theorem Dispatcher.resolve_queueRejections (d : Dispatcher) (c : String) :
    (d.resolve c).1.metrics.value .queueRejections = d.metrics.value .queueRejections :=
  Metrics.value_updates_queueRejections _ _

namespace Traffic

theorem Goes.queueRejections {i : Nat} {e : Event} {a b : Trip} {turns : List Turn}
    (h : Goes d i e a b d' turns) :
    d'.metrics.value .queueRejections = d.metrics.value .queueRejections := by
  cases h with
  | resolve h => rw [← d.resolve_queueRejections, h]
  | @unresolved r c e error h =>
    rw [← d.resolve_queueRejections c.request.contextId, h]
    exact e.note_queueRejections r (.ended (.answered (.error error)))
  | @aim r aimed c e endpoints h => rw [← d.choose_metrics c.request endpoints, h]
  | @unaimed r c e endpoints error h =>
    rw [← d.choose_metrics c.request endpoints, h]
    exact e.note_queueRejections r (.ended (.answered (.error error)))
  | reply | rest => exact d.note_queueRejections _ _

theorem Step.queueRejections {s t : Traffic} {e : Event} (h : Step s e t) :
    t.dispatcher.metrics.value .queueRejections = s.dispatcher.metrics.value .queueRejections := by
  cases h with
  | arrive => rfl
  | publish => exact Metrics.value_updates_queueRejections _ _
  | goOn hi hg => exact hg.queueRejections

end Traffic

end Dispatch

namespace Gateway

open Dispatch (Dispatcher Traffic)
open Http (Headers)
open Queue (Channel DispatchPool Pool Submission Ticket)

/-- The id that a request gets has no say in what cluster it is for. -/
theorem contextId_withId (fresh : List UInt8) (i : Inbound) (default : Option String) :
    contextId (withId fresh i).headers default = contextId i.headers default := by
  unfold withId
  split
  · rfl
  · have hne : (requestIdHeader == contextHeader) = false := by decide
    simp [contextId, Headers.first?, Headers.values, hne]

theorem body_withId (fresh : List UInt8) (i : Inbound) : (withId fresh i).body = i.body := by
  unfold withId
  split <;> rfl

namespace Front

/-- The status that a request is turned away with, if it is. -/
def refusedWith? (g : Front) (i : Inbound) (p : DispatchPool) : Option Nat :=
  if contextId i.headers g.defaultContextId = none then some 400
  else if g.maxBody < i.body.length then some 413
  else if p.channel.isClosed || p.channel.isFull then some 503
  else none

theorem admit_eq_noCluster_iff {g : Front} {i : Inbound} :
    g.admit i = .noCluster ↔ contextId i.headers g.defaultContextId = none := by
  unfold Front.admit
  cases contextId i.headers g.defaultContextId with
  | none => simp
  | some c => by_cases hb : g.maxBody < i.body.length <;> simp [hb]

theorem admit_eq_tooLarge_iff {g : Front} {i : Inbound} : g.admit i = .tooLarge
    ↔ contextId i.headers g.defaultContextId ≠ none ∧ g.maxBody < i.body.length := by
  unfold Front.admit
  cases contextId i.headers g.defaultContextId with
  | none => simp
  | some c => by_cases hb : g.maxBody < i.body.length <;> simp [hb]

theorem admit_eq_admitted {g : Front} {i : Inbound} {x : Submission} (h : g.admit i = .admitted x) :
    contextId i.headers g.defaultContextId ≠ none ∧ ¬g.maxBody < i.body.length := by
  constructor
  · intro hc
    rw [admit_eq_noCluster_iff.mpr hc] at h
    cases h
  · intro hb
    unfold Front.admit at h
    cases hc : contextId i.headers g.defaultContextId with
    | none => simp [hc] at h
    | some c => simp [hc, hb] at h

theorem Refuses.refusedWith?_eq {g : Front} {i : Inbound} {p : DispatchPool} {course : Course}
    (h : g.Refuses i p course) : g.refusedWith? i p = some course.response.status := by
  unfold refusedWith?
  cases h with
  | noCluster h => exact if_pos (admit_eq_noCluster_iff.mp h)
  | tooLarge h =>
    obtain ⟨hc, hb⟩ := admit_eq_tooLarge_iff.mp h
    rw [if_neg hc, if_pos hb]
    rfl
  | @refused x r h hr =>
    obtain ⟨hc, hb⟩ := admit_eq_admitted h
    have hshut : (p.channel.isClosed || p.channel.isFull) = true := by
      cases r with
      | closed => rw [(Channel.offer_eq_closed_iff _ _).mp hr, Bool.true_or]
      | full => rw [((Channel.offer_eq_full_iff _ _).mp hr).2, Bool.or_true]
    rw [if_neg hc, if_neg hb, if_pos hshut]
    rfl

theorem refusedWith?_eq_none {g : Front} {i : Inbound} {p : DispatchPool} {x : Submission}
    {channel : Channel (Ticket Submission)} (h : g.admit i = .admitted x)
    (ho : p.offer x = .ok channel) : g.refusedWith? i p = none := by
  obtain ⟨hc, hb⟩ := admit_eq_admitted h
  obtain ⟨hopen, hroom, -⟩ := Channel.offer_eq_ok_iff.mp ho
  simp only [refusedWith?, hc, hb, hopen, hroom, Bool.or_self, Bool.false_eq_true, if_false]

theorem refusedWith?_withId (g : Front) (fresh : List UInt8) (i : Inbound) (p : DispatchPool) :
    g.refusedWith? (withId fresh i) p = g.refusedWith? i p := by
  simp only [refusedWith?, contextId_withId, body_withId]

end Front

/-- A request that was let in. -/
def Visit.isIn (v : Visit) : Bool := v.number?.isSome

/-- A request that the queue did not take because it was full. -/
def Visit.isSurplus (v : Visit) : Bool :=
  match v.place with
  | .error (.refused .full) => true
  | _ => false

/-- Only a queue that is open is too full. -/
theorem Front.Refuses.isSurplus_iff {g : Front} {i j : Inbound} {p : DispatchPool}
    {course : Course} {fresh : List UInt8} (h : g.Refuses i p course) :
    (Visit.mk j fresh (.error course)).isSurplus = true ↔ g.refusedWith? i p = some 503
      ∧ p.channel.isClosed = false := by
  rw [h.refusedWith?_eq, Option.some.injEq]
  cases h with
  | noCluster | tooLarge => simp [Visit.isSurplus, Course.response, problem]
  | @refused x r h hr =>
    cases r with
    | closed => simp [Visit.isSurplus, (Channel.offer_eq_closed_iff _ _).mp hr]
    | full =>
      have hopen := ((Channel.offer_eq_full_iff _ _).mp hr).1
      simp [Visit.isSurplus, hopen, Course.response, problem]

/-- The status of an answer does not depend on the id of the request. -/
theorem respond_status (fresh : List UInt8) (i : Inbound) (course : Course) :
    (respond fresh i (some course)).status = course.response.status := by
  unfold respond propagate
  dsimp only
  split <;> rfl

namespace Site

variable {s t : Site} {e : Event}

/-- The gateway as if the requests that it has turned away had not come. -/
def kept (s : Site) : Site := { s with visits := s.visits.filter Visit.isIn, metrics := .empty }

theorem Step.kept_cases (h : Step s e t) : Step s.kept e t.kept ∧ t.visits.countP (!·.isIn)
      = s.visits.countP (!·.isIn)
    ∨ t.kept = s.kept ∧ t.visits.countP (!·.isIn) = s.visits.countP (!·.isIn) + 1 := by
  cases h with
  | @refuse i fresh course h =>
    right
    constructor
    · simp [kept, Visit.isIn, Visit.number?, Except.toOption]
    · simp [Visit.isIn, Visit.number?, Except.toOption]
  | @letIn i fresh x channel h ho =>
    left
    have hkept : (s.visits ++ [Visit.mk i fresh (.ok s.pool.accepted)]).filter Visit.isIn
        = s.visits.filter Visit.isIn ++ [⟨i, fresh, .ok s.pool.accepted⟩] :=
      List.filter_append _ _
    constructor
    · unfold kept
      rw [hkept]
      exact .letIn (s := s.kept) h ho
    · simp [Visit.isIn, Visit.number?, Except.toOption]
  | receive h ht hb => exact Or.inl ⟨.receive (s := s.kept) h ht hb, rfl⟩
  | queue he h => exact Or.inl ⟨.queue (s := s.kept) he h, rfl⟩
  | travel he h => exact Or.inl ⟨.travel (s := s.kept) he h, rfl⟩
  | answer hw ht hp h => exact Or.inl ⟨.answer (s := s.kept) hw ht hp h, rfl⟩
  | crash hw ht hp h => exact Or.inl ⟨.crash (s := s.kept) hw ht hp h, rfl⟩

/-- A run leads where it leads without the requests that it turns away. -/
theorem run_kept : ∀ {es : List Event} {s t : Site}, s.run es = some t →
    ∃ es', es'.Sublist es ∧ s.kept.run es' = some t.kept
      ∧ es'.length + t.visits.countP (!·.isIn) = es.length + s.visits.countP (!·.isIn)
  | [], _, _, h => ⟨[], .slnil, congrArg (Option.map kept) h, by rw [Option.some.inj h]⟩
  | e :: es, s, t, h => by
    obtain ⟨u, hu, ht⟩ := Option.bind_eq_some_iff.mp h
    obtain ⟨es', hsub, hrun, hlen⟩ := run_kept ht
    rcases (Step.of_step hu).kept_cases with ⟨hstep, hcount⟩ | ⟨heq, hcount⟩
    · refine ⟨e :: es', hsub.cons_cons e, ?_, ?_⟩
      · rw [run, hstep.step_eq]
        exact hrun
      · simp only [List.length_cons]
        omega
    · refine ⟨es', hsub.cons e, heq ▸ hrun, ?_⟩
      simp only [List.length_cons]
      omega

theorem Step.counted_add (h : Step s e t) :
    t.counted .queueRejections + s.visits.countP Visit.isSurplus
      = s.counted .queueRejections + t.visits.countP Visit.isSurplus := by
  have htraffic : ∀ {e : Traffic.Event} {traffic : Traffic}, s.traffic.step e = some traffic →
      traffic.dispatcher.metrics.value .queueRejections
        = s.traffic.dispatcher.metrics.value .queueRejections :=
    fun h => (Traffic.Step.of_step h).queueRejections
  unfold counted
  cases h with
  | @refuse i fresh course h =>
    cases h with
    | noCluster | tooLarge => simp [Course.count, Visit.isSurplus]
    | @refused x r =>
      cases r with
      | closed => simp [Course.count, Visit.isSurplus]
      | full =>
        simp only [Course.count, Metrics.rejection, Metrics.value_count, if_true,
          List.countP_append, List.countP_singleton, Visit.isSurplus]
        omega
  | letIn => simp [Visit.isSurplus]
  | receive _ _ hb => simp only [htraffic hb]
  | travel _ hb => simp only [htraffic hb]
  | queue | answer | crash => rfl

/-- What a gateway makes of a request that comes: an answer of the given status at once and
nothing else, or one more request of the queue, behind the others. -/
structure Met (s : Site) (i : Inbound) (fresh : List UInt8) (t : Site) (v : Visit) : Prop where
  visits : t.visits = s.visits ++ [v]
  inbound : v.inbound = i ∧ v.fresh = fresh
  traffic : t.traffic = s.traffic
  refused : ∀ status, s.front.refusedWith? i s.pool = some status →
    v.number? = none ∧ t.pool = s.pool ∧ ∃ r, t.answerTo? v = some r ∧ r.status = status
  surplus : v.isSurplus = true ↔
    s.front.refusedWith? i s.pool = some 503 ∧ s.pool.channel.isClosed = false
  admitted : s.front.refusedWith? i s.pool = none → v.number? = some s.pool.accepted
    ∧ ∃ x, s.front.admit v.received = .admitted x ∧ t.pool =
      { s.pool with
        channel := { s.pool.channel with
          waiting := s.pool.channel.waiting ++ [⟨s.pool.accepted, x⟩] }
        requests := s.pool.requests ++ [x] }

theorem met_arrive (s : Site) (i : Inbound) (fresh : List UInt8) :
    ∃ v, s.Met i fresh (s.arrive i fresh) v := by
  have hstep := Step.arrive s i fresh
  generalize s.arrive i fresh = t at hstep
  cases hstep with
  | @refuse _ _ course h =>
    have hwith := h.refusedWith?_eq
    rw [Front.refusedWith?_withId] at hwith
    refine ⟨⟨i, fresh, .error course⟩, rfl, ⟨rfl, rfl⟩, rfl, fun status hs => ?_, ?_, fun hn => ?_⟩
    · rw [hwith, Option.some.injEq] at hs
      exact ⟨rfl, rfl, _, rfl, hs ▸ respond_status fresh i course⟩
    · rw [h.isSurplus_iff, Front.refusedWith?_withId]
    · rw [hwith] at hn
      cases hn
  | @letIn _ _ x channel h ho =>
    have hwith := Front.refusedWith?_eq_none h ho
    rw [Front.refusedWith?_withId] at hwith
    obtain ⟨-, -, rfl⟩ := Channel.offer_eq_ok_iff.mp ho
    refine ⟨⟨i, fresh, .ok s.pool.accepted⟩, rfl, ⟨rfl, rfl⟩, rfl, fun status hs => ?_, ?_,
      fun _ => ⟨rfl, x, h, rfl⟩⟩
    · rw [hwith] at hs
      cases hs
    · simp [Visit.isSurplus, hwith]

/-- A request that a gateway turns away leaves no trace.  At every moment of every run the next
request is answered with 400 if it names no cluster, else with 413 if its body is too large, else
with 503 if the queue is closed or full, and then nothing behind the front changes; or else it is
the next one of the queue.  The run leads where it leads without the requests that were turned
away; all that the transport gets is for a request that was let in, which has its number in the
queue to itself; and of those turned away the ones that met a full queue are counted. -/
theorem refused_without_trace {g : Front} {capacity workers : Nat} {signal : Signal}
    {d : Dispatcher} {es : List Event}
    (h : (start g capacity workers signal d).run es = some s) :
    (∀ i fresh, ∃ t v, s.step (.arrive i fresh) = some t ∧ s.Met i fresh t v)
      ∧ s.front = g
      ∧ (∃ es', es'.Sublist es ∧ (start g capacity workers signal d).run es' = some s.kept
        ∧ es'.length + s.visits.countP (!·.isIn) = es.length)
      ∧ s.visits.filterMap Visit.number? = List.range s.pool.accepted
      ∧ (∀ v ∈ s.visits, ∀ n, v.number? = some n →
        ∃ x, g.admit v.received = .admitted x ∧ s.pool.requests[n]? = some x)
      ∧ (∀ turn ∈ s.traffic.turns, ∃ v ∈ s.visits, ∃ n x, v.number? = some n
        ∧ s.pool.received[turn.trip]? = some n ∧ g.admit v.received = .admitted x
        ∧ turn.request = x.request)
      ∧ s.counted .queueRejections
        = d.metrics.value .queueRejections + s.visits.countP Visit.isSurplus := by
  have hlinked := linked_of_run h
  have hfront : s.front = g := run_keeps (P := fun s => s.front = g)
    (fun hs hstep => hstep.front_eq.trans hs) rfl h
  refine ⟨fun i fresh => ?_, hfront, ?_, hlinked.numbers,
    hfront ▸ hlinked.admitted, fun turn ht => ?_, ?_⟩
  · obtain ⟨v, hv⟩ := s.met_arrive i fresh
    exact ⟨_, v, rfl, hv⟩
  · obtain ⟨es', hsub, hrun, hlen⟩ := run_kept h
    exact ⟨es', hsub, hrun, hlen⟩
  · obtain ⟨es', htraffic⟩ := run_traffic h
    obtain ⟨trip, hi, hreq⟩ := (Traffic.owned_of_run htraffic).turns turn ht
    obtain ⟨v, hv, n, x, hn, hk, hx, htrip⟩ := hlinked.visit_of_trip hi
    exact ⟨v, hv, n, x, hn, hk, hfront ▸ hx, hreq.trans htrip⟩
  · have hstart : (start g capacity workers signal d).counted .queueRejections
        = d.metrics.value .queueRejections := Nat.zero_add _
    refine run_keeps (P := fun s => s.counted .queueRejections
      = d.metrics.value .queueRejections + s.visits.countP Visit.isSurplus) ?_ hstart h
    intro s t e hs hstep
    have := hstep.counted_add
    omega

/-- Requests without a cluster, with a body that is too large, and two more, for one of which there
is room. -/
def crowd : List Event :=
  let named : Inbound := ⟨"GET", some "/x", [⟨contextHeader, [99]⟩], []⟩
  [.arrive ⟨"GET", some "/x", [], []⟩ [1], .arrive { named with body := [1, 2, 3] } [2],
    .arrive named [3], .receive 0 .zero, .arrive named [4], .arrive named [5]]

theorem refused_without_trace_crowd : ∃ s,
    (start ⟨none, 2⟩ 1 1 .make (.make {} none [])).run crowd = some s
    ∧ s.visits.map Visit.number? = [none, none, some 0, some 1, none]
    ∧ s.counted .queueRejections = 1
    ∧ (∃ es', es'.Sublist crowd ∧ es'.length = 3
      ∧ (start ⟨none, 2⟩ 1 1 .make (.make {} none [])).run es' = some s.kept) := by
  obtain ⟨s, hs, hnumbers, hsurplus, hout⟩ : ∃ s,
      (start ⟨none, 2⟩ 1 1 .make (.make {} none [])).run crowd = some s
      ∧ s.visits.map Visit.number? = [none, none, some 0, some 1, none]
      ∧ s.visits.countP Visit.isSurplus = 1 ∧ s.visits.countP (!·.isIn) = 3 := by
    refine ⟨_, rfl, ?_, ?_, ?_⟩
    all_goals rfl
  obtain ⟨-, -, ⟨es', hsub, hrun, hlen⟩, -, -, -, hcounted⟩ := refused_without_trace hs
  rw [hout] at hlen
  rw [hsurplus] at hcounted
  exact ⟨s, hs, hnumbers, hcounted, es', hsub, by simpa [crowd] using hlen, hrun⟩

end Site

end Gateway

end Switchyard
