import Switchyard.Dispatch.Traffic
import Switchyard.Proofs.Failover
import Switchyard.Proofs.Replay

/-!
# What an event does to traffic

`Traffic.Goes` lists the steps that a trip can take and what each does to the dispatcher and to the
record of the attempts, and `Traffic.Step` what can happen in traffic.  What is kept by them is
kept by whole runs, also when it speaks about the events so far (`Traffic.run_keeps`), and what a
trip keeps with its turns at each of its steps holds of all trips (`Traffic.run_keeps_trips`).
Each trip is an execution of its own request, and the requests that its turns have sent are those of
that execution (`Traffic.trip_replay`, `Traffic.owned_of_run`).
-/

namespace Switchyard.Dispatch

open Http (Request)

theorem getElem?_set_cases {γ : Type} {xs : List γ} {i j : Nat} {a b c : γ}
    (hi : xs[i]? = some a) (h : (xs.set i b)[j]? = some c) :
    j = i ∧ c = b ∨ j ≠ i ∧ xs[j]? = some c := by
  by_cases hj : i = j
  · subst hj
    rw [List.getElem?_set_self (List.getElem?_eq_some_iff.mp hi).1, Option.some.injEq] at h
    exact Or.inl ⟨rfl, h.symm⟩
  · rw [List.getElem?_set_ne hj] at h
    exact Or.inr ⟨Ne.symm hj, h⟩

theorem getElem?_concat_cases {γ : Type} {xs : List γ} {j : Nat} {b c : γ}
    (h : (xs ++ [b])[j]? = some c) : xs[j]? = some c ∨ j = xs.length ∧ c = b := by
  simp only [List.getElem?_append, List.getElem?_singleton] at h
  split_ifs at h with hj h0
  · exact Or.inl h
  · exact Or.inr ⟨by omega, (Option.some.inj h).symm⟩

namespace Call

theorem request_of_afterFailure {c d : Call} {draw : Nat} {now : Span} {f : Failure}
    (h : c.afterFailure draw now f = .ok d) : d.request = c.request := by
  unfold afterFailure at h
  cases hr : c.retries.retry draw (now.since c.began) ⟨c.request.method, c.request.url, f⟩ with
  | error e => simp [hr, Except.map] at h
  | ok retries =>
    simp only [hr, Except.map, Except.ok.injEq] at h
    rw [← h]

end Call

namespace Execution

def call? : Execution → Option Call
  | .preparing c | .sending c _ | .resting c => some c
  | _ => none

/-- An execution that is under way stays with its request. -/
theorem call?_of_after {x y : Execution} {h : Happening} {c : Call} (hx : x.after h = some y)
    (hc : y.call? = some c) (hh : ∀ now, h ≠ .began now) :
    ∃ b, x.call? = some b ∧ c.request = b.request := by
  unfold after at hx
  split at hx
  · exact absurd rfl (hh _)
  · cases hx
    cases hc
  · cases hx
    exact ⟨c, hc, rfl⟩
  · cases hx
    cases hc
  · cases hx
    cases hc
  · rename_i b aimed f draw now
    refine ⟨b, rfl, ?_⟩
    rw [Option.some.injEq] at hx
    subst hx
    unfold afterFailure at hc
    cases hf : b.afterFailure draw now f with
    | error e => simp [hf, call?] at hc
    | ok next =>
      simp only [hf, call?, Option.some.injEq] at hc
      rw [← hc]
      exact Call.request_of_afterFailure hf
  · cases hx
    exact ⟨c, hc, rfl⟩
  · cases hx

theorem replay_concat {x : Execution} {hs : List Happening} {h : Happening} :
    x.replay (hs ++ [h]) = (x.replay hs).bind (·.after h) := by
  induction hs generalizing x with
  | nil => simp [replay]
  | cons g gs ih =>
    cases hg : x.after g with
    | none => simp [replay, hg]
    | some y => simp [replay, hg, ih]

end Execution

namespace Dispatcher

theorem policy_resolve (d : Dispatcher) {c : String} : (d.resolve c).1.policy = d.policy := rfl

theorem policy_choose (d : Dispatcher) {r : Request} {endpoints : List Endpoint} :
    (d.choose r endpoints).1.policy = d.policy := by
  unfold choose
  split <;> rfl

theorem choose_metrics (d : Dispatcher) (r : Request) (es : List Endpoint) :
    (d.choose r es).1.metrics = d.metrics := by
  unfold choose
  split <;> rfl

theorem policy_note (d : Dispatcher) (r : Request) (x : Execution) :
    (d.note r x).policy = d.policy := by
  unfold note
  split <;> rfl

end Dispatcher

/-- The requests that some turns have sent. -/
def sentBy (turns : List Turn) : List Request := turns.filterMap (·.result.toOption)

theorem sentBy_append (turns turns' : List Turn) :
    sentBy (turns ++ turns') = sentBy turns ++ sentBy turns' := List.filterMap_append

namespace Traffic

theorem run_append (s : Traffic) (es es' : List Event) :
    s.run (es ++ es') = (s.run es).bind fun t => t.run es' := by
  induction es generalizing s with
  | nil => rfl
  | cons e es ih =>
    rw [List.cons_append, run, run, Option.bind_assoc]
    exact Option.bind_congr fun t _ => ih t

/-- The steps that a trip can take at an event: what it is then, the dispatcher, and the attempt
that was made. -/
inductive Goes (d : Dispatcher) (i : Nat) : Event → Trip → Trip → Dispatcher → List Turn → Prop
  | resolve {r : Request} {c : Call} {e : Dispatcher} {endpoints : List Endpoint}
    (h : d.resolve c.request.contextId = (e, .ok endpoints)) :
    Goes d i (.resolve i) ⟨r, none, .preparing c⟩ ⟨r, some endpoints, .preparing c⟩ e []
  | unresolved {r : Request} {c : Call} {e : Dispatcher} {error : Error}
    (h : d.resolve c.request.contextId = (e, .error error)) :
    Goes d i (.resolve i) ⟨r, none, .preparing c⟩ ⟨r, none, .ended (.answered (.error error))⟩
      (e.countResult r (.error error)) []
  | aim {r aimed : Request} {c : Call} {e : Dispatcher} {endpoints : List Endpoint}
    (h : d.choose c.request endpoints = (e, .ok aimed)) :
    Goes d i (.choose i) ⟨r, some endpoints, .preparing c⟩ ⟨r, none, .sending c aimed⟩ e
      [⟨i, c.request, endpoints, .ok aimed⟩]
  | unaimed {r : Request} {c : Call} {e : Dispatcher} {endpoints : List Endpoint} {error : Error}
    (h : d.choose c.request endpoints = (e, .error error)) :
    Goes d i (.choose i) ⟨r, some endpoints, .preparing c⟩
      ⟨r, none, .ended (.answered (.error error))⟩ (e.countResult r (.error error))
      [⟨i, c.request, endpoints, .error error⟩]
  | reply {trip : Trip} {x : Execution} {reply : Reply} {draw : Nat} {now : Span}
    (h : trip.progress.after (.replied reply draw now) = some x) :
    Goes d i (.reply i reply draw now) trip ⟨trip.request, none, x⟩ (d.note trip.request x) []
  | rest {trip : Trip} {x : Execution} (h : trip.progress.after .rested = some x) :
    Goes d i (.rest i) trip ⟨trip.request, none, x⟩ (d.note trip.request x) []

inductive Step (s : Traffic) : Event → Traffic → Prop
  | arrive (r : Request) (now : Span) : Step s (.arrive r now)
    { s with trips := s.trips ++ [⟨r, none, .preparing (.start s.dispatcher.policy r now)⟩] }
  | publish (c : String) (is : List Instance) :
    Step s (.publish c is) { s with dispatcher := s.dispatcher.publish c is }
  | goOn {i : Nat} {e : Event} {a b : Trip} {d : Dispatcher} {turns : List Turn}
    (hi : s.trips[i]? = some a) (h : Goes s.dispatcher i e a b d turns) :
    Step s e ⟨d, s.trips.set i b, s.turns ++ turns⟩

variable {s t : Traffic} {e : Event}

theorem happen_eq_some {i : Nat} {h : Happening} (hs : s.happen i h = some t) :
    ∃ trip x, s.trips[i]? = some trip ∧ trip.progress.after h = some x
      ∧ t = ⟨s.dispatcher.note trip.request x, s.trips.set i ⟨trip.request, none, x⟩, s.turns⟩ := by
  unfold happen at hs
  split at hs
  · cases hs
  · rename_i trip hi
    obtain ⟨x, hx, rfl⟩ := Option.map_eq_some_iff.mp hs
    exact ⟨trip, x, hi, hx, rfl⟩

theorem Step.of_step (h : s.step e = some t) : Step s e t := by
  cases e with
  | arrive r now => exact Option.some.inj h ▸ .arrive r now
  | publish c is => exact Option.some.inj h ▸ .publish c is
  | resolve i =>
    simp only [step] at h
    split at h
    · rename_i r c hi
      split at h
      · rename_i d endpoints hd
        cases h
        rw [← List.append_nil s.turns]
        exact .goOn hi (.resolve hd)
      · rename_i d error hd
        obtain ⟨trip, x, ht, hx, rfl⟩ := happen_eq_some h
        rw [hi, Option.some.injEq] at ht
        subst ht
        cases hx
        rw [← List.append_nil s.turns]
        exact .goOn hi (.unresolved hd)
    · cases h
  | choose i =>
    simp only [step] at h
    split at h
    · rename_i r endpoints c hi
      obtain ⟨trip, x, ht, hx, rfl⟩ := happen_eq_some h
      rw [hi, Option.some.injEq] at ht
      subst ht
      rcases hd : s.dispatcher.choose c.request endpoints with ⟨d, error | aimed⟩
      · rw [hd] at hx
        cases hx
        exact .goOn hi (.unaimed hd)
      · rw [hd] at hx
        cases hx
        exact .goOn hi (.aim hd)
    · cases h
  | reply i reply draw now =>
    obtain ⟨trip, x, hi, hx, rfl⟩ := happen_eq_some h
    rw [← List.append_nil s.turns]
    exact .goOn hi (.reply hx)
  | rest i =>
    obtain ⟨trip, x, hi, hx, rfl⟩ := happen_eq_some h
    rw [← List.append_nil s.turns]
    exact .goOn hi (.rest hx)

theorem run_keeps_after {P : List Event → Traffic → Prop}
    (hP : ∀ {past : List Event} {s t : Traffic} {e : Event}, P past s → Step s e t →
      P (past ++ [e]) t) :
    ∀ (es past : List Event) {s t : Traffic}, P past s → s.run es = some t → P (past ++ es) t
  | [], past, _, _, hs, h => by
    rw [List.append_nil]
    exact Option.some.inj h ▸ hs
  | e :: es, past, _, _, hs, h => by
    obtain ⟨u, hu, ht⟩ := Option.bind_eq_some_iff.mp h
    have := run_keeps_after hP es (past ++ [e]) (hP hs (.of_step hu)) ht
    rwa [List.append_assoc, List.singleton_append] at this

/-- What holds of the events so far and of where they lead is kept by every further event. -/
theorem run_keeps {P : List Event → Traffic → Prop}
    (hP : ∀ {past : List Event} {s t : Traffic} {e : Event}, P past s → Step s e t →
      P (past ++ [e]) t) {es : List Event} (hs : P [] s) (h : s.run es = some t) : P es t :=
  run_keeps_after hP es [] hs h

/-- The requests that the transport has got for a trip, in order. -/
def sentFor (s : Traffic) (i : Nat) : List Request :=
  s.turns.filterMap fun turn => if turn.trip = i then turn.result.toOption else none

/-- The turns of a trip, in order. -/
def turnsOf (s : Traffic) (i : Nat) : List Turn := s.turns.filter fun turn => turn.trip = i

theorem sentFor_eq (s : Traffic) (i : Nat) : s.sentFor i = sentBy (s.turnsOf i) := by
  rw [sentBy, turnsOf, List.filterMap_filter, sentFor]
  simp only [decide_eq_true_eq]

variable {d d' : Dispatcher} {i : Nat} {a b : Trip} {turns : List Turn}

theorem Goes.request_eq (h : Goes d i e a b d' turns) : b.request = a.request := by
  cases h <;> rfl

/-- A trip that has ended goes no further. -/
theorem Goes.not_ended (h : Goes d i e a b d' turns) (ending : Ending) :
    a.progress ≠ .ended ending := by
  intro ha
  cases h with
  | resolve | unresolved | aim | unaimed => cases ha
  | reply h | rest h =>
    rw [ha] at h
    cases h

theorem Goes.trip_eq (h : Goes d i e a b d' turns) : ∀ turn ∈ turns, turn.trip = i := by
  cases h <;> simp

/-- A turn is the choice that is made when it comes to pass. -/
theorem Step.turn_cases {k : Nat} {turn : Turn} (h : Step s e t) (hs : s.turns[k]? ≠ some turn)
    (ht : t.turns[k]? = some turn) : e = .choose turn.trip ∧ s.turns.length = k
      ∧ turn.result = (s.dispatcher.choose turn.request turn.offered).2 := by
  cases h with
  | arrive | publish => exact absurd ht hs
  | goOn hi hg =>
    cases hg with
    | resolve | unresolved | reply | rest =>
      rw [List.append_nil] at ht
      exact absurd ht hs
    | aim hc | unaimed hc =>
      rcases getElem?_concat_cases ht with ht | ⟨rfl, rfl⟩
      · exact absurd ht hs
      · exact ⟨rfl, rfl, by rw [hc]⟩

/-- Of a trip there are two kinds of step: it begins, and it goes on. -/
theorem Step.trip_cases (hs : Step s e t) (hplaced : ∀ turn ∈ s.turns, turn.trip < s.trips.length)
    (hi : t.trips[i]? = some b) :
    (∃ r now, b = ⟨r, none, .preparing (.start s.dispatcher.policy r now)⟩ ∧ t.turnsOf i = [])
    ∨ (s.trips[i]? = some b ∧ t.turnsOf i = s.turnsOf i)
    ∨ ∃ a d' turns, s.trips[i]? = some a ∧ Goes s.dispatcher i e a b d' turns
      ∧ t.turnsOf i = s.turnsOf i ++ turns := by
  cases hs with
  | arrive r now =>
    rcases getElem?_concat_cases hi with hi | ⟨rfl, rfl⟩
    · exact .inr (.inl ⟨hi, rfl⟩)
    · -- no turn is of a trip that has only just begun
      refine .inl ⟨r, now, rfl, List.filter_eq_nil_iff.mpr fun turn ht => ?_⟩
      rw [decide_eq_true_eq]
      exact Nat.ne_of_lt (hplaced turn ht)
  | publish c is => exact .inr (.inl ⟨hi, rfl⟩)
  | @goOn j e a c d turns hj hg =>
    rcases getElem?_set_cases hj hi with ⟨rfl, rfl⟩ | ⟨hne, hi⟩
    · refine .inr (.inr ⟨a, d, turns, hj, hg, ?_⟩)
      rw [turnsOf, List.filter_append]
      exact congrArg _ (List.filter_eq_self.mpr fun turn ht => decide_eq_true (hg.trip_eq turn ht))
    · have hnone : turns.filter (fun turn => turn.trip = i) = [] := by
        refine List.filter_eq_nil_iff.mpr fun turn ht => ?_
        rw [decide_eq_true_eq, hg.trip_eq turn ht]
        exact Ne.symm hne
      refine .inr (.inl ⟨hi, ?_⟩)
      rw [turnsOf, List.filter_append, hnone, List.append_nil]
      rfl

/-- A step of a trip is one of its execution, or it is none. -/
theorem Goes.replay (h : Goes d i e a b d' turns) {policy : Retry.Policy} {log : List Happening}
    (hlog : (Execution.ready policy a.request).replay log = some a.progress) :
    ∃ more, (Execution.ready policy b.request).replay (log ++ more) = some b.progress
      ∧ aimedIn more = sentBy turns := by
  cases h with
  | resolve => exact ⟨[], by rw [List.append_nil]; exact hlog, rfl⟩
  | unresolved =>
    exact ⟨[.prepared (.error _)], by rw [Execution.replay_concat, hlog]; rfl, rfl⟩
  | aim => exact ⟨[.prepared (.ok _)], by rw [Execution.replay_concat, hlog]; rfl, rfl⟩
  | unaimed => exact ⟨[.prepared (.error _)], by rw [Execution.replay_concat, hlog]; rfl, rfl⟩
  | reply h => exact ⟨[.replied _ _ _], by rw [Execution.replay_concat, hlog]; exact h, rfl⟩
  | rest h => exact ⟨[.rested], by rw [Execution.replay_concat, hlog]; exact h, rfl⟩

theorem Goes.policy_eq (h : Goes d i e a b d' turns) : d'.policy = d.policy := by
  cases h with
  | resolve h => rw [← Dispatcher.policy_resolve d, h]
  | unresolved h => rw [← Dispatcher.policy_resolve d, h]; rfl
  | aim h => rw [← Dispatcher.policy_choose d, h]
  | unaimed h => rw [← Dispatcher.policy_choose d, h]; rfl
  | reply | rest => exact Dispatcher.policy_note _ _ _

/-- Trips are executions of their requests. -/
structure Executed (policy : Retry.Policy) (s : Traffic) : Prop where
  same : s.dispatcher.policy = policy
  placed : ∀ turn ∈ s.turns, turn.trip < s.trips.length
  replayed : ∀ {i trip}, s.trips[i]? = some trip → ∃ log,
    (Execution.ready policy trip.request).replay log = some trip.progress
      ∧ aimedIn log = s.sentFor i

theorem Executed.step {policy : Retry.Policy} (h : s.Executed policy) (hs : Step s e t) :
    t.Executed policy := by
  refine ⟨?_, ?_, fun {i trip} hi => ?_⟩
  · cases hs with
    | arrive | publish => exact h.same
    | goOn hi hg => exact hg.policy_eq.trans h.same
  · intro turn ht
    cases hs with
    | arrive r now =>
      have := h.placed turn ht
      simp only [List.length_append, List.length_singleton]
      omega
    | publish c is => exact h.placed turn ht
    | goOn hi hg =>
      rw [List.length_set]
      rcases List.mem_append.mp ht with ht | ht
      · exact h.placed turn ht
      · rw [hg.trip_eq turn ht]
        exact (List.getElem?_eq_some_iff.mp hi).1
  · simp only [sentFor_eq]
    rcases hs.trip_cases h.placed hi with
      ⟨r, now, rfl, hnone⟩ | ⟨hi, hsame⟩ | ⟨a, d', turns, hi, hg, hmore⟩
    · exact ⟨[.began now], by rw [← h.same]; rfl, by rw [hnone]; rfl⟩
    · rw [hsame, ← sentFor_eq]
      exact h.replayed hi
    · obtain ⟨log, hlog, haimed⟩ := h.replayed hi
      obtain ⟨more, hreplay, hsent⟩ := hg.replay hlog
      refine ⟨log ++ more, hreplay, ?_⟩
      rw [aimedIn_append, haimed, hsent, hmore, sentBy_append, sentFor_eq]

theorem executed_start (d : Dispatcher) : (start d).Executed d.policy :=
  ⟨rfl, fun _ ht => absurd ht List.not_mem_nil, fun hi => nomatch hi⟩

/-- What holds of a trip that begins, and is kept by each of its steps together with the turns that
it has had, holds of all trips. -/
theorem run_keeps_trips {Q : Trip → List Turn → Prop}
    (hnew : ∀ r now, Q ⟨r, none, .preparing (.start d.policy r now)⟩ [])
    (hgoes : ∀ {d d' : Dispatcher} {i : Nat} {e : Event} {a b : Trip} {past turns : List Turn},
      Goes d i e a b d' turns → Q a past → Q b (past ++ turns))
    {es : List Event} (h : (start d).run es = some t) (hi : t.trips[i]? = some a) :
    Q a (t.turnsOf i) := by
  have hkept := run_keeps
    (P := fun _ s => s.Executed d.policy ∧ ∀ {i a}, s.trips[i]? = some a → Q a (s.turnsOf i))
    (fun {past s t e} ⟨hs, hq⟩ hstep => by
      refine ⟨hs.step hstep, fun {i b} hi => ?_⟩
      rcases hstep.trip_cases hs.placed hi with
        ⟨r, now, rfl, hnone⟩ | ⟨hi, hsame⟩ | ⟨a, d', turns, hi, hg, hmore⟩
      · rw [hnone, hs.same]
        exact hnew r now
      · rw [hsame]
        exact hq hi
      · rw [hmore]
        exact hgoes hg (hq hi))
    ⟨executed_start d, fun hi => nomatch hi⟩ h
  exact hkept.2 hi

theorem trip_replay {es : List Event} (h : (start d).run es = some t)
    (hi : t.trips[i]? = some a) : ∃ log,
      (Execution.ready d.policy a.request).replay log = some a.progress
        ∧ aimedIn log = t.sentFor i := by
  exact (run_keeps (P := fun _ s => s.Executed d.policy) (fun h hs => h.step hs)
    (executed_start d) h).replayed hi

theorem Goes.call_request (h : Goes d i e a b d' turns) {c : Call}
    (hc : b.progress.call? = some c) :
    ∃ c₀, a.progress.call? = some c₀ ∧ c.request = c₀.request := by
  cases h with
  | resolve | aim =>
    cases hc
    exact ⟨c, rfl, rfl⟩
  | unresolved | unaimed => cases hc
  | reply h | rest h => exact Execution.call?_of_after h hc fun _ h => nomatch h

theorem Goes.turn_request (h : Goes d i e a b d' turns) {turn : Turn} (ht : turn ∈ turns) :
    ∃ c, a.progress.call? = some c ∧ turn.request = c.request := by
  cases h with
  | aim | unaimed =>
    rw [List.mem_singleton.mp ht]
    exact ⟨_, rfl, rfl⟩
  | resolve | unresolved | reply | rest => cases ht

/-- Calls and turns are for the requests of their trips. -/
structure Owned (s : Traffic) : Prop where
  calls : ∀ {i : Nat} {trip : Trip} {c : Call}, s.trips[i]? = some trip →
    trip.progress.call? = some c → c.request = trip.request
  turns : ∀ turn ∈ s.turns, ∃ trip, s.trips[turn.trip]? = some trip ∧ turn.request = trip.request

theorem Owned.step (h : s.Owned) (hs : Step s e t) : t.Owned := by
  cases hs with
  | arrive r now =>
    refine ⟨fun hi hc => ?_, fun turn ht => ?_⟩
    · rcases getElem?_concat_cases hi with hi | ⟨-, rfl⟩
      · exact h.calls hi hc
      · cases hc
        rfl
    · obtain ⟨trip, hi, hr⟩ := h.turns turn ht
      exact ⟨trip, by rw [List.getElem?_append_left (List.getElem?_eq_some_iff.mp hi).1, hi], hr⟩
  | publish c is => exact ⟨h.calls, h.turns⟩
  | @goOn i e a b d turns hi hg =>
    have hb : (s.trips.set i b)[i]? = some b :=
      List.getElem?_set_self (List.getElem?_eq_some_iff.mp hi).1
    refine ⟨fun hj hc => ?_, fun turn ht => ?_⟩
    · rcases getElem?_set_cases hi hj with ⟨rfl, rfl⟩ | ⟨-, hj⟩
      · obtain ⟨c₀, hc₀, hr⟩ := hg.call_request hc
        rw [hr, h.calls hi hc₀, hg.request_eq]
      · exact h.calls hj hc
    · rcases List.mem_append.mp ht with ht | ht
      · obtain ⟨trip, hj, hr⟩ := h.turns turn ht
        by_cases hij : i = turn.trip
        · subst hij
          rw [hi, Option.some.injEq] at hj
          exact ⟨b, hb, by rw [hr, hg.request_eq, hj]⟩
        · exact ⟨trip, by rw [List.getElem?_set_ne hij, hj], hr⟩
      · obtain ⟨c, hc, hr⟩ := hg.turn_request ht
        rw [hg.trip_eq turn ht]
        exact ⟨b, hb, by rw [hr, h.calls hi hc, hg.request_eq]⟩

theorem owned_of_run {es : List Event} (h : (start d).run es = some t) : t.Owned := by
  have hd : (start d).Owned := ⟨fun hi => by simp [start] at hi, by simp [start]⟩
  exact run_keeps (P := fun _ s => s.Owned) (fun h hs => h.step hs) hd h

end Traffic

end Switchyard.Dispatch
