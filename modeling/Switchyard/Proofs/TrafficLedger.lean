import Switchyard.Proofs.Conservation
import Switchyard.Proofs.Selection

/-!
# Traffic in a ledger

A ledger can be kept of whatever goes on in traffic (`Traffic.exists_ledger`): there is an account
for each trip, the counts are those of the dispatcher, the calls are the turns whose requests were
sent, and those that failed are the failing replies (`Ledger.Keeps`).  So the counts of a dispatcher
balance when all of its trips are over (`Traffic.calls_conserved`).
-/

namespace Switchyard.Dispatch

open Http (Request Response)

theorem Dispatcher.metrics_note (d : Dispatcher) (r : Request) (x : Execution) :
    (d.note r x).metrics = d.metrics.note r x := by
  rcases x with _ | _ | _ | _ | (_ | _) <;> rfl

theorem Dispatcher.isPossible_resolve {d e : Dispatcher} {c : String} {error : Error}
    (h : d.resolve c = (e, .error error)) :
    (Happening.prepared (.error error)).isPossible = true := by
  obtain ⟨_, rfl⟩ | rfl := error_of_resolve h <;> rfl

theorem Dispatcher.isPossible_choose {d e : Dispatcher} {r : Request} {endpoints : List Endpoint}
    {result : Except Error Request} (h : d.choose r endpoints = (e, result)) :
    (Happening.prepared result).isPossible = true := by
  cases result with
  | ok aimed => rfl
  | error error => obtain rfl | ⟨_, rfl⟩ := error_of_choose (congrArg Prod.snd h) <;> rfl

theorem Dispatcher.metrics_of_choose {d e : Dispatcher} {r : Request} {endpoints : List Endpoint}
    {result : Except Error Request} (h : d.choose r endpoints = (e, result)) :
    e.metrics = d.metrics := by
  rw [← d.choose_metrics r endpoints, h]

/-- A request of a method was sent to a server. -/
def Turn.isCall (turn : Turn) (m : String) : Bool := turn.request.method == m && turn.result.isOk

namespace Traffic

/-- How many calls there were to the transport for a method. -/
def calls (s : Traffic) (m : String) : Nat := s.turns.countP (·.isCall m)

def results (s : Traffic) (m : String) : List (Except Error Response) :=
  (s.trips.filter (·.request.method == m)).filterMap (·.progress.result?)

/-- The trip whose call to the transport has failed. -/
def Event.failed? : Event → Option Nat
  | .reply trip (.failure _) _ _ => some trip
  | _ => none

/-- Whether a trip of the method has the number. -/
def hasTrip (s : Traffic) (m : String) (i : Nat) : Bool := s.trips[i]?.any (·.request.method == m)

/-- How many calls to the transport for a method have failed by the events. -/
def failedCalls (s : Traffic) (es : List Event) (m : String) : Nat :=
  (es.filterMap Event.failed?).countP (s.hasTrip m)

variable {s t : Traffic}

theorem failedCalls_congr {es : List Event} {m : String}
    (h : ∀ i ∈ es.filterMap Event.failed?, t.hasTrip m i = s.hasTrip m i) :
    t.failedCalls es m = s.failedCalls es m :=
  List.countP_congr fun i hi => by rw [h i hi]

theorem failedCalls_concat (s : Traffic) (es : List Event) (e : Event) (m : String) :
    s.failedCalls (es ++ [e]) m = s.failedCalls es m + (e.failed?.any (s.hasTrip m)).toNat := by
  rw [failedCalls, List.filterMap_append, List.countP_append, failedCalls, List.filterMap_cons]
  cases he : e.failed? with
  | none => simp
  | some i => cases hm : s.hasTrip m i <;> simp [hm]

/-- A trip stays one for its method. -/
theorem hasTrip_set {i : Nat} {a b : Trip} (hi : s.trips[i]? = some a)
    (hb : b.request = a.request) (d : Dispatcher) (turns : List Turn) (m : String) (j : Nat) :
    hasTrip ⟨d, s.trips.set i b, turns⟩ m j = s.hasTrip m j := by
  simp only [hasTrip, List.getElem?_set]
  split_ifs with hij hlt
  · subst hij
    simp [hi, hb]
  · subst hij
    rw [List.getElem?_eq_none (Nat.le_of_not_lt hlt)]
  · rfl

end Traffic

namespace Ledger

/-- A ledger for what the events have made of traffic. -/
structure Keeps (l : Ledger) (past : List Traffic.Event) (s : Traffic) : Prop where
  metrics : l.metrics = s.dispatcher.metrics
  trips : l.accounts.map (fun a => (a.request, a.progress))
    = s.trips.map fun trip => (trip.request, trip.progress)
  calls : ∀ m, l.happened m Happening.isSent = s.calls m
  failed : ∀ m, l.happened m Happening.isFailure = s.failedCalls past m
  /-- A call that has failed was one of a trip that had been begun. -/
  begun : ∀ i ∈ past.filterMap Traffic.Event.failed?, i < s.trips.length

theorem run_append (es fs : List Event) (l : Ledger) :
    l.run (es ++ fs) = (l.run es).bind (·.run fs) := by
  induction es generalizing l with
  | nil => rfl
  | cons e es ih =>
    rw [List.cons_append, run, run, Option.bind_assoc]
    exact Option.bind_congr fun k _ => ih k

theorem run_single {l k : Ledger} {e : Event} (h : l.step e = some k) : l.run [e] = some k := by
  rw [run, h]
  rfl

theorem run_concat {es : List Event} {l k j : Ledger} {e : Event} (h : l.run es = some k)
    (hs : k.step e = some j) : l.run (es ++ [e]) = some j := by
  rw [run_append, h, Option.bind_some, run_single hs]

theorem run_updates (us : List Update) (l : Ledger) :
    l.run (us.map fun u => .update u.1 u.2) = some { l with metrics := l.metrics.updates us } := by
  induction us generalizing l with
  | nil => rfl
  | cons u us ih => exact ih _

theorem happened_set {l : Ledger} {i : Nat} {a : Account} (ha : l.accounts[i]? = some a)
    (h : Happening) (x : Execution) (metrics : Metrics) (m : String) (p : Happening → Bool) :
    happened ⟨l.accounts.set i ⟨a.request, a.log ++ [h], x⟩, metrics⟩ m p
      = l.happened m p + (a.isFor m && p h).toNat := by
  simp only [happened, of]
  rw [← sum_map_filter, ← sum_map_filter]
  have hset := sum_map_set_add ha ⟨a.request, a.log ++ [h], x⟩
    fun a => (a.isFor m).toNat * a.log.countP p
  have hsame : Account.isFor ⟨a.request, a.log ++ [h], x⟩ m = a.isFor m := rfl
  rw [countP_concat, hsame, Nat.mul_add] at hset
  have hand : (a.isFor m).toNat * (p h).toNat = (a.isFor m && p h).toNat := by
    cases a.isFor m <;> simp
  omega

/-- An account that has only just been opened has no calls. -/
theorem happened_opened (l : Ledger) (r : Request) {now : Span} (x : Execution) (m : String)
    {p : Happening → Bool} (hp : p (.began now) = false) :
    happened ⟨l.accounts ++ [⟨r, [.began now], x⟩], l.metrics⟩ m p = l.happened m p := by
  rw [happened, happened, of, of, ← sum_map_filter, ← sum_map_filter, List.map_append,
    List.sum_append]
  simp [hp]

section Keeps

variable {l : Ledger} {s : Traffic} {past : List Traffic.Event} {e : Traffic.Event}

/-- The next event changes nothing that is kept, as long as no call fails with it. -/
theorem Keeps.pass (hl : l.Keeps past s) (he : e.failed? = none) : l.Keeps (past ++ [e]) s where
  metrics := hl.metrics
  trips := hl.trips
  calls := hl.calls
  failed m := by rw [Traffic.failedCalls_concat, he, hl.failed]; rfl
  begun := by simpa [List.filterMap_append, he] using hl.begun

/-- What happens to a trip happens to the account that is kept for it.  A turn that it takes with
it is a call, and a call has failed if that is what happens. -/
theorem Keeps.happen (hl : l.Keeps past s) {i : Nat} {trip : Trip} {h : Happening} {x : Execution}
    (hi : s.trips[i]? = some trip) (hh : h.isPossible = true) (hx : trip.progress.after h = some x)
    (he : e.failed? = if h.isFailure then some i else none) {turns : List Turn}
    (hturns : ∀ m, turns.countP (·.isCall m) = (trip.request.method == m && h.isSent).toNat) :
    ∃ k, l.step (.happen i h) = some k ∧ k.Keeps (past ++ [e])
      ⟨s.dispatcher.note trip.request x, s.trips.set i ⟨trip.request, none, x⟩,
        s.turns ++ turns⟩ := by
  have ha : (l.accounts.map fun a => (a.request, a.progress))[i]?
      = some (trip.request, trip.progress) := by
    rw [hl.trips, List.getElem?_map, hi]
    rfl
  rw [List.getElem?_map] at ha
  obtain ⟨a, ha, heq⟩ := Option.map_eq_some_iff.mp ha
  obtain ⟨hr, hp⟩ := Prod.mk.inj heq
  have hsame := Traffic.hasTrip_set hi (b := ⟨trip.request, none, x⟩) rfl
    (s.dispatcher.note trip.request x) (s.turns ++ turns)
  refine ⟨⟨l.accounts.set i ⟨a.request, a.log ++ [h], x⟩, l.metrics.note a.request x⟩, ?_, ?_, ?_,
    fun m => ?_, fun m => ?_, fun j hj => ?_⟩
  · simp only [step, ha, hh, if_true, hp, hx, Option.map_some]
  · rw [hl.metrics, hr, Dispatcher.metrics_note]
  · simp only [List.map_set, hl.trips, hr]
  · rw [happened_set ha, hl.calls, Traffic.calls, Traffic.calls, List.countP_append, hturns,
      Account.isFor, hr]
  · rw [happened_set ha, hl.failed, Traffic.failedCalls_concat,
      Traffic.failedCalls_congr fun j _ => hsame m j, he, Account.isFor, hr]
    cases h.isFailure with
    | false => simp
    | true => rw [if_pos rfl, Option.any_some, hsame, Traffic.hasTrip, hi, Bool.and_true]; rfl
  · rw [List.length_set]
    rw [List.filterMap_append, List.mem_append] at hj
    rcases hj with hj | hj
    · exact hl.begun j hj
    · have hji : j = i := by
        cases hf : h.isFailure <;> simp [he, hf] at hj
        exact hj
      exact hji ▸ (List.getElem?_eq_some_iff.mp hi).1

/-- The lists that are pushed while a cluster is resolved leave the accounts alone. -/
theorem Keeps.resolve (hl : l.Keeps past s) {d : Dispatcher} {c : String}
    {result : Except Error (List Endpoint)} (h : s.dispatcher.resolve c = (d, result)) :
    ∃ es k, l.run es = some k ∧ k.Keeps past { s with dispatcher := d } := by
  obtain rfl : (s.dispatcher.resolve c).1 = d := congrArg Prod.fst h
  exact ⟨_, _, run_updates (s.dispatcher.directory.resolve c).2.1 l, by rw [hl.metrics]; rfl,
    hl.trips, hl.calls, hl.failed, hl.begun⟩

/-- Endpoints that are at hand for a trip are not in its account. -/
theorem Keeps.offer (hl : l.Keeps past s) {i : Nat} {r : Request} {x : Execution}
    {offered : Option (List Endpoint)} (hi : s.trips[i]? = some ⟨r, offered, x⟩)
    (endpoints : List Endpoint) :
    l.Keeps past { s with trips := s.trips.set i ⟨r, some endpoints, x⟩ } where
  metrics := hl.metrics
  trips := by
    have hsame : (s.trips.map fun trip => (trip.request, trip.progress))[i]? = some (r, x) := by
      rw [List.getElem?_map, hi]
      rfl
    rw [List.map_set]
    exact hl.trips.trans (set_of_getElem? hsame).symm
  calls := hl.calls
  failed m := (hl.failed m).trans (Traffic.failedCalls_congr fun j _ =>
    Traffic.hasTrip_set hi (b := ⟨r, some endpoints, x⟩) rfl s.dispatcher s.turns m j).symm
  begun j hj := by
    rw [List.length_set]
    exact hl.begun j hj

theorem Keeps.results_eq (hl : l.Keeps past s) (m : String) :
    l.results m = s.results m := by
  have hpairs := congrArg (fun pairs => (pairs.filter (·.1.method == m)).filterMap (·.2.result?))
    hl.trips
  simp only [List.filter_map, List.filterMap_map] at hpairs
  exact hpairs

theorem Keeps.length_of (hl : l.Keeps past s) (m : String) :
    (l.of m).length = s.trips.countP (·.request.method == m) := by
  have hpairs := congrArg (fun pairs => pairs.countP (·.1.method == m)) hl.trips
  simp only [List.countP_map] at hpairs
  rw [of, ← List.countP_eq_length_filter]
  exact hpairs

/-- When all trips have been answered, so have all accounts. -/
theorem Keeps.over (hl : l.Keeps past s)
    (hover : ∀ trip ∈ s.trips, ∃ result, trip.progress = .ended (.answered result)) :
    ∀ a ∈ l.accounts, ∃ result, a.progress = .ended (.answered result) := by
  intro a ha
  have hmem : (a.request, a.progress) ∈ s.trips.map fun trip => (trip.request, trip.progress) :=
    hl.trips ▸ List.mem_map_of_mem ha
  obtain ⟨trip, htrip, heq⟩ := List.mem_map.mp hmem
  obtain ⟨result, hp⟩ := hover trip htrip
  exact ⟨result, (Prod.mk.inj heq).2 ▸ hp⟩

end Keeps

end Ledger

namespace Traffic

variable {s t : Traffic} {e : Event} {past : List Event} {l : Ledger}

/-- A step of a trip is an event of its account, behind the lists that were pushed on the way. -/
theorem Goes.exists_ledger {i : Nat} {a b : Trip} {d : Dispatcher} {turns : List Turn}
    (h : Goes s.dispatcher i e a b d turns) (hi : s.trips[i]? = some a) (hs : s.Owned)
    (hl : l.Keeps past s) :
    ∃ es k, l.run es = some k
      ∧ k.Keeps (past ++ [e]) ⟨d, s.trips.set i b, s.turns ++ turns⟩ := by
  have hnone : ∀ (r : Request) m, ([] : List Turn).countP (·.isCall m)
      = (r.method == m && false).toNat := fun r m => by rw [Bool.and_false]; rfl
  cases h with
  | @resolve r c d endpoints h =>
    obtain ⟨es, k, hrun, hk⟩ := hl.resolve h
    rw [List.append_nil]
    exact ⟨es, k, hrun, (hk.pass rfl).offer hi endpoints⟩
  | @unresolved r c d error h =>
    obtain ⟨es, k, hrun, hk⟩ := hl.resolve h
    obtain ⟨k', hstep, hk'⟩ := hk.happen (e := .resolve i) hi (Dispatcher.isPossible_resolve h) rfl
      rfl (hnone r)
    exact ⟨_, k', Ledger.run_concat hrun hstep, hk'⟩
  | @aim r aimed c d endpoints h =>
    have hr : c.request = r := hs.calls hi rfl
    have hcall : ∀ m, [(⟨i, c.request, endpoints, .ok aimed⟩ : Turn)].countP (·.isCall m)
        = (r.method == m && true).toNat := fun m => by
      rw [List.countP_singleton, Turn.isCall, hr]
      cases r.method == m <;> rfl
    obtain ⟨k, hstep, hk⟩ := hl.happen (e := .choose i) hi (Dispatcher.isPossible_choose h) rfl rfl
      hcall
    exact ⟨_, k, Ledger.run_single hstep, hk.metrics.trans (Dispatcher.metrics_of_choose h).symm,
      hk.trips, hk.calls, hk.failed, hk.begun⟩
  | @unaimed r c d endpoints error h =>
    have hcall : ∀ m, [(⟨i, c.request, endpoints, .error error⟩ : Turn)].countP (·.isCall m)
        = (r.method == m && false).toNat := fun m => by
      rw [List.countP_singleton, Turn.isCall, Bool.and_false]
      exact if_neg (by simp [Except.isOk, Except.toBool])
    obtain ⟨k, hstep, hk⟩ := hl.happen (e := .choose i) hi (Dispatcher.isPossible_choose h) rfl rfl
      hcall
    refine ⟨_, k, Ledger.run_single hstep, hk.metrics.trans ?_, hk.trips, hk.calls, hk.failed,
      hk.begun⟩
    show s.dispatcher.metrics.request r.method _ = d.metrics.request r.method _
    rw [Dispatcher.metrics_of_choose h]
  | @reply _ x reply draw now h =>
    obtain ⟨k, hstep, hk⟩ := hl.happen (e := .reply i reply draw now) hi rfl h
      (by cases reply <;> rfl) (hnone a.request)
    exact ⟨_, k, Ledger.run_single hstep, hk⟩
  | @rest _ x h =>
    obtain ⟨k, hstep, hk⟩ := hl.happen (e := .rest i) hi rfl h rfl (hnone a.request)
    exact ⟨_, k, Ledger.run_single hstep, hk⟩

theorem Step.exists_ledger (h : Step s e t) (hs : s.Owned) (hl : l.Keeps past s) :
    ∃ es k, l.run es = some k ∧ k.Keeps (past ++ [e]) t := by
  cases h with
  | arrive r now =>
    have hl' := hl.pass (e := .arrive r now) rfl
    refine ⟨[.arrive s.dispatcher.policy r now], _, rfl, hl.metrics, by simp [hl.trips],
      fun m => (Ledger.happened_opened l r _ m rfl).trans (hl.calls m),
      fun m => (Ledger.happened_opened l r _ m rfl).trans
        ((hl'.failed m).trans (failedCalls_congr fun i hi => ?_).symm), fun i hi => ?_⟩
    · simp only [hasTrip, List.getElem?_append_left (hl'.begun i hi)]
    · rw [List.length_append]
      exact Nat.lt_add_right 1 (hl'.begun i hi)
  | publish c is =>
    have hl' := hl.pass (e := .publish c is) rfl
    exact ⟨_, _, Ledger.run_updates _ l, by rw [hl.metrics]; rfl, hl.trips, hl.calls, hl'.failed,
      hl'.begun⟩
  | goOn hi h => exact h.exists_ledger hi hs hl

/-- A ledger can be kept of all traffic. -/
theorem exists_ledger {d : Dispatcher} (hd : d.metrics = .empty) {es : List Event}
    (h : (start d).run es = some s) :
    ∃ es' l, Ledger.empty.run es' = some l ∧ l.Keeps es s := by
  have hstart : (start d).Owned := ⟨fun hi => by simp [start] at hi, by simp [start]⟩
  have hkept : s.Owned ∧ ∃ es' l, Ledger.empty.run es' = some l ∧ l.Keeps es s :=
    run_keeps (P := fun past s => s.Owned ∧ ∃ es' l, Ledger.empty.run es' = some l
        ∧ l.Keeps past s)
      (fun {past s t e} hs hstep => by
        obtain ⟨howned, fs, l, hl, hkeeps⟩ := hs
        obtain ⟨more, k, hk, hkeeps'⟩ := hstep.exists_ledger howned hkeeps
        exact ⟨howned.step hstep, fs ++ more, k, by rw [Ledger.run_append, hl]; exact hk, hkeeps'⟩)
      ⟨hstart, [], _, rfl, hd.symm, rfl, fun _ => rfl, fun _ => rfl,
        fun _ hi => absurd hi List.not_mem_nil⟩ h
  exact hkept.2

/-- The counts of a dispatcher balance: when all of its trips have been answered, the results of
each class are counted under its label and nothing under another, there are as many of them as of
trips and of durations, the calls to the transport that failed are the retries and those that the
results tell of, and there was a call for each response, for each result that says that one has
failed, and for each retry.  For the traffic is kept in a ledger, and the counts of any ledger
balance, whatever has prepared the requests in it and under whatever policies. -/
theorem calls_conserved {d : Dispatcher} (hd : d.metrics = .empty) {es : List Event}
    (h : (start d).run es = some s) :
    ((∀ trip ∈ s.trips, ∃ result, trip.progress = .ended (.answered result)) →
      ∀ m, Conserves s.dispatcher.metrics m (s.results m) (s.trips.countP (·.request.method == m))
        (s.calls m) (s.failedCalls es m))
    ∧ (∃ es' l, Ledger.empty.run es' = some l ∧ l.Keeps es s)
    ∧ ∀ es' l, Ledger.empty.run es' = some l →
      (∀ a ∈ l.accounts, ∃ result, a.progress = .ended (.answered result)) →
      ∀ m, Conserves l.metrics m (l.results m)
        ((es'.filterMap Ledger.Event.request?).countP (·.method == m))
        (l.happened m Happening.isSent) (l.happened m Happening.isFailure) := by
  obtain ⟨es', l, hl, hkeeps⟩ := exists_ledger hd h
  refine ⟨fun hover m => ?_, ⟨es', l, hl, hkeeps⟩, fun es' l hl hover m =>
    Ledger.conserves hl hover m⟩
  have hconserves := (Ledger.kept_empty.run hl).conserves (hkeeps.over hover) m
  rwa [hkeeps.metrics, hkeeps.results_eq, hkeeps.length_of, hkeeps.calls, hkeeps.failed]
    at hconserves

def oneServer : Dispatcher := .make
  { register :=
      { kind := "memory", retry := { enabled := true, maxAttempts := 2 },
        instances := [⟨"a", 80, "c"⟩] } } none []

/-- Two requests whose calls fail: one may try again, but then there are no servers any more, and
the other has tried often enough. -/
def bothFail : List Event :=
  let late : Reply := .failure ⟨.timedOut, "late"⟩
  [.arrive (.get "/" "c") .zero, .arrive (.get "/" "c") .zero, .resolve 0, .choose 0, .resolve 1,
    .choose 1, .reply 1 late 0 .zero, .reply 0 late 0 .zero, .rest 1, .resolve 1, .choose 1,
    .reply 1 late 0 .zero, .publish "c" [], .rest 0, .resolve 0, .choose 0]

theorem calls_conserved_bothFail : ∃ s, (start oneServer).run bothFail = some s
    ∧ s.dispatcher.metrics.value (.requests "GET" "topology") = 1
    ∧ s.dispatcher.metrics.value (.requests "GET" "io_error") = 1
    ∧ s.dispatcher.metrics.value (.durations "GET") = 2
    ∧ s.dispatcher.metrics.value (.retries "GET") = 2 ∧ s.calls "GET" = 3 := by
  obtain ⟨s, a, b, hs, htrips, ⟨e, ha⟩, ⟨e', hb⟩, hresults, htwo, hthree⟩ : ∃ s a b,
      (start oneServer).run bothFail = some s ∧ s.trips = [a, b]
      ∧ (∃ result, a.progress = .ended (.answered result))
      ∧ (∃ result, b.progress = .ended (.answered result))
      ∧ s.results "GET" = [.error (.noAvailableEndpoint "c"),
        .error (.io ⟨"GET", "/", ⟨.timedOut, "late"⟩⟩ 2 .zero)]
      ∧ s.trips.countP (·.request.method == "GET") = 2 ∧ s.failedCalls bothFail "GET" = 3 :=
    ⟨_, _, _, rfl, rfl, ⟨_, rfl⟩, ⟨_, rfl⟩, rfl, rfl, rfl⟩
  have hover : ∀ trip ∈ s.trips, ∃ result, trip.progress = .ended (.answered result) := by
    simp [htrips, ha, hb]
  have hcounts := (calls_conserved rfl hs).1 hover "GET"
  rw [hresults, htwo, hthree] at hcounts
  have hio := hcounts.classes ("io_error", isIo) (by simp [classes])
  have hretries := hcounts.failed_eq
  have hsent := hcounts.sent_eq
  simp only [List.countP_cons, List.countP_nil, isSuccess, isIo, Bool.false_eq_true, if_false,
    if_true] at hio hretries hsent
  refine ⟨s, hs, ?_, hio, hcounts.durations, by omega, by omega⟩
  exact hcounts.classes ("topology", _) (List.mem_cons_of_mem _ List.mem_cons_self)

end Traffic

end Switchyard.Dispatch
