import Switchyard.Proofs.DirectoryStep
import Switchyard.Proofs.Selection

/-!
# Where requests go

A directory on a register in memory has nothing in its cache but the list that was published last
for the cluster, or the one that it started with (`Directory.Follows`).  So whatever executions and
publications come between each other, every request that the transport gets is the original one,
aimed at a server that its own cluster had when the attempt was resolved
(`Traffic.requests_routed`).
-/

namespace Switchyard

open Dispatch (Error)

namespace Directory

/-- The register and the cache go by the same lists. -/
structure Follows (lists : String → List Instance) (d : Directory) : Prop where
  inMemory : d.kind = Config.localKind ∨ ∀ x ∈ d.register, ∃ r, x = .memory r
  stored : ∀ r, d.register = some (.memory r) → ∀ c, r.instancesOf c = lists c
  cached : ∀ c is, d.cache.find? c = some is →
    is = lists c ∧ ∃ r, d.register = some (.memory r) ∧ r.watchersOf c ≠ []

variable {lists : String → List Instance} {d d' : Directory} {c : String}

theorem Follows.ne_overtaken (h : d.Follows lists) (hd : d.IsDynamic)
    (pushed initial : List Instance) : d.register ≠ some (.overtaken pushed initial) := by
  intro hr
  rcases h.inMemory with hk | hm
  · exact hd.2 hk
  · obtain ⟨r, hr⟩ := hm _ hr
    cases hr

theorem follows_make {settings : Config.RegisterSettings} {register : Option Register}
    (hm : trim settings.kind = Config.localKind ∨ ∀ x ∈ register, ∃ r, x = .memory r)
    (hl : ∀ r, register = some (.memory r) → ∀ c, r.instancesOf c = lists c) :
    (make settings register).Follows lists :=
  ⟨hm, hl, fun _ _ hc => nomatch hc⟩

theorem Follows.resolve {result : Except Error (List Endpoint)} (h : d.Follows lists)
    (hr : Resolves d c d' result) : d'.Follows lists := by
  cases hr with
  | noKind | noServers | fixed | cached | noRegister => exact h
  | overtaken hd hc hr => exact absurd hr (h.ne_overtaken hd _ _)
  | @unknown r hd hc hr hi =>
    refine ⟨Or.inr fun _ hs => ⟨_, (Option.some.inj hs).symm⟩, fun s hs => ?_, fun b is hb => ?_⟩
    · cases hs
      exact h.stored r hr
    · obtain ⟨his, s, hs, hw⟩ := h.cached b is hb
      obtain rfl : r = s := by simpa [hr] using hs
      refine ⟨his, _, rfl, ?_⟩
      rw [Registry.watchersOf_subscribe]
      split_ifs
      · simp
      · exact hw
  | @found r hd hc hr hi =>
    refine ⟨Or.inr fun _ hs => ⟨_, (Option.some.inj hs).symm⟩, fun s hs => ?_, fun b is hb => ?_⟩
    · cases hs
      exact h.stored r hr
    · have hw : (r.subscribe c ()).watchersOf c ≠ [] := by simp [Registry.watchersOf_subscribe]
      by_cases hbc : b = c
      · subst hbc
        simp only [Cache.push, Store.find?_set_self, Option.some.injEq] at hb
        exact ⟨hb ▸ h.stored r hr b, _, rfl, hw⟩
      · simp only [Cache.push, Store.find?_set_of_ne _ hbc] at hb
        obtain ⟨his, s, hs, hw⟩ := h.cached b is hb
        obtain rfl : r = s := by simpa [hr] using hs
        refine ⟨his, _, rfl, ?_⟩
        rw [Registry.watchersOf_subscribe, if_neg hbc]
        exact hw

theorem Follows.endpoints_eq {endpoints : List Endpoint} (h : d.Follows lists)
    (hr : Resolves d c d' (.ok endpoints)) :
    endpoints = if d.kind = Config.localKind then fixedEndpoints d.servers
      else (lists c).map Instance.endpoint := by
  cases hr with
  | fixed hk hs => rw [if_pos hk]
  | cached hd hc => rw [if_neg hd.2, (h.cached c _ hc).1]
  | found hd hc hr hi => rw [if_neg hd.2, h.stored _ hr]
  | overtaken hd hc hr => exact absurd hr (h.ne_overtaken hd _ _)

theorem Follows.publish (h : d.Follows lists) (c : String) (is : List Instance) :
    (d.publish c is).1.Follows fun b => if b = c then is else lists b := by
  rcases d.publish_cases c is with ⟨hd, hr⟩ | ⟨r, hr, hd⟩
  · rw [hd]
    refine ⟨h.inMemory, fun s hs => absurd hs (hr s), fun b is hb => ?_⟩
    obtain ⟨-, s, hs, -⟩ := h.cached b is hb
    exact absurd hs (hr s)
  · rw [hd]
    refine ⟨Or.inr fun _ hs => ⟨_, (Option.some.inj hs).symm⟩, fun s hs b => ?_, fun b is' hb => ?_⟩
    · cases hs
      rw [Registry.instancesOf_store, h.stored r hr]
    · -- what is cached for the cluster is what was published, since somebody watches it
      have hold : ∀ {b is}, d.cache.find? b = some is → is = lists b ∧ r.watchersOf b ≠ [] := by
        intro b is hb
        obtain ⟨his, s, hs, hw⟩ := h.cached b is hb
        obtain rfl : r = s := by simpa [hr] using hs
        exact ⟨his, hw⟩
      by_cases hbc : b = c
      · subst hbc
        by_cases hw : r.watchersOf b = []
        · rw [if_pos hw] at hb
          exact absurd hw (hold hb).2
        · simp only [if_neg hw, Cache.push, Store.find?_set_self, Option.some.injEq] at hb
          exact ⟨by rw [if_pos rfl, hb], _, rfl, hw⟩
      · have hb' : d.cache.find? b = some is' := by
          split_ifs at hb
          · exact hb
          · rwa [Cache.push, Store.find?_set_of_ne _ hbc] at hb
        exact ⟨by rw [if_neg hbc]; exact (hold hb').1, _, rfl, (hold hb').2⟩

end Directory

namespace Dispatch

open Http (Request)

namespace Traffic

/-- The list that an event publishes for a cluster. -/
def Event.listFor? (c : String) : Event → Option (List Instance)
  | .publish b is => if b = c then some is else none
  | _ => none

/-- The list that was published last for a cluster, or else the given one. -/
def latest (c : String) (seeded : List Instance) (es : List Event) : List Instance :=
  (es.reverse.findSome? (Event.listFor? c)).getD seeded

theorem latest_concat (c : String) (seeded : List Instance) (es : List Event) (e : Event) :
    latest c seeded (es ++ [e]) = (e.listFor? c).getD (latest c seeded es) := by
  unfold latest
  rw [List.reverse_append, List.reverse_singleton, List.singleton_append, List.findSome?_cons]
  cases e.listFor? c <;> rfl

theorem latest_unchanged {e : Event} (he : ∀ c, e.listFor? c = none)
    (seeded : String → List Instance) (es : List Event) :
    (fun c => latest c (seeded c) (es ++ [e])) = fun c => latest c (seeded c) es := by
  funext c
  rw [latest_concat, he c]
  rfl

theorem latest_publish (b : String) (is : List Instance) (seeded : String → List Instance)
    (es : List Event) : (fun c => latest c (seeded c) (es ++ [.publish b is]))
      = fun c => if c = b then is else latest c (seeded c) es := by
  funext c
  rw [latest_concat, Event.listFor?]
  by_cases hc : b = c
  · rw [if_pos hc, if_pos hc.symm]
    rfl
  · rw [if_neg hc, if_neg (Ne.symm hc)]
    rfl

/-- The requests that have come, in order. -/
def arrivals (es : List Event) : List Request :=
  es.filterMap fun
    | .arrive r _ => some r
    | _ => none

def Event.isChoice : Event → Bool
  | .choose _ => true
  | _ => false

end Traffic

namespace Dispatcher

/-- What the register in memory holds for a cluster. -/
def held (d : Dispatcher) (c : String) : List Instance :=
  match d.directory.register with
  | some (.memory r) => r.instancesOf c
  | _ => []

/-- The endpoints of a cluster after some events: those on the fixed list, or those of the list
that was published last or held from the start. -/
def current (d : Dispatcher) (es : List Traffic.Event) (c : String) : List Endpoint :=
  if d.directory.kind = Config.localKind then Directory.fixedEndpoints d.directory.servers
  else (Traffic.latest c (d.held c) es).map Instance.endpoint

end Dispatcher

open Dispatcher (aim)

/-- A trip goes with its request, and the endpoints it is offered were current when it was
resolved. -/
structure Trip.Offered (d : Dispatcher) (es : List Traffic.Event) (i : Nat) (trip : Trip) :
    Prop where
  own : ∀ c, trip.progress.call? = some c → c.request = trip.request
  moment : ∀ endpoints, trip.offered = some endpoints → ∃ before mid,
    es = before ++ .resolve i :: mid ∧ (∀ e ∈ mid, e ≠ .resolve i)
      ∧ endpoints = d.current before trip.request.contextId

/-- The `k`-th turn is that of a request as it came, among the endpoints that were current when it
was resolved. -/
structure Turn.Routed (d : Dispatcher) (es : List Traffic.Event) (k : Nat) (turn : Turn) :
    Prop where
  own : (Traffic.arrivals es)[turn.trip]? = some turn.request
  moment : ∃ before mid after,
    es = before ++ .resolve turn.trip :: (mid ++ .choose turn.trip :: after)
      ∧ (∀ e ∈ mid, e ≠ .resolve turn.trip)
      ∧ (before ++ mid).countP Traffic.Event.isChoice = k
      ∧ turn.offered = d.current before turn.request.contextId
  aimed : ∀ aimed, turn.result = .ok aimed → ∃ e ∈ turn.offered, aim turn.request e = .ok aimed

section

variable {d : Dispatcher} {es : List Traffic.Event} {e : Traffic.Event} {i k : Nat}

theorem Trip.Offered.concat {trip : Trip} (h : trip.Offered d es i) (he : e ≠ .resolve i) :
    trip.Offered d (es ++ [e]) i := by
  refine ⟨h.own, fun endpoints ho => ?_⟩
  obtain ⟨before, mid, rfl, hmid, hends⟩ := h.moment endpoints ho
  refine ⟨before, mid ++ [e], by simp, fun f hf => ?_, hends⟩
  rcases List.mem_append.mp hf with hf | hf
  · exact hmid f hf
  · rwa [List.mem_singleton.mp hf]

theorem Turn.Routed.concat {turn : Turn} (h : turn.Routed d es k) :
    turn.Routed d (es ++ [e]) k := by
  obtain ⟨before, mid, after, rfl, hmid, hk, hoffered⟩ := h.moment
  refine ⟨?_, ⟨before, mid, after ++ [e], by simp, hmid, hk, hoffered⟩, h.aimed⟩
  rw [Traffic.arrivals, List.filterMap_append]
  exact List.getElem?_append_left (List.getElem?_eq_some_iff.mp h.own).1 ▸ h.own

end

namespace Traffic

variable {d d' : Dispatcher} {es : List Event} {s t : Traffic} {e : Event} {i : Nat} {a b : Trip}
  {turns : List Turn}

theorem arrivals_concat (es : List Event) (e : Event) :
    arrivals (es ++ [e]) = arrivals es ++ arrivals [e] := List.filterMap_append

/-- A step of a trip is no arrival and no publication, and it is a choice if it is a turn. -/
theorem Goes.event (h : Goes d i e a b d' turns) : arrivals [e] = []
    ∧ (∀ c, e.listFor? c = none) ∧ turns.length = [e].countP Event.isChoice := by
  cases h <;> exact ⟨rfl, fun _ => rfl, rfl⟩

theorem Goes.event_of_ne {j : Nat} (h : Goes d i e a b d' turns) (hj : j ≠ i) : e ≠ .resolve j := by
  intro he
  subst he
  cases h <;> exact hj rfl

/-- What holds of traffic after some events from a fresh dispatcher. -/
structure Routed (d : Dispatcher) (es : List Event) (s : Traffic) : Prop where
  follows : s.dispatcher.directory.Follows fun c => latest c (d.held c) es
  fixed : s.dispatcher.directory.kind = d.directory.kind
    ∧ s.dispatcher.directory.servers = d.directory.servers
  selects : s.dispatcher.rotation?.isSome
  came : s.trips.map Trip.request = arrivals es
  counted : s.turns.length = es.countP Event.isChoice
  offered : ∀ {i : Nat} {trip : Trip}, s.trips[i]? = some trip → trip.Offered d es i
  turned : ∀ {k : Nat} {turn : Turn}, s.turns[k]? = some turn → turn.Routed d es k

theorem Routed.directory_goes (h : s.Routed d es) (hg : Goes s.dispatcher i e a b d' turns) :
    d'.directory.Follows (fun c => latest c (d.held c) (es ++ [e]))
      ∧ d'.directory.kind = d.directory.kind ∧ d'.directory.servers = d.directory.servers := by
  rw [latest_unchanged hg.event.2.1]
  rcases hg.directory_cases with hd | ⟨c, result, hr⟩
  · rw [hd]
    exact ⟨h.follows, h.fixed⟩
  · exact ⟨h.follows.resolve hr, hr.fixed_eq.1.trans h.fixed.1, hr.fixed_eq.2.trans h.fixed.2⟩

theorem Routed.endpoints_eq (h : s.Routed d es) {c : String} {endpoints : List Endpoint}
    (hr : s.dispatcher.resolve c = (d', .ok endpoints)) : endpoints = d.current es c := by
  rw [h.follows.endpoints_eq (Dispatcher.resolves hr), h.fixed.1, h.fixed.2]
  rfl

theorem Routed.offered_goes (h : s.Routed d es) (hi : s.trips[i]? = some a)
    (hg : Goes s.dispatcher i e a b d' turns) : b.Offered d (es ++ [e]) i := by
  have ha := h.offered hi
  cases hg with
  | @resolve r c _ endpoints hr =>
    refine ⟨ha.own, fun _ ho => ⟨es, [], rfl, by simp, ?_⟩⟩
    cases ho
    rw [h.endpoints_eq hr, ha.own c rfl]
  | unresolved | unaimed => exact ⟨fun _ hc => (nomatch hc), fun _ ho => nomatch ho⟩
  | aim =>
    refine ⟨fun c hc => ?_, fun _ ho => nomatch ho⟩
    cases hc
    exact ha.own _ rfl
  | reply hx | rest hx =>
    refine ⟨fun c hc => ?_, fun _ ho => nomatch ho⟩
    obtain ⟨x, hx, hcx⟩ := Execution.call?_of_after hx hc (by simp)
    exact hcx.trans (ha.own x hx)

theorem Routed.came_at (h : s.Routed d es) (hi : s.trips[i]? = some a) :
    (arrivals es)[i]? = some a.request := by
  rw [← h.came, List.getElem?_map, hi]
  rfl

theorem Routed.turned_goes (h : s.Routed d es) (hi : s.trips[i]? = some a)
    (hg : Goes s.dispatcher i e a b d' turns) {turn : Turn} (ht : turn ∈ turns) :
    turn.Routed d (es ++ [e]) s.turns.length := by
  obtain ⟨rotation, hrot⟩ := Option.isSome_iff_exists.mp h.selects
  have ha := h.offered hi
  have hcame := h.came_at hi
  -- a turn is the choice that was made just now, of a request that is the one that came
  have key : ∀ {c : Call} {endpoints : List Endpoint} {result : Except Error Request},
      e = .choose i → a.progress = .preparing c → a.offered = some endpoints →
      (s.dispatcher.choose c.request endpoints).2 = result →
      (⟨i, c.request, endpoints, result⟩ : Turn).Routed d (es ++ [e]) s.turns.length := by
    intro c endpoints result he hp ho hres
    subst he
    have hown : c.request = a.request := ha.own c (by rw [hp]; rfl)
    obtain ⟨before, mid, hes, hmid, hends⟩ := ha.moment endpoints ho
    refine ⟨?_, ⟨before, mid, [], by rw [hes]; simp, hmid, ?_, hown ▸ hends⟩, fun aimed hr => ?_⟩
    · rw [arrivals_concat, hg.event.1, List.append_nil, hown]
      exact hcame
    · rw [h.counted, hes, List.countP_append, List.countP_append,
        List.countP_cons_of_neg (by simp [Event.isChoice])]
    · exact (Dispatcher.choose_of_rotation hrot).2 aimed (hres.trans hr)
  cases hg with
  | resolve | unresolved | reply | rest => cases ht
  | aim hc | unaimed hc =>
    rw [List.mem_singleton.mp ht]
    exact key rfl rfl rfl (congrArg Prod.snd hc)

theorem Routed.step (h : s.Routed d es) (hs : Step s e t) : t.Routed d (es ++ [e]) := by
  obtain ⟨rotation, hrot⟩ := Option.isSome_iff_exists.mp h.selects
  cases hs with
  | arrive r now =>
    refine ⟨?_, h.fixed, h.selects, ?_, ?_, fun {j trip} hj => ?_, fun hk => (h.turned hk).concat⟩
    · rw [latest_unchanged fun _ => rfl]
      exact h.follows
    · rw [arrivals_concat, List.map_append, h.came]
      rfl
    · rw [List.countP_append]
      exact h.counted
    · rcases getElem?_concat_cases hj with hj | ⟨rfl, rfl⟩
      · exact (h.offered hj).concat (by simp)
      · refine ⟨fun c hc => ?_, fun _ ho => nomatch ho⟩
        cases hc
        rfl
  | publish c is =>
    have hfixed := s.dispatcher.directory.publish_fixed c is
    refine ⟨?_, ⟨hfixed.1.trans h.fixed.1, hfixed.2.trans h.fixed.2⟩, h.selects, ?_, ?_,
      fun hj => (h.offered hj).concat (by simp), fun hk => (h.turned hk).concat⟩
    · rw [latest_publish]
      exact h.follows.publish c is
    · rw [arrivals_concat, h.came]
      exact (List.append_nil _).symm
    · rw [List.countP_append]
      exact h.counted
  | @goOn i e a b d' turns hi hg =>
    refine ⟨(h.directory_goes hg).1, (h.directory_goes hg).2, ?_, ?_, ?_, fun {j trip} hj => ?_,
      fun {k turn} hk => ?_⟩
    · rw [hg.rotation?_eq hrot]
      rfl
    · -- a trip goes on with the request that it has
      obtain ⟨hlt, hrequest⟩ := List.getElem?_eq_some_iff.mp (h.came_at hi)
      rw [arrivals_concat, hg.event.1, List.append_nil, List.map_set, h.came, hg.request_eq,
        ← hrequest, List.set_getElem_self]
    · rw [List.length_append, List.countP_append, h.counted, hg.event.2.2]
    · rcases getElem?_set_cases hi hj with ⟨rfl, rfl⟩ | ⟨hne, hj⟩
      · exact h.offered_goes hi hg
      · exact (h.offered hj).concat (hg.event_of_ne hne)
    · rcases lt_or_ge k s.turns.length with hlt | hge
      · rw [List.getElem?_append_left hlt] at hk
        exact (h.turned hk).concat
      · rw [List.getElem?_append_right hge] at hk
        have hone : turns.length ≤ 1 := by
          rw [hg.event.2.2]
          exact List.countP_le_length
        have hlt := (List.getElem?_eq_some_iff.mp hk).1
        have hk' : k = s.turns.length := by omega
        rw [hk']
        exact h.turned_goes hi hg (List.mem_of_getElem? hk)

theorem routed_start {settings : Config.Settings} {register : Option Register}
    {balancers : List (String × Balance.Balancer)}
    (hd : Dispatcher.make settings register balancers = d) (hsel : d.rotation?.isSome)
    (hm : trim settings.register.kind = Config.localKind ∨ ∀ x ∈ register, ∃ r, x = .memory r) :
    (start d).Routed d [] := by
  refine ⟨?_, ⟨rfl, rfl⟩, hsel, rfl, rfl, fun hi => (nomatch hi),
    fun hk => nomatch hk⟩
  subst hd
  refine Directory.follows_make ?_ fun r hr c => ?_
  · refine hm.imp id fun hm x hx => ?_
    cases register with
    | some y => exact hm x hx
    | none =>
      simp only [Option.orElse, Dispatcher.ownRegister] at hx
      split_ifs at hx
      · exact ⟨_, (Option.mem_some.mp hx).symm⟩
      · cases hx
  · simp only [latest, List.reverse_nil, List.findSome?_nil, Option.getD_none, Dispatcher.held,
      Dispatcher.make, Directory.make, hr]

/-- Every request that the transport gets is a request that came, aimed at a server that its own
cluster had when the attempt was resolved; and those that it gets for a request are the attempts
of an execution of it. -/
theorem requests_routed {settings : Config.Settings} {register : Option Register}
    {balancers : List (String × Balance.Balancer)}
    (hd : Dispatcher.make settings register balancers = d) (hsel : d.rotation?.isSome)
    (hm : trim settings.register.kind = Config.localKind ∨ ∀ x ∈ register, ∃ r, x = .memory r)
    (h : (start d).run es = some t) :
    (∀ i trip, t.trips[i]? = some trip → (arrivals es)[i]? = some trip.request ∧ ∃ log,
      (Execution.ready d.policy trip.request).replay log = some trip.progress
        ∧ aimedIn log = t.sentFor i)
    ∧ ∀ k turn aimed, t.turns[k]? = some turn → turn.result = .ok aimed →
      ∃ r before mid after, (arrivals es)[turn.trip]? = some r
        ∧ es = before ++ .resolve turn.trip :: (mid ++ .choose turn.trip :: after)
        ∧ (∀ e ∈ mid, e ≠ .resolve turn.trip) ∧ (before ++ mid).countP Event.isChoice = k
        ∧ ∃ endpoint ∈ d.current before r.contextId, ∃ url,
          Url.retarget endpoint.url r.url = .ok url ∧ aimed = { r with url } := by
  have hr := run_keeps (P := fun es s => s.Routed d es) (fun hs hstep => hs.step hstep)
    (routed_start hd hsel hm) h
  refine ⟨fun i trip hi => ⟨hr.came_at hi, trip_replay h hi⟩, fun k turn aimed hk ha => ?_⟩
  obtain ⟨hown, ⟨before, mid, after, hes, hmid, hcount, hoffered⟩, haimed⟩ := hr.turned hk
  obtain ⟨endpoint, he, haim⟩ := haimed aimed ha
  refine ⟨turn.request, before, mid, after, hown, hes, hmid, hcount, endpoint, hoffered ▸ he, ?_⟩
  unfold Dispatcher.aim at haim
  split at haim
  · rename_i url hurl
    exact ⟨url, hurl, (Except.ok.inj haim).symm⟩
  · cases haim

/-- The server of the first attempt is gone when the second one is resolved. -/
theorem requests_routed_moved : ∃ d t turn aimed before mid after endpoint,
    Dispatcher.make { register := { kind := "memory", retry := { enabled := true } } }
      (some (.memory (.ofInstances [⟨"a", 1, "c"⟩]))) [] = d
    ∧ (start d).run (before ++ .resolve 0 :: (mid ++ .choose 0 :: after)) = some t
    ∧ t.turns[1]? = some turn ∧ turn.result = .ok aimed ∧ aimed.url = "http://b:1/x"
    ∧ (before ++ mid).countP Event.isChoice = 1 ∧ endpoint ∈ d.current before "c"
    ∧ Url.retarget endpoint.url "/x" = .ok aimed.url := by
  obtain ⟨d, hd⟩ : ∃ d, Dispatcher.make
      { register := { kind := "memory", retry := { enabled := true } } }
      (some (.memory (.ofInstances [⟨"a", 1, "c"⟩]))) [] = d := ⟨_, rfl⟩
  obtain ⟨es, hes⟩ : ∃ es, es = [.arrive (.get "/x" "c") .zero, .resolve 0, .choose 0,
      .reply 0 (.failure ⟨.connectionRefused, ""⟩) 0 .zero, .publish "c" [⟨"b", 1, "c"⟩], .rest 0,
      .resolve 0, Event.choose 0] := ⟨_, rfl⟩
  have hrun : ((start d).run es).map (fun t => t.turns.map fun turn =>
      (turn.trip, turn.result.toOption.map (·.url)))
      = some [(0, some "http://a:1/x"), (0, some "http://b:1/x")] := by
    subst hd hes
    rfl
  obtain ⟨t, ht, hturns⟩ := Option.map_eq_some_iff.mp hrun
  have hturn : (t.turns.map fun turn => (turn.trip, turn.result.toOption.map (·.url)))[1]?
      = some (0, some "http://b:1/x") := by rw [hturns]; rfl
  obtain ⟨turn, hk, hturn⟩ := Option.map_eq_some_iff.mp (List.getElem?_map .. ▸ hturn)
  obtain ⟨htrip, hurl⟩ := Prod.mk.inj hturn
  obtain ⟨aimed, ha, hurl⟩ := Option.map_eq_some_iff.mp hurl
  have hresult : turn.result = .ok aimed := by
    cases hr : turn.result with
    | error e => rw [hr] at ha; cases ha
    | ok x => rw [hr] at ha; cases ha; rfl
  have hrouted := (requests_routed hd (by subst hd; rfl)
    (.inr fun x hx => ⟨_, (Option.mem_some.mp hx).symm⟩) ht).2 1 turn aimed hk hresult
  obtain ⟨r, before, mid, after, hr, heq, -, hcount, endpoint, he, url, hto, haimed⟩ := hrouted
  have hrequest : r = .get "/x" "c" := by
    rw [htrip, hes] at hr
    exact (Option.some.inj hr).symm
  rw [htrip] at heq
  rw [hrequest] at he hto haimed
  exact ⟨d, t, turn, aimed, before, mid, after, endpoint, hd, heq ▸ ht, hk, hresult, hurl, hcount,
    he, by rw [haimed]; exact hto⟩

end Traffic

end Dispatch

end Switchyard
