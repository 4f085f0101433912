import Switchyard.Proofs.RegisterKind
import Switchyard.Proofs.Retargeting
import Switchyard.Proofs.TrafficLedger

/-!
# Requests aimed at servers

A turn aims its request at what the balancer selects at that moment (`Traffic.exists_selection`).
No URL takes the request away from there (`Traffic.aims_behind_base`).  Whether a request is refused
for its URL is a matter of the URL that it came with: such a request is never sent, and any other
is sent to whatever is selected, also where the base is one that no request could have come with,
and each time it costs an attempt (`Traffic.refused_for_own_url`).
-/

namespace Switchyard

namespace Url

variable {φ : Type} {check : List Char → List Char → Option φ} {url : List Char} {fault : φ}

/-- A URL whose scheme and authority do not pass the check. -/
def IsRefused (check : List Char → List Char → Option φ) (url : List Char) (fault : φ) : Prop :=
  ∃ scheme authority target, isScheme scheme = true ∧ (∀ c ∈ authority, endsAuthority c = false)
    ∧ (∀ c ∈ target.head?, endsAuthority c = true)
    ∧ url = scheme ++ schemeMark ++ authority ++ target ∧ check scheme authority = some fault

theorem targetBy_eq_error_iff : targetBy check url = .error fault ↔ IsRefused check url fault := by
  constructor
  · intro h
    by_cases hn : NamesScheme url
    · obtain ⟨scheme, authority, target, hs, ha, ht, rfl⟩ := hn.exists_parts
      refine ⟨scheme, authority, target, hs, ha, ht, rfl, ?_⟩
      rw [targetBy_of_scheme hs ha ht] at h
      split at h
      · cases h
      · rename_i fault' hc
        cases h
        exact hc
    · rw [targetBy_of_not_namesScheme hn] at h
      cases h
  · rintro ⟨scheme, authority, target, hs, ha, ht, rfl, hc⟩
    rw [targetBy_of_scheme hs ha ht, hc]

/-- The base has no part in it. -/
theorem retargetBy_eq_error_iff {base url : String} :
    retargetBy check base url = .error fault ↔ IsRefused check url.toList fault := by
  rw [← targetBy_eq_error_iff, retargetBy]
  cases targetBy check url.toList <;> simp [Except.map]

theorem exists_rest_of_not_isRefused {url : String}
    (h : ∀ fault, ¬IsRefused check url.toList fault) : ∃ rest : List Char,
      ∀ base, retargetBy check base url = .ok (.ofList (trimBase base.toList ++ rest)) := by
  cases ht : targetBy check url.toList with
  | error fault => exact absurd (targetBy_eq_error_iff.mp ht) (h fault)
  | ok target => exact ⟨suffix target, fun base => retargetBy_of_targetBy ht⟩

end Url

namespace Dispatch

open Http (Request Response)

namespace Dispatcher

theorem extends_of_aim {r aimed : Request} {e : Endpoint} (h : aim r e = .ok aimed) :
    Url.Extends e.url.toList aimed.url.toList ∧ aimed = r.withUrl aimed.url := by
  unfold aim at h
  split at h
  · rename_i url hurl
    cases h
    exact ⟨Url.extends_of_retargetBy hurl, rfl⟩
  · cases h

/-- What the server is makes no difference to whether a request can be aimed at it. -/
theorem aim_of_isRefused {r : Request} {fault : Url.Fault}
    (h : Url.IsRefused Url.fault? r.url.toList fault) (e : Endpoint) :
    aim r e = .error (.invalidUrl r.url fault.message) := by
  unfold aim Url.retarget
  rw [Url.retargetBy_eq_error_iff.mpr h]

theorem aim_eq_error {r : Request} {e : Endpoint} {error : Error} (h : aim r e = .error error) :
    ∃ fault, Url.IsRefused Url.fault? r.url.toList fault
      ∧ error = .invalidUrl r.url fault.message := by
  unfold aim at h
  split at h
  · cases h
  · rename_i fault hurl
    cases h
    exact ⟨fault, Url.retargetBy_eq_error_iff.mp hurl, rfl⟩

theorem aim_of_retarget {r : Request} {e : Endpoint} {url : String}
    (h : Url.retarget e.url r.url = .ok url) : aim r e = .ok (r.withUrl url) := by
  unfold aim
  rw [h]

end Dispatcher

namespace Traffic

variable {d : Dispatcher} {es : List Event} {s t : Traffic} {e : Event} {i k : Nat} {turn : Turn}
  {trip : Trip}

/-- What has come to hold in a run came to hold at some event. -/
theorem run_moment {P : Traffic → Prop} : ∀ {es : List Event} {s t : Traffic},
    s.run es = some t → ¬P s → P t → ∃ before e after u v, es = before ++ e :: after
      ∧ s.run before = some u ∧ Step u e v ∧ ¬P u ∧ P v
  | [], _, _, h, hs, ht => absurd (Option.some.inj h ▸ ht) hs
  | e :: es, s, t, h, hs, ht => by
    obtain ⟨v, hv, hrun⟩ := Option.bind_eq_some_iff.mp h
    by_cases hP : P v
    · exact ⟨[], e, es, s, v, rfl, rfl, .of_step hv, hs, hP⟩
    · obtain ⟨before, e', after, u, v', rfl, hb, hstep, hu, hv'⟩ := run_moment hrun hP ht
      refine ⟨e :: before, e', after, u, v', rfl, ?_, hstep, hu, hv'⟩
      rw [run, hv]
      exact hb

/-- In a run from a dispatcher, that is what its balancer selects for the `k`-th turn. -/
def Selected (d : Dispatcher) (es : List Event) (k : Nat) (turn : Turn)
    (selection : Except Error Endpoint) : Prop :=
  ∃ before after u, es = before ++ .choose turn.trip :: after ∧ (start d).run before = some u
    ∧ u.turns.length = k ∧ (u.dispatcher.balancers.select u.dispatcher.strategy turn.offered
      turn.request.contextId).2 = selection

/-- A turn aims its request at what is selected. -/
theorem exists_selection (h : (start d).run es = some t) (hk : t.turns[k]? = some turn) :
    ∃ selection, Selected d es k turn selection
      ∧ turn.result = selection >>= Dispatcher.aim turn.request := by
  obtain ⟨before, e, after, u, v, rfl, hb, hstep, hu, hv⟩ :=
    run_moment (P := fun s => s.turns[k]? = some turn) h (fun h => nomatch h) hk
  obtain ⟨rfl, hlen, hresult⟩ := hstep.turn_cases hu hv
  exact ⟨_, ⟨before, after, u, rfl, hb, hlen, rfl⟩, by rw [hresult, Dispatcher.choose_snd]⟩

theorem Step.turns_kept (h : Step s e t) (hs : s.turns[k]? = some turn) :
    t.turns[k]? = some turn := by
  cases h with
  | arrive | publish => exact hs
  | goOn =>
    rw [List.getElem?_append_left (List.getElem?_eq_some_iff.mp hs).1]
    exact hs

theorem Step.choose_turn {j : Nat} (h : Step s (.choose j) t) :
    ∃ turn, t.turns[s.turns.length]? = some turn := by
  cases h with
  | goOn hi hg =>
    cases hg with
    | aim | unaimed => exact ⟨_, List.getElem?_concat_length⟩

theorem run_turns_kept (h : s.run es = some t) (hs : s.turns[k]? = some turn) :
    t.turns[k]? = some turn :=
  run_keeps (P := fun _ t => t.turns[k]? = some turn) (fun hs hstep => hstep.turns_kept hs) hs h

/-- There is only one selection for a turn. -/
theorem Selected.result_eq {selection : Except Error Endpoint}
    (hsel : Selected d es k turn selection) (h : (start d).run es = some t)
    (hk : t.turns[k]? = some turn) : turn.result = selection >>= Dispatcher.aim turn.request := by
  obtain ⟨before, after, u, rfl, hu, rfl, rfl⟩ := hsel
  rw [run_append, hu, Option.bind_some] at h
  obtain ⟨v, hv, hafter⟩ := Option.bind_eq_some_iff.mp h
  have hstep := Step.of_step hv
  obtain ⟨turn', hturn'⟩ := hstep.choose_turn
  obtain rfl : turn' = turn := Option.some.inj ((run_turns_kept hafter hturn').symm.trans hk)
  obtain ⟨-, -, hresult⟩ := hstep.turn_cases
    (by rw [List.getElem?_eq_none (Nat.le_refl _)]; exact fun h => nomatch h) hturn'
  rw [hresult, Dispatcher.choose_snd]

/-- Whatever URL a request comes with, it goes to the server that is selected for it: where a URL
can be sent to a base at all, it leads to the server of the base, and this is what the transport
gets in every run. -/
theorem aims_behind_base :
    (∀ {φ : Type} (check : List Char → List Char → Option φ) (base url r : String),
      Url.retargetBy check base url = .ok r → Url.Extends base.toList r.toList)
    ∧ ∀ (d : Dispatcher) (es : List Event) (t : Traffic) (k : Nat) (turn : Turn) (aimed : Request),
      (start d).run es = some t → t.turns[k]? = some turn → turn.result = .ok aimed →
      ∃ endpoint, Selected d es k turn (.ok endpoint)
        ∧ Url.Extends endpoint.url.toList aimed.url.toList
        ∧ aimed = turn.request.withUrl aimed.url := by
  refine ⟨fun check base url r h => Url.extends_of_retargetBy h,
    fun d es t k turn aimed h hk ha => ?_⟩
  obtain ⟨selection, hselected, hresult⟩ := exists_selection h hk
  obtain ⟨endpoint, rfl, haim⟩ := eq_ok_of_bind (hresult.symm.trans ha)
  exact ⟨endpoint, hselected, Dispatcher.extends_of_aim haim⟩

theorem aims_behind_base_userinfo : ∃ d es t turn aimed endpoint,
    Dispatcher.make { register := { kind := "local", servers := "s:1/" } } none [] = d
    ∧ es = [.arrive (.get "@other/x" "c") .zero, .resolve 0, Event.choose 0]
    ∧ (start d).run es = some t ∧ t.turns[0]? = some turn ∧ turn.result = .ok aimed
    ∧ Selected d es 0 turn (.ok endpoint) ∧ Url.Extends endpoint.url.toList aimed.url.toList
    ∧ aimed.url = "http://s:1/@other/x"
    ∧ Url.Extends "http://s:1/".toList "http://s:1/:99".toList := by
  obtain ⟨d, hd⟩ : ∃ d, Dispatcher.make
      { register := { kind := "local", servers := "s:1/" } } none [] = d := ⟨_, rfl⟩
  obtain ⟨es, hes⟩ : ∃ es, es = [.arrive (.get "@other/x" "c") .zero, .resolve 0,
      Event.choose 0] := ⟨_, rfl⟩
  have hrun : ∃ aimed : Request, aimed.url = "http://s:1/@other/x"
      ∧ ((start d).run es).bind (fun t => t.turns[0]?.map (·.result)) = some (.ok aimed) := by
    subst hd hes
    exact ⟨_, rfl, rfl⟩
  obtain ⟨aimed, hurl, hrun⟩ := hrun
  obtain ⟨t, ht, hrun⟩ := Option.bind_eq_some_iff.mp hrun
  obtain ⟨turn, hk, hresult⟩ := Option.map_eq_some_iff.mp hrun
  obtain ⟨hto, hturns⟩ := aims_behind_base
  obtain ⟨endpoint, hselected, hextends, -⟩ := hturns d es t 0 turn aimed ht hk hresult
  exact ⟨d, es, t, turn, aimed, endpoint, hd, hes, ht, hk, hresult, hselected, hextends, hurl,
    hto Url.fault? "http://s:1/" ":99" "http://s:1/:99" rfl⟩

end Traffic

/-- So many requests were sent under a policy, each in an attempt of its own. -/
def Execution.Counts (policy : Retry.Policy) (sent : Nat) : Execution → Prop
  | .ready own _ => own = policy ∧ sent = 0
  | .preparing c | .resting c => c.retries.policy = policy
    ∧ c.retries.attempt.toNat = sent + 1 ∧ sent < max 1 policy.maxAttempts.toNat
  | .sending c _ => c.retries.policy = policy
    ∧ c.retries.attempt.toNat = sent ∧ 0 < sent ∧ sent ≤ max 1 policy.maxAttempts.toNat
  | .ended e => sent ≤ max 1 policy.maxAttempts.toNat
    ∧ ∀ failed attempts elapsed, e = .answered (.error (.io failed attempts elapsed)) →
      attempts.toNat = sent ∧ sent = max 1 policy.maxAttempts.toNat

namespace Execution

variable {policy : Retry.Policy} {sent : Nat} {x y : Execution} {h : Happening}

theorem Counts.le (hx : x.Counts policy sent) : sent ≤ max 1 policy.maxAttempts.toNat := by
  cases x with
  | ready =>
    obtain ⟨-, hsent⟩ := hx
    omega
  | preparing | resting =>
    obtain ⟨-, -, hlt⟩ := hx
    exact Nat.le_of_lt hlt
  | sending => exact hx.2.2.2
  | ended => exact hx.1

theorem Counts.afterFailure {c : Call} {aimed : Request} (draw : Nat) (now : Span) (f : Failure)
    (hx : (sending c aimed).Counts policy sent) :
    (afterFailure c draw now f).Counts policy sent := by
  obtain ⟨hpolicy, hattempt, hpos, hle⟩ := hx
  unfold Execution.afterFailure
  by_cases hlast : c.retries.policy.maxAttempts ≤ c.retries.attempt
  · rw [Call.afterFailure_of_last draw now f hlast]
    refine ⟨hle, fun failed attempts elapsed he => ?_⟩
    cases he
    rw [hpolicy, UInt32.le_iff_toNat_le] at hlast
    omega
  · rw [UInt32.le_iff_toNat_le, Nat.not_le] at hlast
    obtain ⟨next, hnext, -, -, hsame, hcount⟩ := Call.afterFailure_of_more draw now f hlast
    rw [hnext]
    rw [hpolicy] at hlast hsame
    exact ⟨hsame, by omega, by omega⟩

/-- Only the transport can have the attempts run out, so a preparation ends nothing with them. -/
theorem Counts.after (hx : x.Counts policy sent) (hh : h.isPossible = true)
    (hy : x.after h = some y) : y.Counts policy (sent + h.isSent.toNat) := by
  unfold Execution.after at hy
  split at hy
  · obtain ⟨rfl, rfl⟩ := hx
    cases hy
    exact ⟨rfl, rfl, by show 0 < max 1 _; omega⟩
  · cases hy
    refine ⟨hx.le, fun failed attempts elapsed he => ?_⟩
    cases he
    cases hh
  · obtain ⟨hpolicy, hattempt, hlt⟩ := hx
    cases hy
    exact ⟨hpolicy, hattempt, Nat.succ_pos _, hlt⟩
  · cases hy
    exact ⟨hx.le, fun _ _ _ he => nomatch he⟩
  · cases hy
    exact ⟨hx.le, fun _ _ _ he => nomatch he⟩
  · cases hy
    exact hx.afterFailure _ _ _
  · cases hy
    exact hx
  · cases hy

end Execution

/-- What is settled about a trip by its turns. -/
structure Trip.Settled (policy : Retry.Policy) (trip : Trip) (turns : List Turn) : Prop where
  counts : trip.progress.Counts policy (sentBy turns).length
  failed : ∀ turn ∈ turns, ∀ error, turn.result = .error error →
    trip.progress = .ended (.answered (.error error))
  refused : ∀ url reason, trip.progress = .ended (.answered (.error (.invalidUrl url reason))) →
    ∃ turn ∈ turns, turn.result = .error (.invalidUrl url reason)

namespace Traffic

variable {policy : Retry.Policy} {d d' : Dispatcher} {es : List Event} {t : Traffic} {e : Event}
  {i : Nat} {a b trip : Trip} {turn : Turn} {past turns : List Turn}

theorem Goes.counts (h : Goes d i e a b d' turns) {sent : Nat}
    (ha : a.progress.Counts policy sent) :
    b.progress.Counts policy (sent + (sentBy turns).length) := by
  cases h with
  | resolve => exact ha
  | unresolved h => exact ha.after (Dispatcher.isPossible_resolve h) rfl
  | aim h | unaimed h => exact ha.after (Dispatcher.isPossible_choose h) rfl
  | reply h | rest h => exact ha.after rfl h

/-- A turn that comes to an error is the end of its trip. -/
theorem Goes.failed (h : Goes d i e a b d' turns) {error : Error} (ht : turn ∈ turns)
    (hr : turn.result = .error error) : b.progress = .ended (.answered (.error error)) := by
  cases h with
  | resolve | unresolved | reply | rest => cases ht
  | aim =>
    obtain rfl := List.mem_singleton.mp ht
    cases hr
  | unaimed =>
    obtain rfl := List.mem_singleton.mp ht
    cases hr
    rfl

theorem Goes.refused (h : Goes d i e a b d' turns) {url reason : String}
    (hb : b.progress = .ended (.answered (.error (.invalidUrl url reason)))) :
    ∃ turn ∈ turns, turn.result = .error (.invalidUrl url reason) := by
  cases h with
  | resolve | aim => cases hb
  | unresolved h =>
    cases hb
    obtain ⟨_, h⟩ | h := Dispatcher.error_of_resolve h <;> cases h
  | unaimed h =>
    cases hb
    exact ⟨_, List.mem_singleton.mpr rfl, rfl⟩
  | reply h =>
    obtain rfl : _ = Execution.ended _ := hb
    cases Execution.isIo_of_replied h
  | rest h =>
    obtain ⟨c, rfl⟩ := Execution.after_rested h
    cases hb

theorem Goes.settled (h : Goes d i e a b d' turns) (ha : a.Settled policy past) :
    b.Settled policy (past ++ turns) where
  counts := by
    rw [sentBy_append, List.length_append]
    exact h.counts ha.counts
  failed turn ht error hr := by
    rcases List.mem_append.mp ht with ht | ht
    · exact absurd (ha.failed turn ht error hr) (h.not_ended _)
    · exact h.failed ht hr
  refused url reason hb := by
    obtain ⟨turn, ht, hr⟩ := h.refused hb
    exact ⟨turn, List.mem_append_right _ ht, hr⟩

theorem settled_of_run (h : (start d).run es = some t) (hi : t.trips[i]? = some trip) :
    trip.Settled d.policy (t.turnsOf i) := by
  refine run_keeps_trips (Q := fun trip turns => trip.Settled d.policy turns) (fun r now => ?_)
    (fun hg ha => hg.settled ha) h hi
  refine ⟨⟨rfl, rfl, ?_⟩, fun _ ht => absurd ht List.not_mem_nil, fun _ _ hp => nomatch hp⟩
  show 0 < max 1 _
  omega

theorem mem_turnsOf :
    turn ∈ t.turnsOf i ↔ turn.trip = i ∧ ∃ k : Nat, t.turns[k]? = some turn := by
  rw [turnsOf, List.mem_filter, decide_eq_true_eq, List.mem_iff_getElem?, and_comm]

/-- The turns of a trip are for its request. -/
theorem request_of_turn (h : (start d).run es = some t) (hi : t.trips[i]? = some trip)
    (ht : turn ∈ t.turnsOf i) : turn.request = trip.request := by
  obtain ⟨htrip, k, hk⟩ := mem_turnsOf.mp ht
  obtain ⟨own, hown, hr⟩ := (owned_of_run h).turns turn (List.mem_of_getElem? hk)
  rw [htrip, hi] at hown
  cases hown
  exact hr

/-- An execution comes to nothing for the URL of its request once a server is selected, and for
no other URL: what is wrong with the base of a server is never seen. -/
theorem invalidUrl_iff (h : (start d).run es = some t) (hi : t.trips[i]? = some trip)
    (url reason : String) :
    trip.progress = .ended (.answered (.error (.invalidUrl url reason)))
      ↔ url = trip.request.url
        ∧ (∃ fault, Url.IsRefused Url.fault? url.toList fault ∧ fault.message = reason)
        ∧ ∃ k turn endpoint, t.turns[k]? = some turn ∧ turn.trip = i
          ∧ Selected d es k turn (.ok endpoint) := by
  have hsettled := settled_of_run h hi
  constructor
  · intro hp
    obtain ⟨turn, ht, hr⟩ := hsettled.refused url reason hp
    obtain ⟨htrip, k, hk⟩ := mem_turnsOf.mp ht
    obtain ⟨selection, hselected, hresult⟩ := exists_selection h hk
    rw [hr] at hresult
    cases selection with
    | error error =>
      obtain ⟨before, after, u, -, -, -, hselect⟩ := hselected
      rw [Dispatcher.select_eq_error hselect] at hresult
      cases hresult
    | ok endpoint =>
      obtain ⟨fault, hrefused, herror⟩ := Dispatcher.aim_eq_error hresult.symm
      rw [request_of_turn h hi ht] at hrefused herror
      cases herror
      exact ⟨rfl, ⟨fault, hrefused, rfl⟩, k, turn, endpoint, hk, htrip, hselected⟩
  · rintro ⟨rfl, ⟨fault, hrefused, rfl⟩, k, turn, endpoint, hk, htrip, hselected⟩
    have ht := mem_turnsOf.mpr ⟨htrip, k, hk⟩
    refine hsettled.failed turn ht _ ?_
    have hr := request_of_turn h hi ht
    rw [hselected.result_eq h hk, ← hr]
    exact Dispatcher.aim_of_isRefused (by rwa [hr]) endpoint

/-- For the URL that it came with a request is refused or not, whatever is selected for it: if it
is, nothing is sent; if it is not, it is sent to all that is selected, also where the base is of no
use, and each time that is one of the attempts that the policy allows. -/
theorem refused_for_own_url (h : (start d).run es = some t) (hi : t.trips[i]? = some trip) :
    (∀ url reason, trip.progress = .ended (.answered (.error (.invalidUrl url reason)))
      ↔ url = trip.request.url
        ∧ (∃ fault, Url.IsRefused Url.fault? url.toList fault ∧ fault.message = reason)
        ∧ ∃ k turn endpoint, t.turns[k]? = some turn ∧ turn.trip = i
          ∧ Selected d es k turn (.ok endpoint))
    ∧ (∀ fault, Url.IsRefused Url.fault? trip.request.url.toList fault →
      (∀ base, Url.retarget base trip.request.url = .error fault) ∧ t.sentFor i = [])
    ∧ ((∀ fault, ¬Url.IsRefused Url.fault? trip.request.url.toList fault) → ∃ rest : List Char,
      (∀ base, Url.retarget base trip.request.url
        = .ok (.ofList (Url.trimBase base.toList ++ rest)))
      ∧ ∀ k turn endpoint, t.turns[k]? = some turn → turn.trip = i →
        Selected d es k turn (.ok endpoint) → turn.result
          = .ok (trip.request.withUrl (.ofList (Url.trimBase endpoint.url.toList ++ rest))))
    ∧ (t.sentFor i).length ≤ max 1 d.policy.maxAttempts.toNat
    ∧ ∀ failed attempts elapsed,
      trip.progress = .ended (.answered (.error (.io failed attempts elapsed))) →
        attempts.toNat = (t.sentFor i).length
          ∧ attempts.toNat = max 1 d.policy.maxAttempts.toNat := by
  have hsettled := settled_of_run h hi
  have hcounts := hsettled.counts
  rw [← sentFor_eq] at hcounts
  refine ⟨invalidUrl_iff h hi, fun fault hrefused => ⟨fun base => ?_, ?_⟩, fun hfine => ?_,
    hcounts.le, fun failed attempts elapsed hp => ?_⟩
  · exact Url.retargetBy_eq_error_iff.mpr hrefused
  · rw [sentFor_eq, sentBy, List.filterMap_eq_nil_iff]
    intro turn ht
    obtain ⟨-, k, hk⟩ := mem_turnsOf.mp ht
    obtain ⟨selection, -, hresult⟩ := exists_selection h hk
    rw [hresult]
    cases selection with
    | error error => rfl
    | ok endpoint =>
      have hr := request_of_turn h hi ht
      rw [← hr] at hrefused
      show (Dispatcher.aim turn.request endpoint).toOption = none
      rw [Dispatcher.aim_of_isRefused hrefused]
      rfl
  · obtain ⟨rest, hrest⟩ := Url.exists_rest_of_not_isRefused hfine
    refine ⟨rest, hrest, fun k turn endpoint hk htrip hselected => ?_⟩
    have hr := request_of_turn h hi (mem_turnsOf.mpr ⟨htrip, k, hk⟩)
    rw [hselected.result_eq h hk, ← hr]
    exact Dispatcher.aim_of_retarget (by rw [hr]; exact hrest endpoint.url)
  · rw [hp] at hcounts
    obtain ⟨hsent, hall⟩ := hcounts.2 failed attempts elapsed rfl
    exact ⟨hsent, hsent.trans hall⟩

/-- A server whose base is not a URL, and an attempt more for it. -/
def badBase : Config.Settings :=
  { register :=
    { kind := "local", servers := "[::1", retry := { enabled := true, maxAttempts := 2 } } }

/-- One request comes with the base of that server for its URL, and the server fails another one
as often as it may be sent there. -/
def bothBad : List Event :=
  [.arrive (.get "http://[::1" "c") .zero, .resolve 0, .choose 0, .arrive (.get "/x" "c") .zero,
    .resolve 1, .choose 1, .reply 1 (.failure ⟨.connectionRefused, ""⟩) 0 .zero, .rest 1,
    .resolve 1, .choose 1, .reply 1 (.failure ⟨.connectionRefused, ""⟩) 0 .zero]

theorem refused_for_own_url_bothBad : ∃ t own other failed attempts elapsed,
    (start (.make badBase none [])).run bothBad = some t
    ∧ Url.IsRefused Url.fault? "http://[::1".toList .badIpv6
    ∧ t.trips[0]? = some own ∧ own.request = .get "http://[::1" "c" ∧ t.sentFor 0 = []
    ∧ own.progress
      = .ended (.answered (.error (.invalidUrl "http://[::1" Url.Fault.badIpv6.message)))
    ∧ t.trips[1]? = some other ∧ other.request = .get "/x" "c"
    ∧ t.sentFor 1 = [.get "http://[::1/x" "c", .get "http://[::1/x" "c"]
    ∧ other.progress = .ended (.answered (.error (.io failed attempts elapsed)))
    ∧ attempts.toNat = 2 := by
  have hbase : Url.IsRefused Url.fault? "http://[::1".toList .badIpv6 :=
    ⟨"http".toList, "[::1".toList, [], rfl, Url.not_endsAuthority_of_all rfl,
      fun _ hc => (nomatch hc), rfl, rfl⟩
  have hrun : ∃ failed attempts elapsed, ((start (.make badBase none [])).run bothBad).map
      (fun t => (t.trips.map fun trip => (trip.request, trip.progress), t.sentFor 1))
      = some ([(.get "http://[::1" "c",
          .ended (.answered (.error (.invalidUrl "http://[::1" Url.Fault.badIpv6.message)))),
        (.get "/x" "c", .ended (.answered (.error (.io failed attempts elapsed))))],
        [.get "http://[::1/x" "c", .get "http://[::1/x" "c"]) := ⟨_, _, _, rfl⟩
  obtain ⟨failed, attempts, elapsed, hrun⟩ := hrun
  obtain ⟨t, ht, hrun⟩ := Option.map_eq_some_iff.mp hrun
  obtain ⟨hboth, hsent⟩ := Prod.mk.inj hrun
  obtain ⟨own, trips, htrips, hown, hothers⟩ := List.map_eq_cons_iff.mp hboth
  obtain ⟨other, _, rfl, hother, -⟩ := List.map_eq_cons_iff.mp hothers
  obtain ⟨hownRequest, hownProgress⟩ := Prod.mk.inj hown
  obtain ⟨hotherRequest, hotherProgress⟩ := Prod.mk.inj hother
  have hi : t.trips[0]? = some own := by rw [htrips]; rfl
  have hj : t.trips[1]? = some other := by rw [htrips]; rfl
  obtain ⟨-, hrefused, -⟩ := refused_for_own_url ht hi
  obtain ⟨-, -, -, -, hspent⟩ := refused_for_own_url ht hj
  obtain ⟨-, hnone⟩ := hrefused .badIpv6 (by rw [hownRequest]; exact hbase)
  obtain ⟨hcount, -⟩ := hspent failed attempts elapsed hotherProgress
  exact ⟨t, own, other, failed, attempts, elapsed, ht, hbase, hi, hownRequest, hnone,
    hownProgress, hj, hotherRequest, hsent, hotherProgress, by rw [hcount, hsent]; rfl⟩

end Traffic

end Dispatch

end Switchyard
