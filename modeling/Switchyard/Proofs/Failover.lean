import Mathlib.Algebra.Group.Nat.Defs
import Mathlib.Data.List.Rotate
import Switchyard.Proofs.Attempts
import Switchyard.Proofs.Rotation

/-!
# Failing over

Where a fixed list of servers takes turns, the attempts of an execution go once around the list
from the place that the cursor of the cluster points at, as long as nobody else moves that cursor.
So an execution that may make an attempt for each server finds one that is alive
(`execute_fails_over`).  The cursor stands where the selections for the cluster have left it
(`Dispatcher.Stands`), whatever was done to the dispatcher before.
-/

namespace Switchyard.Dispatch

open Balance (Rotation)
open Http (Request Response)

/-- The requests that were aimed at servers, in order. -/
def aimedIn (log : List Happening) : List Request :=
  log.filterMap fun
    | .prepared (.ok aimed) => some aimed
    | _ => none

@[simp] theorem aimedIn_append (log log' : List Happening) :
    aimedIn (log ++ log') = aimedIn log ++ aimedIn log' := List.filterMap_append

@[simp] theorem aimedIn_nil : aimedIn [] = [] := rfl

@[simp] theorem aimedIn_prepared (aimed : Request) (log : List Happening) :
    aimedIn (.prepared (.ok aimed) :: log) = aimed :: aimedIn log := rfl

@[simp] theorem aimedIn_replied (reply : Reply) (draw : Nat) (now : Span)
    (log : List Happening) : aimedIn (.replied reply draw now :: log) = aimedIn log := rfl

@[simp] theorem aimedIn_rested (log : List Happening) :
    aimedIn (.rested :: log) = aimedIn log := rfl

/-- The transport answers a request that is aimed at a server that is alive, and fails with one
that is aimed at another server. -/
structure Surroundings.Serves {σ : Type} (e : Surroundings σ) (r : Request)
    (endpoints : List Endpoint) (live : Endpoint → Bool) : Prop where
  answers : ∀ x ∈ endpoints, live x = true → ∀ aimed, Dispatcher.aim r x = .ok aimed →
    ∀ s, ∃ response, (e.send aimed s).2 = .response response
  fails : ∀ x ∈ endpoints, live x = false → ∀ aimed, Dispatcher.aim r x = .ok aimed →
    ∀ s, ∃ f, (e.send aimed s).2 = .failure f

/-- The server whose turn it is belongs to the list. -/
theorem mem_of_rotate {endpoints rest : List Endpoint} {x : Endpoint} {k : Nat}
    (h : endpoints.rotate k = x :: rest) : x ∈ endpoints := by
  rw [← List.mem_rotate (n := k), h]
  exact List.mem_cons_self

namespace Dispatcher

/-- A dispatcher with a fixed list of servers that takes turns, and made `k` selections for a
cluster. -/
def Stands (endpoints : List Endpoint) (key : String) (k : Nat) (d : Dispatcher) : Prop :=
  ∃ rotation, d.Turning endpoints rotation ∧ rotation.cursor key = .ofNat k

variable {d : Dispatcher} {endpoints : List Endpoint} {key : String} {k : Nat}

theorem Stands.after (h : d.Stands endpoints key k) (hne : endpoints ≠ []) (us : List Use) :
    (d.after us).Stands endpoints key (k + us.countP (Use.turns endpoints key)) := by
  obtain ⟨rotation, ht, hc⟩ := h
  obtain ⟨rotation', ht', hc'⟩ := Turning.after hne us ht
  exact ⟨rotation', ht', by rw [hc', hc, UInt64.ofNat_add]⟩

theorem Stands.after_apart (h : d.Stands endpoints key k) (hne : endpoints ≠ [])
    {us : List Use} (hus : ∀ u ∈ us, u.turns endpoints key = false) :
    (d.after us).Stands endpoints key k := by
  have h0 : us.countP (Use.turns endpoints key) = 0 :=
    List.countP_eq_zero.mpr fun u hu => by simp [hus u hu]
  have := h.after hne us
  rwa [h0, Nat.add_zero] at this

/-- The next attempt for a cluster is aimed at the head of the list, turned as often as there were
selections. -/
theorem Stands.prepare {r : Request} (h : d.Stands endpoints r.contextId k)
    (hid : r.contextId ≠ "") (hk : k < 2 ^ 64) {x : Endpoint} {rest : List Endpoint}
    (hx : endpoints.rotate k = x :: rest) :
    (d.prepare r).2 = aim r x ∧ (d.prepare r).1.Stands endpoints r.contextId (k + 1) := by
  obtain ⟨rotation, ht, hc⟩ := h
  have hkey := Rotation.cursorKey_of_ne hid endpoints
  have hne : endpoints ≠ [] := List.ne_nil_of_mem (mem_of_rotate hx)
  have hat : endpoints[k % endpoints.length]? = some x := by
    rw [← List.head?_rotate (Nat.mod_lt _ (List.length_pos_iff.mpr hne)), List.rotate_mod, hx]
    rfl
  have hcursor : (rotation.cursor (Rotation.cursorKey endpoints r.contextId)).toNat = k := by
    rw [hkey, hc, UInt64.toNat_ofNat_of_lt' hk]
  obtain ⟨hp, ht'⟩ := ht.prepare (q := r) (by rw [hcursor]; exact hat)
  refine ⟨hp, _, ht', ?_⟩
  rw [Rotation.cursor_advance, hkey, if_pos rfl, hc, UInt64.ofNat_add]
  rfl

end Dispatcher

section Lap

variable {σ : Type} {e : Surroundings σ} {view : σ → Dispatcher} {meanwhile : Use → Prop}
  {endpoints : List Endpoint} {r : Request} {live : Endpoint → Bool}

/-- One attempt: it is aimed at the head of the turned list, and what others do while it is sent
or waited for leaves the cursor alone. -/
theorem Surroundings.Shares.attempt (h : e.Shares view meanwhile)
    (hapart : ∀ u, meanwhile u → u.turns endpoints r.contextId = false) {s : σ} {k : Nat}
    (hs : (view s).Stands endpoints r.contextId k) (hid : r.contextId ≠ "") (hk : k < 2 ^ 64)
    {x : Endpoint} {rest : List Endpoint} (hx : endpoints.rotate k = x :: rest) {aimed : Request}
    (haimed : Dispatcher.aim r x = .ok aimed) :
    ∃ t, e.prepare r s = (t, .ok aimed) ∧ ∀ u reply, e.send aimed t = (u, reply) →
      ∀ delay, (view (e.wait r delay u)).Stands endpoints r.contextId (k + 1) := by
  have hne : endpoints ≠ [] := List.ne_nil_of_mem (mem_of_rotate hx)
  obtain ⟨hview, hres⟩ := h.prepare r s
  obtain ⟨hp, hstands⟩ := hs.prepare hid hk hx
  refine ⟨(e.prepare r s).1, Prod.ext rfl (hres.trans (hp.trans haimed)), ?_⟩
  intro u reply hsend delay
  obtain ⟨us, hus, hu⟩ := h.send aimed (e.prepare r s).1
  obtain ⟨us', hus', hu'⟩ := h.wait r delay u
  rw [hsend, hview] at hu
  rw [hu', hu]
  exact (hstands.after_apart hne fun u hm => hapart u (hus u hm)).after_apart hne
    fun u hm => hapart u (hus' u hm)

/-- From a call on, the attempts go through the servers of the turned list that are not alive, and
end with the answer of the first one that is. -/
theorem attempts_lap (h : e.Shares view meanwhile)
    (hapart : ∀ u, meanwhile u → u.turns endpoints r.contextId = false)
    (hid : r.contextId ≠ "") (haim : ∀ x ∈ endpoints, ∃ aimed, Dispatcher.aim r x = .ok aimed)
    (hserves : e.Serves r endpoints live) {x : Endpoint} (hx : live x = true)
    {tried rest : List Endpoint} {k : Nat} {c : Call} {s : σ} (log : List Happening)
    (hlap : endpoints.rotate k = tried ++ x :: rest) (hdead : ∀ y ∈ tried, live y = false)
    (hk : k + tried.length < 2 ^ 64) (hs : (view s).Stands endpoints r.contextId k)
    (hc : c.request = r)
    (hmore : c.retries.attempt.toNat + tried.length ≤ c.retries.policy.maxAttempts.toNat) :
    ∃ t response log', attempts e.recorded c (s, log) = ((t, log'), .answered (.ok response))
      ∧ (aimedIn log').map .ok
        = (aimedIn log).map .ok ++ (tried ++ [x]).map (Dispatcher.aim r)
      ∧ log'.getLast? = some (.replied (.response response) (e.draw t) (e.now t)) := by
  induction tried generalizing rest k c s log with
  | nil =>
    have hmem : x ∈ endpoints := mem_of_rotate hlap
    obtain ⟨aimed, haimed⟩ := haim x hmem
    obtain ⟨s₁, hp, -⟩ := h.attempt hapart hs hid hk hlap haimed
    obtain ⟨response, hresponse⟩ := hserves.answers x hmem hx aimed haimed s₁
    have hsend : e.send aimed s₁ = ((e.send aimed s₁).1, .response response) :=
      Prod.ext rfl hresponse
    rw [← hc] at hp
    refine ⟨_, response, _,
      attempts_of_response (prepare_recorded hp log) (send_recorded hsend _), ?_, ?_⟩
    · simp [haimed]
    · simp
  | cons y tried ih =>
    rw [List.length_cons] at hk hmore
    have hmem : y ∈ endpoints := mem_of_rotate hlap
    obtain ⟨aimed, haimed⟩ := haim y hmem
    obtain ⟨s₁, hp, hnext⟩ := h.attempt hapart hs hid (by omega) hlap haimed
    obtain ⟨f, hf⟩ := hserves.fails y hmem (hdead y List.mem_cons_self) aimed haimed s₁
    rcases hsend : e.send aimed s₁ with ⟨s₂, reply⟩
    obtain rfl : reply = .failure f := by rw [← hf, hsend]
    obtain ⟨d, hd, hreq, -, hpol, hatt⟩ :=
      Call.afterFailure_of_more (e.draw s₂) (e.now s₂) f (c := c) (by omega)
    have hdr : d.request = r := hreq.trans hc
    -- one turn more takes the server that was tried to the end of the list
    have hlap' : endpoints.rotate (k + 1) = tried ++ x :: (rest ++ [y]) := by
      rw [← List.rotate_rotate, hlap, List.cons_append, List.rotate_cons_succ, List.rotate_zero,
        List.append_assoc, List.cons_append]
    have hs' : (view (e.wait d.request d.retries.delay s₂)).Stands endpoints r.contextId
        (k + 1) := by
      rw [hdr]
      exact hnext s₂ _ hsend d.retries.delay
    rw [← hc] at hp
    obtain ⟨t, response, log', har, haims, hlast⟩ := ih
      (log ++ [.prepared (.ok aimed)] ++ [.replied (.failure f) (e.draw s₂) (e.now s₂)]
        ++ [.rested])
      hlap' (fun z hz => hdead z (List.mem_cons_of_mem y hz)) (by omega) hs' hdr
      (by rw [hatt, hpol]; omega)
    refine ⟨t, response, log', ?_, ?_, hlast⟩
    · rw [attempts_of_retry (prepare_recorded hp log) (send_recorded hsend _) hd, wait_recorded,
        har]
    · rw [haims]
      simp [haimed]

end Lap

/-- Among the servers of a list one that is alive comes first from any place on. -/
theorem exists_lap {endpoints : List Endpoint} {live : Endpoint → Bool}
    (h : ∃ x ∈ endpoints, live x = true) (k : Nat) :
    ∃ tried x rest, endpoints.rotate k = tried ++ x :: rest ∧ (∀ y ∈ tried, live y = false)
      ∧ live x = true := by
  obtain ⟨y, hy, hlive⟩ := h
  obtain ⟨x, hx⟩ := Option.isSome_iff_exists.mp
    (List.find?_isSome.mpr ⟨y, List.mem_rotate.mpr hy, hlive⟩ :
      ((endpoints.rotate k).find? live).isSome = true)
  obtain ⟨hxl, tried, rest, hlap, hdead⟩ := List.find?_eq_some_iff_append.mp hx
  exact ⟨tried, x, rest, hlap, fun y hy => by simpa using hdead y hy, hxl⟩

/-- A dispatcher with a fixed list of servers that takes turns, and may make an attempt for each
server, has been used in any way.  Then an execution whose cluster is not selected for by anyone
else meanwhile goes once around the list, from the place that the number of selections for the
cluster so far points at: it tries the servers there that are not alive and ends with the response
of the first one that is.  Since calls without a context id count on a cursor that has a name too,
they are to be left out meanwhile if the cluster has just that name. -/
theorem execute_fails_over {σ : Type} {settings : Config.Settings} {register : Option Register}
    {balancers : List (String × Balance.Balancer)} {d : Dispatcher} {endpoints : List Endpoint}
    {e : Surroundings σ} {view : σ → Dispatcher} {meanwhile : Use → Prop} {us : List Use} {s : σ}
    {r : Request} {live : Endpoint → Bool} {k : Nat}
    (hd : Dispatcher.make settings register balancers = d)
    (hkind : trim settings.register.kind = Config.localKind)
    (hservers : Directory.fixedEndpoints settings.register.servers = endpoints)
    (hturn : d.balancers.balancers[d.balancers.placeOf d.strategy]? = some .taking)
    (hretry : settings.register.retry.enabled = true)
    (hbudget : endpoints.length ≤ settings.register.retry.maxAttempts.toNat)
    (hshares : e.Shares view meanwhile) (hpast : view s = d.after us)
    (hk : us.countP (Use.turns endpoints r.contextId) = k)
    (hid : r.contextId ≠ "")
    (hapart : ∀ q, meanwhile (.prepare q) → q.contextId ≠ r.contextId)
    (hname : r.contextId = Rotation.cursorKey endpoints "" →
      ∀ q, meanwhile (.prepare q) → q.contextId ≠ "")
    (haim : ∀ x ∈ endpoints, ∃ aimed, Dispatcher.aim r x = .ok aimed)
    (hserves : e.Serves r endpoints live) (hlive : ∃ x ∈ endpoints, live x = true) :
    ∃ tried x rest, endpoints.rotate k = tried ++ x :: rest
      ∧ (∀ y ∈ tried, live y = false) ∧ live x = true
      ∧ (k + tried.length < 2 ^ 64 → ∃ t response log draw now,
        execute e d.policy r s = (t, .answered (.ok response))
          ∧ execute e.recorded d.policy r (s, []) = ((t, log), .answered (.ok response))
          ∧ (aimedIn log).map .ok = (tried ++ [x]).map (Dispatcher.aim r)
          ∧ log.getLast? = some (.replied (.response response) draw now)) := by
  obtain ⟨tried, x, rest, hlap, hdead, hx⟩ := exists_lap hlive k
  refine ⟨tried, x, rest, hlap, hdead, hx, fun hlt => ?_⟩
  have hne : endpoints ≠ [] := by
    rintro rfl
    simp at hlap
  have hnew : d.Stands endpoints r.contextId 0 := by
    subst hd
    exact ⟨.empty, ⟨hkind, hservers, hturn⟩, rfl⟩
  have hstands : (view s).Stands endpoints r.contextId k := by
    have := hnew.after hne us
    rwa [Nat.zero_add, hk, ← hpast] at this
  have hturns : ∀ u, meanwhile u → u.turns endpoints r.contextId = false := by
    rintro (q | q | ⟨q, result⟩ | ⟨c, instances⟩) hu
    · exact beq_false_of_ne (Rotation.cursorKey_ne (hapart q hu) fun h => hname h q hu)
    all_goals rfl
  have hpolicy : d.policy = .ofSettings settings.register.retry := by
    subst hd
    rfl
  have hmax : tried.length + 1 ≤ d.policy.maxAttempts.toNat := by
    have hlen := congrArg List.length hlap
    rw [List.length_rotate, List.length_append, List.length_cons] at hlen
    rw [hpolicy, maxAttempts_ofSettings, budget, if_pos hretry]
    omega
  obtain ⟨t, response, log, har, haims, hlast⟩ :=
    attempts_lap (c := .start d.policy r (e.now s)) hshares hturns hid haim hserves hx [] hlap
      hdead hlt hstands rfl (by rw [Nat.add_comm]; exact hmax)
  have hrecorded : execute e.recorded d.policy r (s, [])
      = ((e.finish r (.ok response) t, log), .answered (.ok response)) := by
    rw [execute, show e.recorded.now (s, []) = e.now s from rfl, har]
    rfl
  have hplain := execute_of_forgets (forgets_recorded e) d.policy r (s, [])
  rw [hrecorded] at hplain
  exact ⟨_, response, log, e.draw t, e.now t, hplain, hrecorded, haims, hlast⟩

/-- Surroundings of a dispatcher where one URL is answered, and a request is prepared whenever
another one is sent. -/
def besides (alive : String) (other : Request) : Surroundings Dispatcher where
  prepare r d := d.prepare r
  send aimed d := ((d.prepare other).1,
    if aimed.url = alive then .response (.make 200) else .failure ⟨.connectionRefused, "refused"⟩)
  wait r _ d := d.countRetry r
  now _ := .zero
  draw _ := 0
  finish r result d := d.countResult r result

theorem besides_shares (alive : String) (other : Request) :
    (besides alive other).Shares id fun u => u = .prepare other ∨ ∃ r, u = .retry r where
  prepare _ _ := ⟨rfl, rfl⟩
  send _ _ := ⟨[.prepare other], by simp, rfl⟩
  wait r _ _ := ⟨[.retry r], by simp, rfl⟩

theorem besides_serves {alive : String} {other r : Request} {endpoints : List Endpoint}
    {live : Endpoint → Bool} (h : ∀ x ∈ endpoints, ∀ aimed, Dispatcher.aim r x = .ok aimed →
      (aimed.url = alive ↔ live x = true)) : (besides alive other).Serves r endpoints live where
  answers x hx hlive aimed haimed _ := ⟨.make 200, if_pos ((h x hx aimed haimed).mpr hlive)⟩
  fails x hx hdead aimed haimed _ := ⟨_, if_neg fun hurl => by
    simp [(h x hx aimed haimed).mp hurl] at hdead⟩

theorem execute_fails_over_second : ∃ d t response log,
    Dispatcher.make { register :=
      { kind := "local", servers := "a,b", retry := { enabled := true, maxAttempts := 2 } } }
      none [] = d
    ∧ execute (besides "http://a/x" (.get "/y" "")).recorded d.policy (.get "/x" "c")
      (d.after [.prepare (.get "/w" "c")], []) = ((t, log), .answered (.ok response))
    ∧ (aimedIn log).map (·.url) = ["http://b/x", "http://a/x"] := by
  have ha : Dispatcher.aim (.get "/x" "c") (.ofAddress "a") = .ok (.get "http://a/x" "c") := rfl
  have hb : Dispatcher.aim (.get "/x" "c") (.ofAddress "b") = .ok (.get "http://b/x" "c") := rfl
  have hapart : ∀ q, (Use.prepare q = .prepare (.get "/y" "") ∨ ∃ r, Use.prepare q = .retry r) →
      q.contextId ≠ "c" := by
    rintro q (hq | ⟨_, hq⟩) <;> cases hq
    decide
  have hkey : "c" ≠ Rotation.cursorKey [.ofAddress "a", .ofAddress "b"] "" := by
    intro h
    have hhead := congrArg (·.toList.head?) h
    simp [Rotation.cursorKey] at hhead
  have hserves : (besides "http://a/x" (.get "/y" "")).Serves (.get "/x" "c")
      [.ofAddress "a", .ofAddress "b"] (· == .ofAddress "a") := by
    refine besides_serves fun x hx aimed haimed => ?_
    rcases List.mem_pair.mp hx with rfl | rfl
    · cases ha.symm.trans haimed
      decide
    · cases hb.symm.trans haimed
      decide
  obtain ⟨d, hd⟩ : ∃ d, Dispatcher.make { register :=
      { kind := "local", servers := "a,b", retry := { enabled := true, maxAttempts := 2 } } }
      none [] = d := ⟨_, rfl⟩
  have hservers : Directory.fixedEndpoints "a,b" = [.ofAddress "a", .ofAddress "b"] := rfl
  have hk : [Use.prepare (.get "/w" "c")].countP
      (Use.turns [.ofAddress "a", .ofAddress "b"] "c") = 1 := rfl
  obtain ⟨tried, x, rest, hlap, hdead, hlive, hrun⟩ := execute_fails_over hd rfl hservers
    (by subst hd; rfl) rfl (by decide) (besides_shares _ _) rfl hk (by decide) hapart
    (fun h => absurd h hkey) (by simp [ha, hb]) hserves ⟨.ofAddress "a", by simp, by simp⟩
  obtain ⟨rfl, rfl⟩ : tried = [.ofAddress "b"] ∧ x = .ofAddress "a" := by
    rcases tried with _ | ⟨y, _ | ⟨z, tried⟩⟩
    · cases hlap
      exact absurd hlive (by decide)
    · cases hlap
      exact ⟨rfl, rfl⟩
    · have := congrArg List.length hlap
      simp at this
  obtain ⟨t, response, log, -, -, -, hrec, haims, -⟩ := hrun (by decide)
  have hurls : aimedIn log = [.get "http://b/x" "c", .get "http://a/x" "c"] :=
    List.map_injective_iff.mpr (fun _ _ => Except.ok.inj) haims
  exact ⟨d, t, response, log, hd, hrec, by rw [hurls]; rfl⟩

end Switchyard.Dispatch
