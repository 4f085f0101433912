import Switchyard.Gateway.Layer
import Switchyard.Proofs.Transparency

/-!
# Which answers carry the id of their request

Whatever a service does behind the layers, an answer of its own comes out with an id, and the
answer that is made when the time is up comes out without one (`ids_around_layers`).

So in a run of the gateway the answers without an id are those to the visits that were too late
(`Site.IsLate`).  All others have the ids that the servers gave them, or else that of the request,
which is the one that the servers got.
-/

namespace Switchyard.Gateway

open Http (Headers Response)
open Queue (Pool Result)

theorem ids_propagate (id : List UInt8) (r : Response) :
    Headers.values requestIdHeader (propagate id r).headers
      = if Headers.values requestIdHeader r.headers = [] then [id]
        else Headers.values requestIdHeader r.headers := by
  rw [propagate_eq]
  split_ifs with h
  · rw [Headers.values_concat, h, if_pos rfl, List.nil_append]
  · rfl

/-- Behind the layers an answer gets the id of its request, unless it has one. -/
theorem ids_around_layers (fresh : List UInt8) (inner : Service) (i : Inbound) :
    ∃ a, Layer.around (layers fresh) inner i = some a
      ∧ (inner (withId fresh i) = none → a = .make 408)
      ∧ ∀ r, inner (withId fresh i) = some r → Headers.values requestIdHeader a.headers
        = if Headers.values requestIdHeader r.headers = [] then [idOf fresh i]
          else Headers.values requestIdHeader r.headers := by
  rw [around_layers]
  cases inner (withId fresh i) with
  | none => exact ⟨_, rfl, fun _ => rfl, nofun⟩
  | some r => exact ⟨_, rfl, nofun, fun r' hr => Option.some.inj hr ▸ ids_propagate _ _⟩

theorem ids_problem (status : Nat) (reason : String) :
    Headers.values requestIdHeader (problem status reason).headers = [] := by
  have hname : (Headers.entry "content-type" (Http.bytesOf "application/json")).name
      = "content-type" := by decide +kernel
  simp [problem, Headers.values, hname, requestIdHeader]

theorem ids_withId (fresh : List UInt8) (i : Inbound) :
    Headers.values requestIdHeader (withId fresh i).headers
      = if Headers.values requestIdHeader i.headers = [] then [fresh]
        else Headers.values requestIdHeader i.headers := by
  unfold withId Headers.first?
  cases h : Headers.values requestIdHeader i.headers with
  | nil => simp [Headers.values_concat, h]
  | cons id ids => simpa using h

/-- The ids that the servers gave an answer. -/
def Course.ownIds : Course → List (List UInt8)
  | .answered (.result (.ok r)) => Headers.values requestIdHeader r.headers
  | _ => []

/-- What the handler answers has the ids of the servers, if they gave any, and no others. -/
theorem Course.ids_response (c : Course) :
    Headers.values requestIdHeader c.response.headers = c.ownIds := by
  rcases c with _ | _ | _ | ((e | r) | _)
  · exact ids_problem _ _
  · exact ids_problem _ _
  · exact ids_problem _ _
  · exact ids_problem _ _
  · exact (Headers.values_without _ _ _).trans (if_neg (by decide))
  · exact ids_problem _ _

/-- What the client gets has the ids of the servers, or else that of the request. -/
theorem ids_respond (fresh : List UInt8) (i : Inbound) (c : Course) :
    Headers.values requestIdHeader (respond fresh i (some c)).headers
      = if c.ownIds = [] then [idOf fresh i] else c.ownIds := by
  obtain ⟨a, ha, -, hids⟩ := ids_around_layers fresh (fun _ => some c.response) i
  obtain rfl := Option.some.inj (ha.symm.trans (around_layers_course fresh i (some c)))
  rw [hids _ rfl, c.ids_response]

namespace Site

variable {s : Site} {v : Visit}

/-- The servers have answered what was sent for a visit. -/
def RespondedWith (s : Site) (v : Visit) (r : Response) : Prop :=
  ∃ (n k : Nat) (trip : Dispatch.Trip), v.place = .ok n ∧ s.pool.received[k]? = some n
    ∧ s.traffic.trips[k]? = some trip ∧ trip.progress = .ended (.answered (.ok r))

/-- The time of a visit was up while it had no answer. -/
def IsLate (s : Site) (v : Visit) : Prop :=
  ∃ n, v.place = .ok n ∧ n ∈ s.pool.abandoned ∧ (n ∈ s.pool.unread ∨ s.pool.answerOf n = none)

theorem IsLate.answerTo?_eq (h : s.IsLate v) : s.answerTo? v = some (.make 408) := by
  obtain ⟨n, hplace, habandoned, hn⟩ := h
  simp only [answerTo?, hplace]
  cases ha : s.pool.answerOf n with
  | none => exact if_pos habandoned
  | some x => simp [respond, hn.resolve_right (by simp [ha])]

/-- A visit that is not too late is answered with what the handler has made of it. -/
theorem Linked.answerTo?_cases (hs : s.Linked) {a : Response} (h : s.answerTo? v = some a)
    (hlate : ¬s.IsLate v) : ∃ c : Course, a = respond v.fresh v.inbound (some c)
      ∧ (v.place = .error c
        ∨ ∃ n x, v.place = .ok n ∧ s.pool.answerOf n = some x ∧ c = .answered x) := by
  unfold answerTo? at h
  split at h
  · rename_i c hplace
    exact ⟨c, (Option.some.inj h).symm, Or.inl hplace⟩
  · rename_i n hplace
    split at h
    · rename_i x hx
      have hread : n ∉ s.pool.unread := fun hn => hlate ⟨n, hplace, hs.wanted n hn, Or.inl hn⟩
      rw [if_neg hread] at h
      exact ⟨_, (Option.some.inj h).symm, Or.inr ⟨n, x, hplace, hx, rfl⟩⟩
    · rename_i hx
      split_ifs at h with hn
      exact absurd ⟨n, hplace, hn, Or.inr hx⟩ hlate

/-- The answer to a visit is the response that the servers gave, if they did. -/
theorem Linked.answer_of_respondedWith (hs : s.Linked) {r : Response} (h : s.RespondedWith v r)
    {n : Nat} {x : Queue.Answer Result} (hn : v.place = .ok n) (hx : s.pool.answerOf n = some x) :
    x = .result (.ok r) := by
  obtain ⟨m, k, trip, hm, hk, htrip, hp⟩ := h
  obtain rfl : n = m := by simpa [hn] using hm
  obtain ⟨ending, hended, rfl⟩ := hs.answered k n trip x hk htrip (Pool.mem_of_answerOf hx)
  obtain rfl : .answered (.ok r) = ending := by simpa [hp] using hended
  rfl

theorem Linked.ownIds_of_answerOf (hs : s.Linked) (h : ¬∃ r, s.RespondedWith v r) {n : Nat}
    {x : Queue.Answer Result} (hn : v.place = .ok n) (hx : s.pool.answerOf n = some x) :
    (Course.answered x).ownIds = [] := by
  rcases x with (e | r) | _
  · rfl
  · obtain ⟨k, trip, hk, ht, hp⟩ := hs.results n (.ok r) (Pool.mem_of_answerOf hx)
    exact absurd ⟨r, n, k, trip, hn, hk, ht, hp⟩ h
  · rfl

section Run

variable {g : Front} {capacity workers : Nat} {signal : Signal} {d : Dispatch.Dispatcher}
  {es : List Event}

/-- What the servers get for a visit has the ids that it came with, or the fresh one. -/
theorem ids_of_turn (h : (start g capacity workers signal d).run es = some s) (hv : v ∈ s.visits)
    {turn : Dispatch.Turn} {aimed : Http.Request} {n : Nat} (hturn : turn ∈ s.traffic.turns)
    (hn : v.place = .ok n) (hk : s.pool.received[turn.trip]? = some n)
    (ha : turn.result = .ok aimed) :
    Headers.values requestIdHeader aimed.headers
      = if Headers.values requestIdHeader v.inbound.headers = [] then [v.fresh]
        else Headers.values requestIdHeader v.inbound.headers := by
  obtain ⟨x, hx, hreq⟩ := request_of_turn h hv (Visit.number?_eq_some_iff.mpr hn) hturn hk
  obtain ⟨j, hj⟩ := List.mem_iff_getElem?.mp hturn
  obtain ⟨-, -, -, server, -, -, -, -, haim⟩ := sent_moment h hj ha
  rw [headers_of_aim hx (hreq ▸ haim), if_neg (by decide)]
  exact ids_withId v.fresh v.inbound

/-- An answer can be told by its id unless the time was up.  Whatever is done behind the layers,
an answer comes out of them with the ids that the servers gave it, or else with that of its request;
when the time is up it is a bare status.  In any run of the gateway, for any visit: if the time was
up before there was an answer, the client gets the bare status.  If it was not, and the servers
have answered what was sent for the visit, the answer has the ids of the servers, or else the id of
the request; any other answer has the id of the request.  And whatever is sent for the visit has
the same ids as the request, or the fresh one if it had none. -/
theorem correlated_unless_late (h : (start g capacity workers signal d).run es = some s)
    (hv : v ∈ s.visits) :
    (∀ fresh (inner : Service) i, ∃ a, Layer.around (layers fresh) inner i = some a
      ∧ (inner (withId fresh i) = none → a = .make 408)
      ∧ ∀ r, inner (withId fresh i) = some r → Headers.values requestIdHeader a.headers
        = if Headers.values requestIdHeader r.headers = [] then [idOf fresh i]
          else Headers.values requestIdHeader r.headers)
    ∧ (s.IsLate v → s.answerTo? v = some (.make 408))
    ∧ (¬s.IsLate v → ∀ a, s.answerTo? v = some a →
      (∀ r, s.RespondedWith v r → Headers.values requestIdHeader a.headers
        = if Headers.values requestIdHeader r.headers = [] then [idOf v.fresh v.inbound]
          else Headers.values requestIdHeader r.headers)
      ∧ ((¬∃ r, s.RespondedWith v r) →
        Headers.values requestIdHeader a.headers = [idOf v.fresh v.inbound]))
    ∧ ∀ turn ∈ s.traffic.turns, ∀ n aimed, v.place = .ok n →
      s.pool.received[turn.trip]? = some n → turn.result = .ok aimed →
      Headers.values requestIdHeader aimed.headers
        = if Headers.values requestIdHeader v.inbound.headers = [] then [v.fresh]
          else Headers.values requestIdHeader v.inbound.headers := by
  refine ⟨ids_around_layers, IsLate.answerTo?_eq, fun hlate a ha => ?_,
    fun turn hturn n aimed hn hk haimed => ids_of_turn h hv hturn hn hk haimed⟩
  have hlinked := linked_of_run h
  obtain ⟨c, rfl, hc⟩ := hlinked.answerTo?_cases ha hlate
  have hids := ids_respond v.fresh v.inbound c
  constructor
  · intro r hr
    rcases hc with hplace | ⟨n, x, hn, hx, rfl⟩
    · obtain ⟨n, -, -, hn, -⟩ := hr
      rw [hplace] at hn
      cases hn
    · rw [hlinked.answer_of_respondedWith hr hn hx] at hids ⊢
      exact hids
  · intro hnone
    have hown : c.ownIds = [] := by
      rcases hc with hplace | ⟨n, x, hn, hx, rfl⟩
      · -- a request that was turned away never got to a server
        obtain ⟨p, hp⟩ := refuses_of_run h hv hplace
        cases hp <;> rfl
      · exact hlinked.ownIds_of_answerOf hnone hn hx
    rw [hown, if_pos rfl] at hids
    exact hids

end Run

/-- A request with an id that is sent and then takes too long, and one that is too large. -/
def overdue : List Event :=
  [.arrive ⟨"GET", some "/", [⟨requestIdHeader, [1]⟩], []⟩ [5], .receive 0 .zero,
    .travel (.resolve 0), .travel (.choose 0), .queue (.abandon 0),
    .arrive ⟨"PUT", some "/", [], [2, 3]⟩ [6]]

theorem correlated_unless_late_overdue : ∃ s late large answer turn aimed,
    (start ⟨some "c", 1⟩ 1 1 .make
      (.make { register := { kind := "local", servers := "s" } } none [])).run overdue = some s
    ∧ late ∈ s.visits ∧ s.answerTo? late = some (.make 408) ∧ turn ∈ s.traffic.turns
    ∧ turn.result = .ok aimed ∧ Headers.values requestIdHeader aimed.headers = [[1]]
    ∧ large ∈ s.visits ∧ s.answerTo? large = some answer
    ∧ Headers.values requestIdHeader answer.headers = [[6]] := by
  obtain ⟨s, hs, ⟨late, hlate, hin, hplace, habandoned, hans⟩, ⟨large, hlarge, hid, hout⟩,
      turn, aimed, hturn, hk, ha⟩ : ∃ s,
      (start ⟨some "c", 1⟩ 1 1 .make
        (.make { register := { kind := "local", servers := "s" } } none [])).run overdue = some s
      ∧ (∃ v, s.visits[0]? = some v ∧ v.inbound.headers = [⟨requestIdHeader, [1]⟩]
        ∧ v.place = .ok 0 ∧ s.pool.abandoned = [0] ∧ s.pool.answers = [])
      ∧ (∃ v, s.visits[1]? = some v ∧ idOf v.fresh v.inbound = [6] ∧ v.place = .error .tooLarge)
      ∧ ∃ turn aimed, s.traffic.turns[0]? = some turn ∧ s.pool.received[turn.trip]? = some 0
        ∧ turn.result = .ok aimed :=
    ⟨_, rfl, ⟨_, rfl, rfl, rfl, rfl, rfl⟩, ⟨_, rfl, rfl, rfl⟩, _, _, rfl, rfl, rfl⟩
  have hmem := List.mem_of_getElem? hlate
  have hmem' := List.mem_of_getElem? hlarge
  obtain ⟨-, hbare, -, hsent⟩ := correlated_unless_late hs hmem
  obtain ⟨-, -, hnamed, -⟩ := correlated_unless_late hs hmem'
  have hnone : s.pool.answerOf 0 = none := by simp [Pool.answerOf, hans]
  have hsame := hsent turn (List.mem_of_getElem? hturn) 0 aimed hplace hk ha
  rw [hin] at hsame
  have hanswer : s.answerTo? large = some (respond large.fresh large.inbound (some .tooLarge)) := by
    simp only [answerTo?, hout]
  have hintime : ¬s.IsLate large := by
    rintro ⟨n, hn, -⟩
    simp [hout] at hn
  have hsilent : ¬∃ r, s.RespondedWith large r := by
    rintro ⟨r, n, k, trip, hn, -⟩
    simp [hout] at hn
  refine ⟨s, late, large, _, turn, aimed, hs, hmem, hbare ⟨0, hplace, ?_, Or.inr hnone⟩,
    List.mem_of_getElem? hturn, ha, hsame, hmem', hanswer, ?_⟩
  · simp [habandoned]
  · rw [← hid]
    exact (hnamed hintime _ hanswer).2 hsilent

end Site

end Switchyard.Gateway
