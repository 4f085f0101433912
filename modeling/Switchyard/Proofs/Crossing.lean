import Switchyard.Proofs.Transparency
import Switchyard.Text.Split

/-!
# Headers for one connection

Some headers are meant for the next hop alone: eight that are so in every message, and those that
the message itself lists under `connection` (`IsHopByHop`).  The gateway keeps back those of its
own list (`connectionHeaders`), which is not the same: it lacks `proxy-authenticate`, and it does
not depend on the message.  `Site.hop_headers_cross_iff` says which of them cross, either way.
-/

namespace Switchyard.Gateway

open Dispatch (Dispatcher Traffic Turn)
open Http (Headers Request Response)
open Queue (Submission)

/-- The headers that are for the next hop in every message. -/
def standardHop : List String :=
  ["connection", "keep-alive", "proxy-authenticate", "proxy-authorization", "te", "trailer",
    "transfer-encoding", "upgrade"]

/-- The names in a list of tokens between commas, blanks around them aside, in lower case. -/
def tokens (value : List UInt8) : List String :=
  let texts := (fields ',' (value.map fun b => Char.ofNat b.toNat)).map
    (trimBoth fun c => c == ' ' || c == '\t')
  (texts.filter (!·.isEmpty)).map fun cs => String.ofList (cs.map Char.toLower)

/-- The names that a message lists as those of headers for the next hop, in all of its values. -/
def nominated (hs : Headers) : List String := (Headers.values "connection" hs).flatMap tokens

/-- Headers of that name are for the next hop alone in a message with these headers. -/
def IsHopByHop (hs : Headers) (name : String) : Prop := name ∈ standardHop ∨ name ∈ nominated hs

/-- A header of that name is on the other side. -/
def Crosses (name : String) (here there : Headers) : Prop :=
  ∃ value ∈ Headers.values name here, value ∈ Headers.values name there

theorem crosses_iff {name : String} {here there : Headers} {kept : List String}
    (h : Headers.values name here ≠ [] → Headers.values name there
      = if name ∈ kept then [] else Headers.values name here) :
    Crosses name here there ↔ Headers.values name here ≠ [] ∧ name ∉ kept := by
  constructor
  · rintro ⟨value, hhere, hthere⟩
    have hne := List.ne_nil_of_mem hhere
    refine ⟨hne, fun hk => ?_⟩
    rw [h hne, if_pos hk] at hthere
    cases hthere
  · rintro ⟨hne, hk⟩
    obtain ⟨value, hvalue⟩ := List.exists_mem_of_ne_nil _ hne
    exact ⟨value, hvalue, by rw [h hne, if_neg hk]; exact hvalue⟩

/-- Of the standard names all but one are kept back, whatever else is. -/
theorem IsHopByHop.not_mem_iff {hs : Headers} {name : String} {kept : List String}
    (h : IsHopByHop hs name)
    (hkept : ∀ name ∈ standardHop, name ∈ kept ↔ name ≠ "proxy-authenticate") :
    name ∉ kept ↔ name = "proxy-authenticate" ∨ name ∈ nominated hs ∧ name ∉ kept := by
  constructor
  · intro hk
    rcases h with hstd | hnom
    · exact Or.inl (not_not.mp fun hne => hk ((hkept name hstd).mpr hne))
    · exact Or.inr ⟨hnom, hk⟩
  · rintro (rfl | ⟨-, hk⟩)
    · exact fun hk => (hkept _ (by decide)).mp hk rfl
    · exact hk

namespace Site

variable {s : Site} {g : Front} {capacity workers : Nat} {signal : Signal} {d : Dispatcher}
  {es : List Event}

/-- Which headers for the next hop cross a gateway, in any run and for any request that was let in.
To the transport, at each attempt, those cross that are there and are either `proxy-authenticate`
or listed by the request without being among the names that are always kept back; and so it is with
the response to the client. -/
theorem hop_headers_cross_iff (h : (start g capacity workers signal d).run es = some s) {v : Visit}
    {n : Nat} (hv : v ∈ s.visits) (hn : v.number? = some n) :
    (∀ turn ∈ s.traffic.turns, ∀ aimed : Request, s.pool.received[turn.trip]? = some n →
      turn.result = .ok aimed → ∀ name, IsHopByHop v.received.headers name →
      (Crosses name v.received.headers aimed.headers ↔
        Headers.values name v.received.headers ≠ [] ∧ (name = "proxy-authenticate"
          ∨ name ∈ nominated v.received.headers ∧ name ∉ keptBack)))
    ∧ ∀ r answer : Response, s.pool.answerOf n = some (.result (.ok r)) → n ∉ s.pool.unread →
      s.answerTo? v = some answer → ∀ name, IsHopByHop r.headers name →
      (Crosses name r.headers answer.headers ↔
        Headers.values name r.headers ≠ [] ∧ (name = "proxy-authenticate"
          ∨ name ∈ nominated r.headers ∧ name ∉ connectionHeaders)) := by
  constructor
  · intro turn hturn aimed hk ha name hname
    rw [← hname.not_mem_iff (by decide)]
    refine crosses_iff fun _ => ?_
    obtain ⟨x, hx, hreq⟩ := request_of_turn h hv hn hturn hk
    obtain ⟨j, hj⟩ := List.mem_iff_getElem?.mp hturn
    obtain ⟨-, -, -, server, -, -, -, -, haim⟩ := sent_moment h hj ha
    exact headers_of_aim hx (hreq ▸ haim) name
  · intro r answer ha hunread hanswer name hname
    rw [← hname.not_mem_iff (by decide)]
    refine crosses_iff fun hne => ?_
    simp only [answerTo?, Visit.number?_eq_some_iff.mp hn, ha, if_neg hunread,
      Option.some.injEq] at hanswer
    have hreturned := hanswer ▸ returned_respond v.fresh v.inbound r
    by_cases hid : name = requestIdHeader
    · subst hid
      rw [hreturned.id, if_neg hne, if_neg (by decide)]
    · exact hreturned.headers name hid

/-- A request and a response that list a header for the next hop, the request also with a standard
one that is not known of and one that is. -/
def listed : List Event :=
  [.arrive ⟨"GET", some "/", [⟨"connection", [99, 108, 111, 115, 101, 44, 32, 88, 45, 72]⟩,
      ⟨"x-h", [1]⟩, ⟨"proxy-authenticate", [2]⟩, ⟨"te", [3]⟩], []⟩ [4],
    .receive 0 .zero, .travel (.resolve 0), .travel (.choose 0),
    .travel (.reply 0 (.response ⟨200, [⟨"connection", [121]⟩, ⟨"y", [5]⟩], []⟩) 0 .zero),
    .reply 0]

theorem hop_headers_cross_listed : ∃ s v turn aimed r answer,
    (start ⟨some "c", 8⟩ 1 1 .make
      (.make { register := { kind := "local", servers := "s" } } none [])).run listed = some s
    ∧ s.visits = [v] ∧ s.traffic.turns = [turn] ∧ turn.result = .ok aimed
    ∧ Crosses "x-h" v.received.headers aimed.headers
    ∧ Crosses "proxy-authenticate" v.received.headers aimed.headers
    ∧ ¬Crosses "te" v.received.headers aimed.headers
    ∧ s.pool.answerOf 0 = some (.result (.ok r)) ∧ s.answerTo? v = some answer
    ∧ Crosses "y" r.headers answer.headers := by
  obtain ⟨s, v, turn, aimed, r, answer, hs, hvisits, hturns, hn, hk, ha, hhop, hauth, hte, hnom,
      hresult, hunread, hanswer, hy, hynom⟩ : ∃ s v turn aimed r answer,
      (start ⟨some "c", 8⟩ 1 1 .make
        (.make { register := { kind := "local", servers := "s" } } none [])).run listed = some s
      ∧ s.visits = [v] ∧ s.traffic.turns = [turn] ∧ v.number? = some 0
      ∧ s.pool.received[turn.trip]? = some 0 ∧ turn.result = .ok aimed
      ∧ Headers.values "x-h" v.received.headers = [[1]]
      ∧ Headers.values "proxy-authenticate" v.received.headers = [[2]]
      ∧ Headers.values "te" v.received.headers = [[3]]
      ∧ nominated v.received.headers = ["close", "x-h"]
      ∧ s.pool.answerOf 0 = some (.result (.ok r)) ∧ s.pool.unread = []
      ∧ s.answerTo? v = some answer
      ∧ Headers.values "y" r.headers = [[5]] ∧ nominated r.headers = ["y"] :=
    ⟨_, _, _, _, _, _, rfl, rfl, rfl, rfl, rfl, rfl, rfl, rfl, rfl, rfl, rfl, rfl, rfl, rfl, rfl⟩
  have hv : v ∈ s.visits := hvisits ▸ List.mem_singleton_self v
  obtain ⟨hout, hback⟩ := hop_headers_cross_iff hs hv hn
  have hout := hout turn (hturns ▸ List.mem_singleton_self turn) aimed hk ha
  have hback := hback r answer hresult (by rw [hunread]; exact List.not_mem_nil) hanswer
  refine ⟨s, v, turn, aimed, r, answer, hs, hvisits, hturns, ha, ?_, ?_, fun hc => ?_, hresult,
    hanswer, ?_⟩
  · refine (hout "x-h" (.inr (by rw [hnom]; decide))).mpr ⟨by rw [hhop]; decide, .inr ?_⟩
    exact ⟨by rw [hnom]; decide, by decide⟩
  · exact (hout _ (.inl (by decide))).mpr ⟨by rw [hauth]; decide, .inl rfl⟩
  · have hnot := ((hout "te" (.inl (by decide))).mp hc).2
    rw [hnom] at hnot
    revert hnot
    decide
  · refine (hback "y" (.inr (by rw [hynom]; decide))).mpr ⟨by rw [hy]; decide, .inr ?_⟩
    exact ⟨by rw [hynom]; decide, by decide⟩

end Site

end Switchyard.Gateway
