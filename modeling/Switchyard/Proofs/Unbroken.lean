import Switchyard.Proofs.Attempts
import Switchyard.Proofs.TrafficStep
import Switchyard.Rehearsal.Stage

/-!
# Executions in one piece are traffic

An execution whose surroundings do to the dispatcher what it asks of them, and beside that publish
while the transport is at work, is a run of traffic to the same dispatcher, with the same ending
and the same calls of the transport (`Traffic.run_of_execute`).  Rehearsed executions are of this
kind, so what holds of all traffic holds of them (`Stage.run_of_execute`).
-/

namespace Switchyard

namespace Dispatch

open Http (Request)

/-- The dispatcher after some publications. -/
def Dispatcher.publishAll (d : Dispatcher) (ps : List (String × List Instance)) : Dispatcher :=
  ps.foldl (fun d p => d.publish p.1 p.2) d

/-- Surroundings that have a dispatcher to themselves and keep a list of what they sent. -/
structure Surroundings.Plays {σ : Type} (e : Surroundings σ) (view : σ → Dispatcher)
    (sent : σ → List Request) : Prop where
  prepare : ∀ r s, view (e.prepare r s).1 = ((view s).prepare r).1
    ∧ (e.prepare r s).2 = ((view s).prepare r).2 ∧ sent (e.prepare r s).1 = sent s
  send : ∀ aimed s, (∃ ps, view (e.send aimed s).1 = (view s).publishAll ps)
    ∧ sent (e.send aimed s).1 = sent s ++ [aimed]
  wait : ∀ r delay s, view (e.wait r delay s) = (view s).countRetry r
    ∧ sent (e.wait r delay s) = sent s
  finish : ∀ r result s, view (e.finish r result s) = (view s).countResult r result
    ∧ sent (e.finish r result s) = sent s

namespace Traffic

variable {u : Traffic} {i : Nat} {c : Call} {d : Dispatcher}

theorem run_trans {s t v : Traffic} {es es' : List Event} (h : s.run es = some t)
    (h' : t.run es' = some v) : s.run (es ++ es') = some v := by
  rw [run_append, h, Option.bind_some, h']

theorem happen_of_after {trip : Trip} {h : Happening} {x : Execution}
    (hi : u.trips[i]? = some trip) (hx : trip.progress.after h = some x) :
    u.happen i h
      = some ⟨u.dispatcher.note trip.request x, u.trips.set i ⟨trip.request, none, x⟩,
        u.turns⟩ := by
  simp only [happen, hi, hx, Option.map_some]

theorem run_publishAll (u : Traffic) (ps : List (String × List Instance)) :
    u.run (ps.map fun p => .publish p.1 p.2)
      = some { u with dispatcher := u.dispatcher.publishAll ps } := by
  induction ps generalizing u with
  | nil => rfl
  | cons p ps ih => exact ih { u with dispatcher := u.dispatcher.publish p.1 p.2 }

/-- With nothing in between, a trip resolves its cluster and chooses as an attempt is prepared. -/
theorem run_prepare {r : Request} {result : Except Error Request}
    (hi : u.trips[i]? = some ⟨r, none, .preparing c⟩)
    (hp : u.dispatcher.prepare c.request = (d, result)) :
    ∃ es turns x, (Execution.preparing c).after (.prepared result) = some x
      ∧ sentBy turns = result.toOption.toList
      ∧ u.run es = some ⟨d.note r x, u.trips.set i ⟨r, none, x⟩, u.turns ++ turns⟩ := by
  obtain ⟨x, hx⟩ : ∃ x, (Execution.preparing c).after (.prepared result) = some x := by
    cases result <;> exact ⟨_, rfl⟩
  rw [Dispatcher.prepare_eq] at hp
  rcases hr : u.dispatcher.resolve c.request.contextId with ⟨d₁, err | endpoints⟩
  · rw [hr] at hp
    cases hp
    have hstep : u.step (.resolve i)
        = some ⟨d.note r x, u.trips.set i ⟨r, none, x⟩, u.turns⟩ := by
      simp only [step, hi, hr]
      exact happen_of_after (u := { u with dispatcher := d }) hi hx
    refine ⟨[.resolve i], [], x, hx, rfl, ?_⟩
    rw [run, hstep, List.append_nil]
    rfl
  · rw [hr] at hp
    have hstep : u.step (.resolve i)
        = some ⟨d₁, u.trips.set i ⟨r, some endpoints, .preparing c⟩, u.turns⟩ := by
      simp only [step, hi, hr]
    have hi' : (u.trips.set i ⟨r, some endpoints, .preparing c⟩)[i]?
        = some ⟨r, some endpoints, .preparing c⟩ :=
      List.getElem?_set_self (List.getElem?_eq_some_iff.mp hi).1
    have hchoose : (⟨d₁, u.trips.set i ⟨r, some endpoints, .preparing c⟩, u.turns⟩ : Traffic).step
        (.choose i) = some ⟨d.note r x, u.trips.set i ⟨r, none, x⟩,
          u.turns ++ [⟨i, c.request, endpoints, result⟩]⟩ := by
      simp only [step, hi', hp]
      rw [happen_of_after hi' hx, List.set_set]
    refine ⟨[.resolve i, .choose i], [⟨i, c.request, endpoints, result⟩], x, hx, ?_, ?_⟩
    · cases result <;> rfl
    · rw [run, hstep, Option.bind_some, run, hchoose]
      rfl

theorem run_happen {es : List Event} {turns : List Turn} {e : Event} {h : Happening} {r : Request}
    {x y : Execution} (he : ∀ s : Traffic, s.step e = s.happen i h) (hi : i < u.trips.length)
    (hrun : u.run es = some ⟨d, u.trips.set i ⟨r, none, x⟩, turns⟩) (hx : x.after h = some y) :
    u.run (es ++ [e]) = some ⟨d.note r y, u.trips.set i ⟨r, none, y⟩, turns⟩ := by
  have hi' : (u.trips.set i ⟨r, none, x⟩)[i]? = some ⟨r, none, x⟩ := List.getElem?_set_self hi
  refine run_trans hrun ?_
  rw [run, he, happen_of_after hi' hx, List.set_set]
  rfl

variable {σ : Type} {e : Surroundings σ} {view : σ → Dispatcher} {sent : σ → List Request}

/-- The attempts of a trip, from its call on. -/
theorem run_of_attempts (h : e.Plays view sent) (c : Call) (s : σ) (u : Traffic)
    (hu : u.dispatcher = view s) (hi : u.trips[i]? = some ⟨c.request, none, .preparing c⟩) :
    ∃ es turns, sent (attempts e c s).1 = sent s ++ sentBy turns
      ∧ u.run es = some ⟨(view (attempts e c s).1).note c.request (.ended (attempts e c s).2),
        u.trips.set i ⟨c.request, none, .ended (attempts e c s).2⟩, u.turns ++ turns⟩ := by
  obtain ⟨hview, hresult, hsent⟩ := h.prepare c.request s
  rw [← hu] at hview hresult
  obtain ⟨es, turns, x, hx, hturns, hrun⟩ := run_prepare hi (Prod.ext hview.symm hresult.symm)
  rcases hp : e.prepare c.request s with ⟨s₁, err | aimed⟩ <;>
    simp only [hp] at hview hresult hsent hx hturns hrun <;> cases hx
  · rw [attempts_of_unprepared hp]
    exact ⟨es, turns, by rw [hsent, hturns]; simp [Except.toOption], hrun⟩
  obtain ⟨⟨ps, hps⟩, hsends⟩ := h.send aimed s₁
  rcases hs : e.send aimed s₁ with ⟨s₂, reply⟩
  simp only [hs] at hps hsends
  have hlt := (List.getElem?_eq_some_iff.mp hi).1
  have hsent₂ : sent s₂ = sent s ++ sentBy turns := by
    rw [hsends, hsent, hturns]
    rfl
  have hrun₂ : u.run (es ++ ps.map fun p => .publish p.1 p.2) = some ⟨view s₂,
      u.trips.set i ⟨c.request, none, .sending c aimed⟩, u.turns ++ turns⟩ := by
    refine run_trans hrun ?_
    rw [run_publishAll, hps]
    rfl
  have hreplied := fun y => run_happen (e := .reply i reply (e.draw s₂) (e.now s₂)) (y := y)
    (fun _ => rfl) hlt hrun₂
  -- only a failure that may be tried again leads to another attempt, and to the recursion
  rcases reply with response | f | _
  · rw [attempts_of_response hp hs]
    exact ⟨_, turns, hsent₂, hreplied _ rfl⟩
  · rcases ha : c.afterFailure (e.draw s₂) (e.now s₂) f with err | next
    · rw [attempts_of_spent hp hs ha]
      refine ⟨_, turns, hsent₂, hreplied _ ?_⟩
      simp only [Execution.after, Execution.afterFailure, ha]
    · have hnext : next.request = c.request := Call.request_of_afterFailure ha
      obtain ⟨hwait, hwaits⟩ := h.wait c.request next.retries.delay s₂
      have hrested := run_happen (e := .rest i) (fun _ => rfl) hlt
        (hreplied (.resting next) (by simp only [Execution.after, Execution.afterFailure, ha])) rfl
      obtain ⟨es', turns', hsent', hrun'⟩ := run_of_attempts h next
        (e.wait c.request next.retries.delay s₂)
        ⟨_, u.trips.set i ⟨c.request, none, .preparing next⟩, u.turns ++ turns⟩ rfl
        (by rw [hnext]; exact List.getElem?_set_self hlt)
      rw [hwait, hnext, List.set_set, List.append_assoc] at hrun'
      rw [attempts_of_retry hp hs ha, hnext]
      refine ⟨_, turns ++ turns', ?_, run_trans hrested hrun'⟩
      rw [hsent', hwaits, hsent₂, List.append_assoc, sentBy, sentBy, sentBy,
        List.filterMap_append]
  · rw [attempts_of_crash hp hs]
    exact ⟨_, turns, hsent₂, hreplied _ rfl⟩
termination_by c.retries.left
decreasing_by exact Call.left_afterFailure ha

theorem run_of_execute (h : e.Plays view sent) (s : σ) (r : Request) (hu : u.dispatcher = view s) :
    ∃ es turns, sent (execute e u.dispatcher.policy r s).1 = sent s ++ sentBy turns
      ∧ u.run es = some ⟨view (execute e u.dispatcher.policy r s).1,
        u.trips ++ [⟨r, none, .ended (execute e u.dispatcher.policy r s).2⟩],
        u.turns ++ turns⟩ := by
  obtain ⟨c, hc⟩ : ∃ c, c = Call.start u.dispatcher.policy r (e.now s) := ⟨_, rfl⟩
  have hcr : c.request = r := by rw [hc]; rfl
  obtain ⟨es, turns, hsent, hrun⟩ := run_of_attempts h c s
    ⟨u.dispatcher, u.trips ++ [⟨r, none, .preparing c⟩], u.turns⟩ hu
    (by rw [hcr]; exact List.getElem?_concat_length)
  have hset : ∀ a b : Trip, (u.trips ++ [a]).set u.trips.length b = u.trips ++ [b] := by simp
  refine ⟨.arrive r (e.now s) :: es, turns, ?_, ?_⟩
  · unfold execute
    rw [← hc]
    rcases ha : attempts e c s with ⟨t, result | _⟩ <;> rw [ha] at hsent
    · exact (h.finish r result t).2.trans hsent
    · exact hsent
  · rw [run, step, Option.bind_some, ← hc]
    rw [hcr, hset] at hrun
    refine hrun.trans ?_
    unfold execute
    rw [← hc]
    rcases ha : attempts e c s with ⟨t, result | _⟩
    · dsimp only
      rw [(h.finish r result t).1]
      rfl
    · rfl

end Traffic

end Dispatch

namespace Rehearsal

open Dispatch (Traffic)
open Http (Request)

namespace Stage

/-- The requests that the transport got, in order. -/
def sent (s : Stage) : List Request := (s.calls.map LoggedCall.request).reverse

theorem calls_publish (s : Stage) (c : String) (is : List Instance) :
    (s.publish c is).calls = s.calls := by
  unfold publish
  split <;> rfl

theorem calls_send (aimed : Request) (s : Stage) :
    (send aimed s).1.calls = ⟨aimed, s.clock⟩ :: s.calls := by
  simp only [send]
  split
  · exact calls_publish _ _ _
  · rfl

theorem plays : surroundings.Plays Stage.dispatcher sent where
  prepare _ _ := ⟨rfl, rfl, rfl⟩
  wait _ _ _ := ⟨rfl, rfl⟩
  finish _ _ _ := ⟨rfl, rfl⟩
  send aimed s := by
    have hsent : sent (send aimed s).1 = sent s ++ [aimed] := by
      simp [sent, calls_send]
    refine ⟨?_, hsent⟩
    cases hp : (s.script.headD {}).publish with
    | none => exact ⟨[], by simp only [surroundings, send, hp]; rfl⟩
    | some p =>
      cases hs : s.publishes with
      | false => exact ⟨[], by simp only [surroundings, send, publish, hp, hs]; rfl⟩
      | true => exact ⟨[p], by simp only [surroundings, send, publish, hp, hs]; rfl⟩

/-- A rehearsed execution is a run of traffic on the same dispatcher, with the same calls. -/
theorem run_of_execute (s : Stage) (r : Request) {u : Traffic}
    (hu : u.dispatcher = s.dispatcher) : ∃ es turns,
      (s.execute r).2.1.map LoggedCall.request = Dispatch.sentBy turns
      ∧ u.run es = some ⟨(s.execute r).1.dispatcher,
        u.trips ++ [⟨r, none, .ended (s.execute r).2.2⟩], u.turns ++ turns⟩ := by
  obtain ⟨es, turns, hsent, hrun⟩ :=
    Traffic.run_of_execute plays { s with calls := [] } r (u := u) hu
  rw [hu] at hsent hrun
  refine ⟨es, turns, ?_, hrun⟩
  rw [← List.nil_append (Dispatch.sentBy turns), execute, List.map_reverse]
  exact hsent

end Stage

end Rehearsal

end Switchyard
