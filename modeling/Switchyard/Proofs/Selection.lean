import Switchyard.Proofs.DirectoryStep
import Switchyard.Proofs.Rotation
import Switchyard.Proofs.TrafficStep

/-!
# Directory and rotation in traffic

The directory of a dispatcher changes when it resolves a cluster and when a list is published, and
at nothing else (`Traffic.Step.directory_keeps`).  Where a rotation selects for a dispatcher, it
goes on doing so, and its cursors are moved by the turns of the trips and by nothing else
(`Traffic.Goes.rotation?_eq`).  A request is aimed at one of the endpoints that were offered to it
(`Dispatcher.choose_of_rotation`).  The errors of the two steps of an attempt have no kind in common
(`Dispatcher.error_of_resolve`, `Dispatcher.error_of_choose`).
-/

namespace Switchyard

namespace Balance

theorem Rotation.mem_of_next {r : Rotation} {endpoints : List Endpoint} {hint : String}
    {e : Endpoint} (h : (r.next endpoints hint).2 = some e) : e ∈ endpoints := by
  unfold next at h
  split_ifs at h
  obtain ⟨i, -, hi⟩ := List.exists_of_findSome?_eq_some h
  unfold usableAt at hi
  split at hi
  · rename_i f hf
    split_ifs at hi
    exact Option.some.inj hi ▸ List.mem_of_getElem? hf
  · cases hi

/-- The rotation that answers for a name, if one does. -/
def Table.rotation? (t : Table) (name : String) : Option Rotation :=
  match t.balancers[t.placeOf name]? with
  | some (.rotation r) => some r
  | _ => none

variable {t : Table} {name : String} {r : Rotation}

theorem Table.rotation?_eq_some :
    t.rotation? name = some r ↔ t.balancers[t.placeOf name]? = some (.rotation r) := by
  unfold rotation?
  split
  · rename_i s hs
    rw [hs, Option.some.injEq, Option.some.injEq, Balancer.rotation.injEq]
  · rename_i hs
    constructor
    · intro h
      cases h
    · intro h
      exact absurd h (hs r)

theorem Table.select_of_rotation? (h : t.rotation? name = some r) (endpoints : List Endpoint)
    (c : String) : (t.select name endpoints c).1.rotation? name = some (r.next endpoints c).1
      ∧ (t.select name endpoints c).2 = match (r.next endpoints c).2 with
        | some e => .ok e
        | none => .error (.noAvailableEndpoint c) := by
  rw [rotation?_eq_some] at h ⊢
  have hlt := (List.getElem?_eq_some_iff.mp h).1
  have hn : t.next name endpoints c
      = ({ t with balancers := t.balancers.set (t.placeOf name) (.rotation (r.next endpoints c).1) },
        (r.next endpoints c).2) := by
    dsimp only [next]
    split
    · rename_i hnone
      rw [h] at hnone
      cases hnone
    · rename_i b hb
      rw [h, Option.some.injEq] at hb
      subst hb
      rfl
  unfold select
  rw [hn]
  exact ⟨List.getElem?_set_self hlt, rfl⟩

end Balance

namespace Dispatch

open Balance (Rotation)
open Http (Request)

namespace Dispatcher

/-- The rotation that selects, if one does. -/
def rotation? (d : Dispatcher) : Option Rotation := d.balancers.rotation? d.strategy

variable {d : Dispatcher} {r : Request} {endpoints : List Endpoint}

theorem resolves {e : Dispatcher} {c : String} {result : Except Error (List Endpoint)}
    (h : d.resolve c = (e, result)) : Directory.Resolves d.directory c e.directory result := by
  have hd := d.directory.resolves c
  have he : (d.resolve c).1.directory = e.directory := by rw [h]
  have hr : (d.resolve c).2 = result := by rw [h]
  rw [← he, ← hr]
  exact hd

/-- What goes wrong when endpoints are resolved. -/
theorem error_of_resolve {e : Dispatcher} {c : String} {error : Error}
    (h : d.resolve c = (e, .error error)) :
    (∃ reason, error = .configuration reason) ∨ error = .topologyNotFound c := by
  have hresolves := Dispatcher.resolves h
  generalize e.directory = d' at hresolves
  cases hresolves with
  | noKind | noServers | noRegister => exact .inl ⟨_, rfl⟩
  | unknown => exact .inr rfl

theorem choose_snd (d : Dispatcher) (r : Request) (endpoints : List Endpoint) :
    (d.choose r endpoints).2
      = (d.balancers.select d.strategy endpoints r.contextId).2 >>= aim r := by
  unfold choose
  split
  · rename_i hs
    rw [hs]
    rfl
  · rename_i hs
    rw [hs]
    rfl

theorem choose_keeps (d : Dispatcher) (r : Request) (endpoints : List Endpoint) :
    (d.choose r endpoints).1.directory = d.directory := by
  unfold choose
  split <;> rfl

theorem note_keeps (d : Dispatcher) (r : Request) (x : Execution) :
    (d.note r x).directory = d.directory ∧ (d.note r x).rotation? = d.rotation? := by
  unfold note
  split <;> exact ⟨rfl, rfl⟩

theorem choose_of_rotation {rotation : Rotation} (h : d.rotation? = some rotation) :
    (d.choose r endpoints).1.rotation? = some (rotation.next endpoints r.contextId).1
      ∧ ∀ aimed, (d.choose r endpoints).2 = .ok aimed →
        ∃ e ∈ endpoints, aim r e = .ok aimed := by
  obtain ⟨hrot, hres⟩ := Balance.Table.select_of_rotation? h endpoints r.contextId
  unfold choose
  split
  · rename_i balancers error hs
    rw [hs] at hrot
    exact ⟨hrot, fun aimed ha => by cases ha⟩
  · rename_i balancers e hs
    rw [hs] at hrot hres
    refine ⟨hrot, fun aimed ha => ⟨e, ?_, ha⟩⟩
    split at hres
    · rename_i f hf
      cases hres
      exact Rotation.mem_of_next hf
    · cases hres

/-- Nothing but a selection that comes to nothing is wrong with a selection. -/
theorem select_eq_error {d : Dispatcher} {endpoints : List Endpoint} {c : String} {e : Error}
    (h : (d.balancers.select d.strategy endpoints c).2 = .error e) :
    e = .noAvailableEndpoint c := by
  unfold Balance.Table.select at h
  dsimp only at h
  split at h <;> cases h
  rfl

/-- What goes wrong once the endpoints are resolved. -/
theorem error_of_choose {error : Error} (h : (d.choose r endpoints).2 = .error error) :
    error = .noAvailableEndpoint r.contextId ∨ ∃ reason, error = .invalidUrl r.url reason := by
  rw [choose_snd] at h
  cases hs : (d.balancers.select d.strategy endpoints r.contextId).2 with
  | error e =>
    rw [hs] at h
    cases h
    exact .inl (select_eq_error hs)
  | ok endpoint =>
    rw [hs] at h
    unfold aim at h
    dsimp only [bind, Except.bind] at h
    split at h <;> cases h
    exact .inr ⟨_, rfl⟩

theorem choose_ne_configuration {reason : String} :
    (d.choose r endpoints).2 ≠ .error (.configuration reason) := by
  intro h
  obtain h | ⟨_, h⟩ := error_of_choose h <;> cases h

end Dispatcher

/-- The rotation after a turn. -/
def Turn.move (rotation : Rotation) (turn : Turn) : Rotation :=
  (rotation.next turn.offered turn.request.contextId).1

namespace Traffic

variable {e : Event} {d d' : Dispatcher} {i : Nat} {a b : Trip} {turns : List Turn}

theorem Goes.directory_cases (h : Goes d i e a b d' turns) : d'.directory = d.directory
    ∨ ∃ c result, Directory.Resolves d.directory c d'.directory result := by
  cases h with
  | resolve h => exact Or.inr ⟨_, _, Dispatcher.resolves h⟩
  | unresolved h =>
    have hr := Dispatcher.resolves h
    exact Or.inr ⟨_, _, hr⟩
  | aim h =>
    left
    rw [← Dispatcher.choose_keeps d, h]
  | unaimed h =>
    left
    rw [← Dispatcher.choose_keeps d, h]
    rfl
  | reply | rest => exact Or.inl (Dispatcher.note_keeps _ _ _).1

/-- What resolving and publishing keep of a directory is kept in traffic. -/
theorem Step.directory_keeps {P : Directory → Prop}
    (resolve : ∀ {d d' : Directory} {c : String} {result : Except Error (List Endpoint)},
      P d → Directory.Resolves d c d' result → P d')
    (publish : ∀ {d : Directory} (c : String) (is : List Instance), P d → P (d.publish c is).1)
    {s t : Traffic} (h : Step s e t) (hs : P s.dispatcher.directory) :
    P t.dispatcher.directory := by
  cases h with
  | arrive => exact hs
  | publish c is => exact publish c is hs
  | goOn hi hg =>
    rcases hg.directory_cases with hd | ⟨c, result, hr⟩
    · exact hd ▸ hs
    · exact resolve hs hr

theorem Goes.rotation?_eq (h : Goes d i e a b d' turns) {rotation : Rotation}
    (hr : d.rotation? = some rotation) :
    d'.rotation? = some (turns.foldl Turn.move rotation) := by
  cases h with
  | resolve h =>
    have hd := congrArg (fun x => x.1.rotation?) h
    exact hd.symm.trans hr
  | unresolved h =>
    have hd := congrArg (fun x => x.1.rotation?) h
    exact hd.symm.trans hr
  | aim h =>
    have hd := congrArg (fun x => x.1.rotation?) h
    exact hd.symm.trans (Dispatcher.choose_of_rotation hr).1
  | unaimed h =>
    have hd := congrArg (fun x => x.1.rotation?) h
    exact hd.symm.trans (Dispatcher.choose_of_rotation hr).1
  | reply | rest => exact (Dispatcher.note_keeps _ _ _).2.trans hr

theorem Step.rotation?_eq {s t : Traffic} (h : Step s e t) {rotation : Rotation}
    (hr : s.dispatcher.rotation? = some (s.turns.foldl Turn.move rotation)) :
    t.dispatcher.rotation? = some (t.turns.foldl Turn.move rotation) := by
  cases h with
  | arrive | publish => exact hr
  | goOn hi hg => rw [hg.rotation?_eq hr, List.foldl_append]

end Traffic

end Dispatch

end Switchyard
