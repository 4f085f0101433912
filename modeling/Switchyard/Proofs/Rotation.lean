import Mathlib.Tactic.SplitIfs
import Switchyard.Dispatch.Sharing

/-!
# Turns on a fixed list

A rotation takes the usable endpoint at the place that its cursor points at (`Rotation.next_eq`),
and moves no other cursor.  A dispatcher with a fixed list of servers that takes turns keeps doing
so whatever use is made of it, and its cursors count the attempts that were prepared
(`Dispatcher.Turning.after`).
-/

namespace Switchyard

namespace Balance

namespace Rotation

theorem cursor_advance (r : Rotation) (j k : String) :
    (r.advance k).cursor j = if j = k then r.cursor j + 1 else r.cursor j := by
  simp only [cursor, advance, Store.find?_set]
  split
  · next h => simp [h]
  · rfl

theorem usableAt_zero {endpoints : List Endpoint} {e : Endpoint} {start : UInt64}
    (he : endpoints[start.toNat % endpoints.length]? = some e) (hu : e.isUsable = true) :
    usableAt endpoints start 0 = some e := by
  have h0 : start + UInt64.ofNat 0 = start := UInt64.add_zero start
  simp only [usableAt, h0, he, hu, ↓reduceIte]

/-- An endpoint that is usable is taken as soon as the cursor points at it. -/
theorem next_eq {r : Rotation} {endpoints : List Endpoint} {hint : String} {e : Endpoint}
    (he : endpoints[(r.cursor (cursorKey endpoints hint)).toNat % endpoints.length]? = some e)
    (hu : e.isUsable = true) :
    r.next endpoints hint = (r.advance (cursorKey endpoints hint), some e) := by
  rcases endpoints with _ | ⟨a, as⟩
  · simp at he
  rw [next, if_neg (by simp)]
  simp only [pick, List.length_cons, List.range_succ_eq_map, List.findSome?_cons] at he ⊢
  rw [usableAt_zero he hu]

theorem cursorKey_of_ne {hint : String} (h : hint ≠ "") (endpoints : List Endpoint) :
    cursorKey endpoints hint = hint := if_neg h

theorem cursorKey_ne {endpoints : List Endpoint} {c d : String} (hd : d ≠ c)
    (hb : c = cursorKey endpoints "" → d ≠ "") : cursorKey endpoints d ≠ c := by
  intro h
  by_cases h0 : d = ""
  · subst h0
    exact hb h.symm rfl
  · exact hd ((cursorKey_of_ne h0 endpoints).symm.trans h)

end Rotation

/-- A name that stands for a rotation selects what the rotation does. -/
theorem Table.select_of_rotation {t : Table} {name c : String} {r s : Rotation}
    {endpoints : List Endpoint} {e : Endpoint}
    (ht : t.balancers[t.placeOf name]? = some (.rotation r))
    (hn : r.next endpoints c = (s, some e)) : t.select name endpoints c
      = ({ t with balancers := t.balancers.set (t.placeOf name) (.rotation s) }, .ok e) := by
  simp only [select, next, ht, Balancer.next, hn]

end Balance

namespace Directory

theorem isUsable_of_mem_fixedEndpoints {servers : String} {e : Endpoint}
    (h : e ∈ fixedEndpoints servers) : e.isUsable = true := by
  obtain ⟨address, -, rfl⟩ := List.mem_map.mp h
  rfl

theorem resolve_of_local {d : Directory} (hk : d.kind = Config.localKind)
    (hs : fixedEndpoints d.servers ≠ []) (contextId : String) :
    d.resolve contextId = (d, [], .ok (fixedEndpoints d.servers)) := by
  rw [resolve, if_neg (by rw [hk]; decide), if_pos hk]
  split
  · next h => exact absurd h hs
  · rfl

/-- A publication leaves the fixed list alone. -/
theorem publish_fixed (d : Directory) (contextId : String) (instances : List Instance) :
    (d.publish contextId instances).1.kind = d.kind
      ∧ (d.publish contextId instances).1.servers = d.servers := by
  have hpush : ∀ (ws : List Unit) (d : Directory),
      (ws.foldl (fun d _ => d.push contextId instances) d).kind = d.kind
        ∧ (ws.foldl (fun d _ => d.push contextId instances) d).servers = d.servers := by
    intro ws
    induction ws with
    | nil => exact fun _ => ⟨rfl, rfl⟩
    | cons _ ws ih => exact fun d => ih (d.push contextId instances)
  unfold publish
  split
  · exact hpush _ _
  · exact ⟨rfl, rfl⟩

end Directory

namespace Dispatch

open Balance (Rotation)
open Http (Request Response)

namespace Dispatcher

/-- A dispatcher with a fixed list of servers that takes turns, with its cursors. -/
structure Turning (endpoints : List Endpoint) (r : Rotation) (d : Dispatcher) : Prop where
  kind : d.directory.kind = Config.localKind
  servers : Directory.fixedEndpoints d.directory.servers = endpoints
  turn : d.balancers.balancers[d.balancers.placeOf d.strategy]? = some (.rotation r)

variable {d : Dispatcher} {endpoints : List Endpoint} {r : Rotation}

/-- An attempt is aimed at the server that the cursor points at, and moves the cursor on. -/
theorem Turning.prepare (h : d.Turning endpoints r) {q : Request} {e : Endpoint}
    (he : endpoints[(r.cursor (Rotation.cursorKey endpoints q.contextId)).toNat
      % endpoints.length]? = some e) :
    (d.prepare q).2 = aim q e
      ∧ (d.prepare q).1.Turning endpoints
        (r.advance (Rotation.cursorKey endpoints q.contextId)) := by
  have hmem : e ∈ endpoints := List.mem_of_getElem? he
  have hres := Directory.resolve_of_local h.kind
    (h.servers ▸ List.ne_nil_of_mem hmem) q.contextId
  rw [h.servers] at hres
  have hsel := Balance.Table.select_of_rotation h.turn (Rotation.next_eq he
    (Directory.isUsable_of_mem_fixedEndpoints (h.servers ▸ hmem)))
  have hlt := (List.getElem?_eq_some_iff.mp h.turn).1
  simp only [Dispatcher.prepare, resolve, hres, hsel]
  exact ⟨trivial, h.kind, h.servers, List.getElem?_set_self hlt⟩

theorem Turning.publish (h : d.Turning endpoints r) (contextId : String)
    (instances : List Instance) : (d.publish contextId instances).Turning endpoints r := by
  obtain ⟨hk, hs⟩ := d.directory.publish_fixed contextId instances
  exact ⟨hk.trans h.kind, hs ▸ h.servers, h.turn⟩

end Dispatcher

/-- Whether a cursor moves by a use, if the servers are on a fixed list. -/
def Use.turns (endpoints : List Endpoint) (key : String) : Use → Bool
  | .prepare q => Rotation.cursorKey endpoints q.contextId == key
  | _ => false

namespace Dispatcher

variable {d : Dispatcher} {endpoints : List Endpoint} {r : Rotation}

theorem Turning.use (h : d.Turning endpoints r) (hne : endpoints ≠ []) (u : Use) :
    ∃ s, (d.use u).Turning endpoints s ∧ ∀ key,
      s.cursor key = r.cursor key + if u.turns endpoints key then 1 else 0 := by
  cases u with
  | prepare q =>
    have hlt : (r.cursor (Rotation.cursorKey endpoints q.contextId)).toNat % endpoints.length
        < endpoints.length := Nat.mod_lt _ (List.length_pos_iff.mpr hne)
    refine ⟨_, (h.prepare (q := q) (List.getElem?_eq_getElem hlt)).2, fun key => ?_⟩
    rw [Rotation.cursor_advance]
    by_cases hk : Rotation.cursorKey endpoints q.contextId = key
    · simp [Use.turns, hk]
    · simp [Use.turns, hk, Ne.symm hk]
  | retry | finish =>
    exact ⟨r, ⟨h.kind, h.servers, h.turn⟩, fun key => by simp [Use.turns]⟩
  | publish contextId instances =>
    exact ⟨r, h.publish contextId instances, fun key => by simp [Use.turns]⟩

/-- Each cursor counts the uses that move it. -/
theorem Turning.after (hne : endpoints ≠ []) : ∀ (us : List Use) {d : Dispatcher} {r : Rotation},
    d.Turning endpoints r → ∃ s, (d.after us).Turning endpoints s ∧ ∀ key,
      s.cursor key = r.cursor key + UInt64.ofNat (us.countP (Use.turns endpoints key))
  | [], _, r, h => ⟨r, h, fun key => (UInt64.add_zero _).symm⟩
  | u :: us, _, _, h => by
    obtain ⟨s, hs, hc⟩ := h.use hne u
    obtain ⟨t, ht, hd⟩ := Turning.after hne us hs
    refine ⟨t, ht, fun key => ?_⟩
    rw [hd, hc, List.countP_cons, UInt64.add_assoc]
    congr 1
    by_cases hk : u.turns endpoints key = true
    · simp [hk, UInt64.add_comm]
    · simp [hk]

end Dispatcher

end Dispatch

end Switchyard
