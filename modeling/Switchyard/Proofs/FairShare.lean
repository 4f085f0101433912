import Mathlib.Data.List.Perm.Basic
import Mathlib.Data.List.Rotate
import Switchyard.Proofs.Lap

/-!
# Shares of usable endpoints

As long as no lap goes past the largest word, a selection takes the first usable place from the
one that its cursor points at (`Rotation.place_eq_firstFrom`).  So the place behind a run of
unusable ones is taken once for each of them as well, and as many calls as there are usable
endpoints select each of these once only if all that the cursors of the calls but the last point
at are usable (`Rotation.shares_fairly_iff`).
-/

namespace Switchyard.Balance

/-- Past a head that is not looked for, a search may as well begin one place further on. -/
theorem find?_rotate_one {α : Type} {xs : List α} {u : α → Bool} {x : α}
    (hx : xs.head? = some x) (hu : u x = false) : (xs.rotate 1).find? u = xs.find? u := by
  obtain ⟨rest, rfl⟩ := List.head?_eq_some_iff.mp hx
  rw [List.rotate_cons_succ, List.rotate_zero, List.find?_append, List.find?_cons, hu]
  simp [hu]

namespace Rotation

variable {endpoints : List Endpoint} {start : UInt64}

theorem lap_eq_rotate {n : Nat} (h : start.toNat + n ≤ 2 ^ 64) :
    lap n start = (List.range n).rotate start.toNat := by
  refine List.ext_getElem (by simp [lap]) fun i hi _ => ?_
  have hin : i < n := by simpa [lap] using hi
  simp only [lap, List.getElem_map, List.getElem_range, List.getElem_rotate, List.length_range]
  rw [toNat_add_ofNat (by omega), Nat.add_comm]

/-- The first usable place in a rotation of all places. -/
def firstFrom (endpoints : List Endpoint) (m : Nat) : Option Nat :=
  ((List.range endpoints.length).rotate m).find? (isUsableAt endpoints)

theorem place_eq_firstFrom (h : start.toNat + endpoints.length ≤ 2 ^ 64) :
    place endpoints start = firstFrom endpoints start.toNat := by
  rw [place, lap_eq_rotate h, firstFrom]

theorem head?_rotate {n : Nat} (hn : 0 < n) (m : Nat) :
    ((List.range n).rotate m).head? = some (m % n) := by
  rw [← List.rotate_mod, List.length_range, List.head?_rotate (by simpa using Nat.mod_lt m hn),
    List.getElem?_range (Nat.mod_lt m hn)]

theorem firstFrom_eq_some {p : Nat} (h : isUsableAt endpoints p = true) (m : Nat) :
    ∃ q, firstFrom endpoints m = some q := by
  rw [← Option.isSome_iff_exists, firstFrom, List.find?_isSome]
  exact ⟨p, List.mem_rotate.mpr (List.mem_range.mpr (isUsableAt_lt h)), h⟩

theorem firstFrom_of_usable {m : Nat} (h : isUsableAt endpoints (m % endpoints.length) = true) :
    firstFrom endpoints m = some (m % endpoints.length) := by
  have hpos : 0 < endpoints.length := Nat.zero_lt_of_lt (isUsableAt_lt h)
  exact find?_of_head? (head?_rotate hpos m) h

theorem firstFrom_of_unusable {m : Nat} (hpos : 0 < endpoints.length)
    (h : isUsableAt endpoints (m % endpoints.length) = false) :
    firstFrom endpoints (m + 1) = firstFrom endpoints m := by
  unfold firstFrom
  rw [← List.rotate_rotate]
  exact find?_rotate_one (head?_rotate hpos m) h

def usablePlaces (endpoints : List Endpoint) : List Nat :=
  (List.range endpoints.length).filter (isUsableAt endpoints)

theorem mem_usablePlaces {p : Nat} :
    p ∈ usablePlaces endpoints ↔ isUsableAt endpoints p = true := by
  rw [usablePlaces, List.mem_filter, List.mem_range, and_iff_right_iff_imp]
  exact isUsableAt_lt

theorem nodup_usablePlaces (endpoints : List Endpoint) : (usablePlaces endpoints).Nodup :=
  List.nodup_range.filter _

theorem length_usablePlaces_le (endpoints : List Endpoint) :
    (usablePlaces endpoints).length ≤ endpoints.length := by
  simpa [usablePlaces] using
    List.length_filter_le (isUsableAt endpoints) (List.range endpoints.length)

/-- The places that the calls which move a cursor select, one call after the other. -/
def placesFor (r : Rotation) (name : String) : List Call → List (Option Nat)
  | [] => []
  | c :: cs =>
    let places := (r.next c.endpoints c.hint).1.placesFor name cs
    if c.moves name then r.nextPlace c :: places else places

/-- Calls with the same endpoints select from where one cursor after the other points. -/
theorem placesFor_eq {name : String} : ∀ {calls : List Call} (r : Rotation),
    (∀ c ∈ calls, c.moves name = true → c.endpoints = endpoints) →
    r.placesFor name calls = (List.range (calls.countP (·.moves name))).map fun k =>
      place endpoints (r.cursor name + UInt64.ofNat k)
  | [], _, _ => rfl
  | c :: calls, r, h => by
    have ih := placesFor_eq (r.next c.endpoints c.hint).1 fun d hd =>
      h d (List.mem_cons_of_mem _ hd)
    dsimp only [placesFor]
    rw [ih, List.countP_cons, cursor_next]
    by_cases hc : c.moves name = true
    · have h0 : r.cursor name + UInt64.ofNat 0 = r.cursor name := UInt64.add_zero _
      simp only [hc, ↓reduceIte, List.range_succ_eq_map, List.map_cons, List.map_map, h0,
        nextPlace, Call.key_of_moves hc, h c List.mem_cons_self hc, List.cons.injEq, true_and]
      refine List.map_congr_left fun k _ => ?_
      rw [Function.comp_apply, Nat.succ_eq_one_add, UInt64.ofNat_add, UInt64.add_assoc]
      rfl
    · simp [hc]

theorem placesFor_eq_firstFrom {r : Rotation} {name : String} {calls : List Call}
    (hlist : ∀ c ∈ calls, c.moves name = true → c.endpoints = endpoints)
    (hroom : (r.cursor name).toNat + calls.countP (·.moves name) + endpoints.length ≤ 2 ^ 64) :
    r.placesFor name calls = (List.range (calls.countP (·.moves name))).map fun k =>
      firstFrom endpoints ((r.cursor name).toNat + k) := by
  rw [placesFor_eq r hlist]
  refine List.map_congr_left fun k hk => ?_
  have hk' := List.mem_range.mp hk
  have hadd : (r.cursor name + UInt64.ofNat k).toNat = (r.cursor name).toNat + k :=
    toNat_add_ofNat (by omega)
  rw [place_eq_firstFrom (by omega), hadd]

theorem take_rotate {n m : Nat} (h : m ≤ n) (s : Nat) :
    ((List.range n).rotate s).take m = (List.range m).map fun k => (s + k) % n := by
  refine List.ext_getElem (by simp [h]) fun k hk _ => ?_
  simp only [List.getElem_take, List.getElem_rotate, List.getElem_range, List.length_range,
    List.getElem_map, Nat.add_comm]

/-- Where only one usable place is left of a rotation, a search from there on finds that one. -/
theorem firstFrom_of_drop {s m x : Nat} (hm : m ≤ endpoints.length)
    (hx : (((List.range endpoints.length).rotate s).drop m).filter (isUsableAt endpoints) = [x]) :
    firstFrom endpoints (s + m) = some x := by
  rw [firstFrom, ← List.rotate_rotate, List.rotate_eq_drop_append_take (by simpa using hm),
    List.find?_append, ← List.head?_filter, hx]
  rfl

/-- While the cursors of all calls but the last point at usable places, these are selected, and the
last call selects what is left. -/
theorem firstFrom_lap {s h : Nat} (hlen : (usablePlaces endpoints).length = h)
    (hu : ∀ k, k + 1 < h → isUsableAt endpoints ((s + k) % endpoints.length) = true) :
    (List.range h).map (fun k => firstFrom endpoints (s + k))
      = (((List.range endpoints.length).rotate s).filter (isUsableAt endpoints)).map some := by
  have hperm : (((List.range endpoints.length).rotate s).filter
      (isUsableAt endpoints)).length = h :=
    ((List.rotate_perm _ s).filter _).length_eq.trans hlen
  rcases h with _ | m
  · rw [List.length_eq_zero_iff.mp hperm]
    rfl
  have hm : m ≤ endpoints.length := by
    have := length_usablePlaces_le endpoints
    omega
  -- the places of all calls but the last, and what the rotation goes on with
  have hsplit : (List.range endpoints.length).rotate s
      = ((List.range m).map fun k => (s + k) % endpoints.length)
        ++ ((List.range endpoints.length).rotate s).drop m := by
    rw [← take_rotate hm s, List.take_append_drop]
  have hfront : ((List.range m).map fun k => (s + k) % endpoints.length).filter
      (isUsableAt endpoints) = (List.range m).map fun k => (s + k) % endpoints.length := by
    rw [List.filter_eq_self, List.forall_mem_map]
    exact fun k hk => hu k (by have := List.mem_range.mp hk; omega)
  rw [hsplit, List.filter_append, hfront] at hperm ⊢
  obtain ⟨x, hx⟩ : ∃ x, (((List.range endpoints.length).rotate s).drop m).filter
      (isUsableAt endpoints) = [x] := by
    rw [← List.length_eq_one_iff]
    simpa using hperm
  rw [hx, List.range_succ, List.map_append, List.map_append, List.map_map]
  congr 1
  · refine List.map_congr_left fun k hk => ?_
    exact firstFrom_of_usable (hu k (by have := List.mem_range.mp hk; omega))
  · rw [List.map_singleton, firstFrom_of_drop hm hx, List.map_singleton]

/-- As many calls with the same endpoints as there are usable ones, from any cursor from which no
lap goes past the largest word, never select another place than a usable one.  They select each of
those once just if the cursors of all calls but the last point at usable places; what other calls
come in between makes no difference. -/
theorem shares_fairly_iff (r : Rotation) (name : String) (endpoints : List Endpoint)
    (calls : List Call) (hlist : ∀ c ∈ calls, c.moves name = true → c.endpoints = endpoints)
    (hcount : calls.countP (·.moves name) = (usablePlaces endpoints).length)
    (hroom : (r.cursor name).toNat + (usablePlaces endpoints).length + endpoints.length ≤ 2 ^ 64) :
    (∀ p ∈ r.placesFor name calls, ∃ q ∈ usablePlaces endpoints, p = some q)
    ∧ ((r.placesFor name calls).Perm ((usablePlaces endpoints).map some)
      ↔ ∀ k, k + 1 < (usablePlaces endpoints).length →
        isUsableAt endpoints (((r.cursor name).toNat + k) % endpoints.length) = true) := by
  have hplaces : r.placesFor name calls = _ := placesFor_eq_firstFrom hlist (hcount ▸ hroom)
  rw [hcount] at hplaces
  have hperm := ((List.range endpoints.length).rotate_perm (r.cursor name).toNat).filter
    (isUsableAt endpoints)
  refine ⟨fun p hp => ?_, fun hfair k hk => ?_, fun hu => ?_⟩
  · rw [hplaces, List.mem_map] at hp
    obtain ⟨k, hk, rfl⟩ := hp
    obtain ⟨q, hq⟩ := List.exists_mem_of_length_pos (Nat.zero_lt_of_lt (List.mem_range.mp hk))
    obtain ⟨q, hq⟩ := firstFrom_eq_some (mem_usablePlaces.mp hq) ((r.cursor name).toNat + k)
    exact ⟨q, mem_usablePlaces.mpr (List.find?_some hq), hq⟩
  · -- a place that is not usable is passed on to the next call
    by_contra hu
    have hpos : 0 < endpoints.length := by
      have := length_usablePlaces_le endpoints
      omega
    have hnodup : (r.placesFor name calls).Nodup :=
      hfair.nodup_iff.mpr ((nodup_usablePlaces endpoints).map fun _ _ h => Option.some.inj h)
    rw [hplaces] at hnodup
    have heq := List.inj_on_of_nodup_map hnodup (List.mem_range.mpr (by omega : k < _))
      (List.mem_range.mpr hk) (firstFrom_of_unusable hpos (Bool.eq_false_iff.mpr hu)).symm
    omega
  · rw [hplaces, firstFrom_lap rfl hu]
    exact hperm.map some

/-- Three endpoints, the first of which is unhealthy. -/
def oneDown : List Endpoint := [⟨"a", 1, .unhealthy⟩, ⟨"b", 1, .unknown⟩, ⟨"c", 1, .healthy⟩]

/-- Two calls for a cluster, and one for another cluster in between. -/
def twoAmongOthers : List Call := [⟨oneDown, "x"⟩, ⟨oneDown, "y"⟩, ⟨oneDown, "x"⟩]

/-- The endpoint behind the unhealthy one gets both calls. -/
theorem shares_fairly_iff_oneDown : empty.placesFor "x" twoAmongOthers = [some 1, some 1]
    ∧ usablePlaces oneDown = [1, 2]
    ∧ ¬ (empty.placesFor "x" twoAmongOthers).Perm ((usablePlaces oneDown).map some) := by
  obtain ⟨-, hfair⟩ := shares_fairly_iff empty "x" oneDown twoAmongOthers (by decide) (by decide)
    (by decide)
  refine ⟨by decide, by decide, fun h => ?_⟩
  have hfirst := hfair.mp h 0 (by decide)
  cases hfirst

end Rotation

end Switchyard.Balance
