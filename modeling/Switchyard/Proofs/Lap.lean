import Switchyard.Proofs.Calls
import Switchyard.Proofs.Selection

/-!
# One lap

A selection looks at the places of one lap, from the one that the cursor points at, for the first
usable endpoint (`Rotation.pick_eq`).  The numbers of the lap are words, so past the largest one it
goes on with zero, which is another place than the next one unless the number of places divides the
number of words.  So there are cursors from which a lap misses places (`Rotation.covers_iff`), and
from those nothing may be selected though something is usable (`selects_if_usable_iff`).
-/

namespace Switchyard.Balance

theorem toNat_add_ofNat {start : UInt64} {k : Nat} (h : start.toNat + k < 2 ^ 64) :
    (start + UInt64.ofNat k).toNat = start.toNat + k := by
  rw [UInt64.toNat_add, UInt64.toNat_ofNat', Nat.add_mod_mod, Nat.mod_eq_of_lt h]

theorem find?_of_head? {α : Type} {xs : List α} {u : α → Bool} {x : α}
    (hx : xs.head? = some x) (hu : u x = true) : xs.find? u = some x := by
  obtain ⟨rest, rfl⟩ := List.head?_eq_some_iff.mp hx
  rw [List.find?_cons, hu]

namespace Rotation

/-- The places of a lap, in the order in which they are looked at. -/
def lap (n : Nat) (start : UInt64) : List Nat :=
  (List.range n).map fun i => (start + UInt64.ofNat i).toNat % n

def isUsableAt (endpoints : List Endpoint) (p : Nat) : Bool := endpoints[p]?.any Endpoint.isUsable

/-- The place of the endpoint that is selected. -/
def place (endpoints : List Endpoint) (start : UInt64) : Option Nat :=
  (lap endpoints.length start).find? (isUsableAt endpoints)

variable {endpoints : List Endpoint} {start : UInt64} {n : Nat}

theorem isUsableAt_iff {p : Nat} :
    isUsableAt endpoints p = true ↔ ∃ e, endpoints[p]? = some e ∧ e.isUsable = true := by
  simp only [isUsableAt, Option.any_eq_true]

theorem isUsableAt_lt {p : Nat} (h : isUsableAt endpoints p = true) : p < endpoints.length := by
  obtain ⟨e, he, -⟩ := isUsableAt_iff.mp h
  exact (List.getElem?_eq_some_iff.mp he).1

theorem exists_isUsableAt_iff :
    (∃ p, isUsableAt endpoints p = true) ↔ ∃ e ∈ endpoints, e.isUsable = true := by
  simp only [isUsableAt_iff, List.mem_iff_getElem?]
  constructor
  · rintro ⟨p, e, he, hu⟩
    exact ⟨e, ⟨p, he⟩, hu⟩
  · rintro ⟨e, ⟨p, he⟩, hu⟩
    exact ⟨p, e, he, hu⟩

theorem pick_eq (endpoints : List Endpoint) (start : UInt64) :
    pick endpoints start = (place endpoints start).bind fun p => endpoints[p]? := by
  unfold pick place lap
  induction List.range endpoints.length with
  | nil => rfl
  | cons i is ih =>
    rw [List.findSome?_cons, List.map_cons, List.find?_cons, ih]
    simp only [usableAt, isUsableAt]
    cases he : endpoints[(start + UInt64.ofNat i).toNat % endpoints.length]? with
    | none => simp
    | some e =>
      cases hu : e.isUsable with
      | false => simp [hu]
      | true => simpa [hu] using he.symm

/-- The place of the endpoint that a call selects. -/
def nextPlace (r : Rotation) (c : Call) : Option Nat := place c.endpoints (r.cursor c.key)

theorem next_snd_eq_nextPlace (r : Rotation) (c : Call) :
    (r.next c.endpoints c.hint).2 = (r.nextPlace c).bind fun p => c.endpoints[p]? := by
  rw [next_snd, pick_eq, nextPlace]

theorem isUsableAt_of_place {p : Nat} (h : place endpoints start = some p) :
    isUsableAt endpoints p = true :=
  List.find?_some h

theorem mem_lap {p : Nat} : p ∈ lap n start ↔ ∃ i < n, (start.toNat + i) % 2 ^ 64 % n = p := by
  simp [lap]

theorem head?_lap (hn : 0 < n) (start : UInt64) : (lap n start).head? = some (start.toNat % n) := by
  obtain ⟨m, rfl⟩ := Nat.exists_eq_succ_of_ne_zero hn.ne'
  simp [lap, List.range_succ_eq_map]

theorem exists_add_mod {p : Nat} (hp : p < n) (s : Nat) : ∃ i < n, (s + i) % n = p := by
  have hn : 0 < n := by omega
  have hs : s % n < n := Nat.mod_lt s hn
  refine ⟨(p + (n - s % n)) % n, Nat.mod_lt _ hn, ?_⟩
  rw [Nat.add_mod_mod, ← Nat.mod_add_mod, show s % n + (p + (n - s % n)) = p + n by omega,
    Nat.add_mod_right, Nat.mod_eq_of_lt hp]

/-- A lap that goes past the largest word comes to the place of that number of words, or to the
last ones that are left, only if it begins again where it would have gone on. -/
theorem not_covered (hwrap : 2 ^ 64 < start.toNat + n) (hdvd : ¬ n ∣ 2 ^ 64) :
    max (2 ^ 64 % n) (start.toNat + n - 2 ^ 64) ∉ lap n start := by
  rw [mem_lap]
  rintro ⟨i, hi, hp⟩
  -- place `i` of the lap is looked at before the numbers begin again, or after
  have hstart := start.toNat_lt
  have hw : 2 ^ 64 % n ≠ 0 := fun h => hdvd (Nat.dvd_of_mod_eq_zero h)
  by_cases hlow : start.toNat + i < 2 ^ 64
  · rw [Nat.mod_eq_of_lt hlow] at hp
    have hx := Nat.div_add_mod (start.toNat + i) n
    have hq := Nat.div_add_mod (2 ^ 64) n
    -- the number that is looked at is no whole number of laps before the number of words
    rcases Nat.lt_or_ge ((start.toNat + i) / n) (2 ^ 64 / n) with h | h
    · have := Nat.mul_le_mul_left n (Nat.succ_le_of_lt h)
      rw [Nat.mul_succ] at this
      omega
    · have := Nat.mul_le_mul_left n h
      omega
  · have hle : (start.toNat + i) % 2 ^ 64 ≤ start.toNat + i - 2 ^ 64 := by
      rw [Nat.mod_eq_sub_mod (by omega)]
      exact Nat.mod_le _ _
    have := Nat.mod_le ((start.toNat + i) % 2 ^ 64) n
    omega

theorem covers_iff (n : Nat) (start : UInt64) :
    (∀ p < n, p ∈ lap n start) ↔ start.toNat + n ≤ 2 ^ 64 ∨ n ∣ 2 ^ 64 := by
  constructor
  · intro h
    by_contra hno
    obtain ⟨hwrap, hdvd⟩ := not_or.mp hno
    have hstart := start.toNat_lt
    have hn : 2 ^ 64 % n < n := Nat.mod_lt _ (by omega)
    exact not_covered (by omega) hdvd (h _ (by omega))
  · intro h p hp
    obtain ⟨i, hi, hip⟩ := exists_add_mod hp start.toNat
    refine mem_lap.mpr ⟨i, hi, ?_⟩
    rcases h with hroom | hdvd
    · rw [Nat.mod_eq_of_lt (show start.toNat + i < 2 ^ 64 by omega), hip]
    · rw [Nat.mod_mod_of_dvd _ hdvd, hip]

theorem place_eq_none_iff : place endpoints start = none
    ↔ ∀ p ∈ lap endpoints.length start, isUsableAt endpoints p = false := by
  simp only [place, List.find?_eq_none, Bool.not_eq_true]

theorem pick_eq_none_iff : pick endpoints start = none ↔ place endpoints start = none := by
  rw [pick_eq, Option.bind_eq_none_iff]
  refine ⟨fun h => ?_, fun h p hp => by simp [h] at hp⟩
  cases hp : place endpoints start with
  | none => rfl
  | some p =>
    obtain ⟨e, he, -⟩ := isUsableAt_iff.mp (isUsableAt_of_place hp)
    exact absurd (h p hp) (by simp [he])

theorem isUsable_of_pick {e : Endpoint} (h : pick endpoints start = some e) :
    e ∈ endpoints ∧ e.isUsable = true := by
  rw [pick_eq, Option.bind_eq_some_iff] at h
  obtain ⟨p, hp, he⟩ := h
  obtain ⟨f, hf, hu⟩ := isUsableAt_iff.mp (isUsableAt_of_place hp)
  obtain rfl : f = e := Option.some.inj (hf.symm.trans he)
  exact ⟨List.mem_of_getElem? he, hu⟩

theorem pick_of_unusable (h : ∀ e ∈ endpoints, e.isUsable = false) :
    pick endpoints start = none := by
  rw [Option.eq_none_iff_forall_ne_some]
  intro e he
  obtain ⟨hmem, hu⟩ := isUsable_of_pick he
  simp [h e hmem] at hu

/-- The endpoints of which only the one at a place is usable. -/
def onlyUsable (n p : Nat) : List Endpoint :=
  (List.range n).map fun q => ⟨"", 1, if q = p then .healthy else .unhealthy⟩

theorem isUsableAt_onlyUsable {p q : Nat} (h : isUsableAt (onlyUsable n p) q = true) : q = p := by
  obtain ⟨e, he, hu⟩ := isUsableAt_iff.mp h
  simp only [onlyUsable, List.getElem?_map, Option.map_eq_some_iff] at he
  obtain ⟨i, hi, rfl⟩ := he
  obtain ⟨hlt, rfl⟩ := List.getElem?_eq_some_iff.mp hi
  rw [List.getElem_range] at hu
  by_contra hne
  simp [Endpoint.isUsable, hne] at hu

theorem exists_usable_onlyUsable {p : Nat} (hp : p < n) :
    ∃ e ∈ onlyUsable n p, e.isUsable = true :=
  ⟨⟨"", 1, .healthy⟩, List.mem_map.mpr ⟨p, List.mem_range.mpr hp, by simp⟩, rfl⟩

/-- Something is selected from any endpoints of which one is usable, just if the lap comes to all
places. -/
theorem pick_complete_iff : (∀ endpoints : List Endpoint, endpoints.length = n →
      (pick endpoints start = none ↔ ∀ e ∈ endpoints, e.isUsable = false))
    ↔ ∀ p < n, p ∈ lap n start := by
  constructor
  · intro h p hp
    by_contra hmiss
    have hlen : (onlyUsable n p).length = n := by simp [onlyUsable]
    have hnone : pick (onlyUsable n p) start = none := by
      rw [pick_eq_none_iff, place_eq_none_iff, hlen]
      intro q hq
      rw [Bool.eq_false_iff]
      intro hu
      exact hmiss (isUsableAt_onlyUsable hu ▸ hq)
    obtain ⟨e, he, hu⟩ := exists_usable_onlyUsable hp
    simp [(h _ hlen).mp hnone e he] at hu
  · rintro hall endpoints rfl
    refine ⟨fun hnone e he => ?_, pick_of_unusable⟩
    rw [pick_eq_none_iff, place_eq_none_iff] at hnone
    by_contra hu
    obtain ⟨p, hp⟩ := exists_isUsableAt_iff.mpr ⟨e, he, eq_true_of_ne_false hu⟩
    simp [hnone p (hall p (isUsableAt_lt hp))] at hp

end Rotation

/-- A rotation whose cursor points at any of the places selects one of the endpoints that are
usable, and none if none is, and a table that goes by it reports just that there was none.  That
something is selected whenever something is usable holds of all endpoints of a number just for the
cursors from which a lap does not go past the largest word, unless their number divides the number
of words. -/
theorem selects_if_usable_iff (n : Nat) (start : UInt64) :
    ((∀ (r : Rotation) (endpoints : List Endpoint) (hint : String), endpoints.length = n →
        r.cursor (Rotation.cursorKey endpoints hint) = start →
        ((r.next endpoints hint).2 = none ↔ ∀ e ∈ endpoints, e.isUsable = false))
      ↔ start.toNat + n ≤ 2 ^ 64 ∨ n ∣ 2 ^ 64)
    ∧ ∀ (r : Rotation) (endpoints : List Endpoint) (hint : String),
      (∀ e, (r.next endpoints hint).2 = some e → e ∈ endpoints ∧ e.isUsable = true)
      ∧ ((∀ e ∈ endpoints, e.isUsable = false) → (r.next endpoints hint).2 = none)
      ∧ ∀ (t : Table) (name : String), t.rotation? name = some r → ∀ error,
        (t.select name endpoints hint).2 = .error error
          ↔ error = .noAvailableEndpoint hint ∧ (r.next endpoints hint).2 = none := by
  have hnext : ∀ (r : Rotation) (endpoints : List Endpoint) (hint : String),
      (r.next endpoints hint).2
        = Rotation.pick endpoints (r.cursor (Rotation.cursorKey endpoints hint)) :=
    fun r endpoints hint => r.next_snd ⟨endpoints, hint⟩
  refine ⟨?_, fun r endpoints hint => ⟨?_, ?_, fun t name ht error => ?_⟩⟩
  · rw [← Rotation.covers_iff, ← Rotation.pick_complete_iff]
    constructor
    · intro h endpoints hlen
      have hc : Rotation.cursor ⟨Store.empty.set "c" start⟩ (Rotation.cursorKey endpoints "c")
          = start := by
        rw [Rotation.cursorKey_of_ne (by decide), Rotation.cursor, Store.find?_set_self]
        rfl
      have := h ⟨Store.empty.set "c" start⟩ endpoints "c" hlen hc
      rwa [hnext, hc] at this
    · intro h r endpoints hint hlen hc
      rw [hnext, hc]
      exact h endpoints hlen
  · intro e he
    rw [hnext] at he
    exact Rotation.isUsable_of_pick he
  · intro h
    rw [hnext]
    exact Rotation.pick_of_unusable h
  · rw [(Table.select_of_rotation? ht endpoints hint).2]
    cases (r.next endpoints hint).2 with
    | none => simp [eq_comm]
    | some e => simp

/-- After as many calls for a cluster as the largest word is, one more selects none of three
endpoints though the last of them is usable. -/
theorem selects_if_usable_iff_overflow :
    ((Rotation.empty.after (List.replicate (2 ^ 64 - 1) ⟨[⟨"a", 1, .unknown⟩], "c"⟩)).next
      [⟨"a", 1, .unhealthy⟩, ⟨"b", 1, .unhealthy⟩, ⟨"d", 1, .unknown⟩] "c").2 = none := by
  rw [Rotation.next_snd _ ⟨_, "c"⟩, Call.key_of_named (by decide), Rotation.cursor_after,
    List.countP_replicate]
  rfl

end Switchyard.Balance
