/-!
# Stores

A store holds one value under each of its keys.  The keys keep the order in which they came, and
`set` changes what is found under its own key alone (`find?_set_self`, `find?_set_of_ne`).
-/

namespace Switchyard

/-- The values under their keys, in the order in which the keys came. -/
structure Store (κ α : Type) where
  entries : List (κ × α)
deriving Repr

namespace Store

variable {κ α : Type} [DecidableEq κ]

instance : Inhabited (Store κ α) := ⟨⟨[]⟩⟩

def empty : Store κ α := ⟨[]⟩

/-- The value of the first entry under a key. -/
def findIn (k : κ) : List (κ × α) → Option α
  | [] => none
  | (j, a) :: es => if j = k then some a else findIn k es

/-- The entries with a value under a key. -/
def setIn (k : κ) (a : α) : List (κ × α) → List (κ × α)
  | [] => [(k, a)]
  | (j, b) :: es => if j = k then (k, a) :: es else (j, b) :: setIn k a es

def find? (s : Store κ α) (k : κ) : Option α := findIn k s.entries

def set (s : Store κ α) (k : κ) (a : α) : Store κ α := ⟨setIn k a s.entries⟩

/-- Whether there is a value under a key. -/
def has (s : Store κ α) (k : κ) : Bool := (s.find? k).isSome

def size (s : Store κ α) : Nat := s.entries.length

def keys (s : Store κ α) : List κ := s.entries.map (·.1)

theorem findIn_setIn_self (k : κ) (a : α) : ∀ es : List (κ × α), findIn k (setIn k a es) = some a
  | [] => by simp [setIn, findIn]
  | (j, b) :: es => by
    by_cases h : j = k
    · simp [setIn, findIn, h]
    · simp [setIn, findIn, h, findIn_setIn_self k a es]

theorem findIn_setIn_of_ne {j k : κ} (h : j ≠ k) (a : α) :
    ∀ es : List (κ × α), findIn j (setIn k a es) = findIn j es
  | [] => by simp [setIn, findIn, Ne.symm h]
  | (i, b) :: es => by
    by_cases hi : i = k
    · subst hi
      simp [setIn, findIn, Ne.symm h]
    · by_cases hj : i = j
      · simp [setIn, findIn, hj, h]
      · simp [setIn, findIn, hi, hj, findIn_setIn_of_ne h a es]

@[simp] theorem find?_empty (k : κ) : (empty : Store κ α).find? k = none := rfl

@[simp] theorem find?_set_self (s : Store κ α) (k : κ) (a : α) : (s.set k a).find? k = some a :=
  findIn_setIn_self k a s.entries

theorem find?_set_of_ne (s : Store κ α) {j k : κ} (h : j ≠ k) (a : α) :
    (s.set k a).find? j = s.find? j :=
  findIn_setIn_of_ne h a s.entries

theorem find?_set (s : Store κ α) (j k : κ) (a : α) :
    (s.set k a).find? j = if j = k then some a else s.find? j := by
  split
  · next h => rw [h, find?_set_self]
  · next h => exact s.find?_set_of_ne h a

theorem setIn_setIn (k : κ) (a b : α) :
    ∀ es : List (κ × α), setIn k b (setIn k a es) = setIn k b es
  | [] => by simp [setIn]
  | (j, c) :: es => by
    by_cases h : j = k
    · simp [setIn, h]
    · simp [setIn, h, setIn_setIn k a b es]

/-- Of two values that are set under one key the later one counts. -/
theorem set_set (s : Store κ α) (k : κ) (a b : α) : (s.set k a).set k b = s.set k b :=
  congrArg Store.mk (setIn_setIn k a b s.entries)

theorem mem_keysIn (k : κ) :
    ∀ es : List (κ × α), k ∈ es.map (·.1) ↔ (findIn k es).isSome = true
  | [] => by simp [findIn]
  | (j, b) :: es => by
    by_cases h : j = k
    · simp [findIn, h]
    · simp only [List.map_cons, List.mem_cons, findIn, if_neg h, mem_keysIn k es]
      exact or_iff_right (Ne.symm h)

theorem mem_keys (s : Store κ α) (k : κ) : k ∈ s.keys ↔ s.has k = true := mem_keysIn k s.entries

theorem mem_keys_set (s : Store κ α) (j k : κ) (a : α) :
    j ∈ (s.set k a).keys ↔ j = k ∨ j ∈ s.keys := by
  simp only [mem_keys, has, find?_set]
  split
  · next h => simp [h]
  · next h => simp [h]

/-- Where no key comes twice, what is found under a key is what stands there. -/
theorem findIn_eq_some_iff {k : κ} {a : α} :
    ∀ {es : List (κ × α)}, (es.map (·.1)).Nodup → (findIn k es = some a ↔ (k, a) ∈ es)
  | [], _ => by simp [findIn]
  | (j, b) :: es, h => by
    obtain ⟨hj, hes⟩ := List.nodup_cons.mp h
    by_cases hk : j = k
    · subst hk
      have hnone : (j, a) ∉ es := fun hmem => hj (List.mem_map.mpr ⟨(j, a), hmem, rfl⟩)
      simp [findIn, hnone, eq_comm]
    · simp [findIn, hk, Ne.symm hk, findIn_eq_some_iff hes]

/-- Where no key comes twice, the order of the entries makes no difference. -/
theorem findIn_perm {es fs : List (κ × α)} (hp : es.Perm fs) (h : (fs.map (·.1)).Nodup) (k : κ) :
    findIn k es = findIn k fs := by
  refine Option.ext fun a => ?_
  have hes : (es.map (·.1)).Nodup := (hp.map _).nodup_iff.mpr h
  rw [findIn_eq_some_iff hes, findIn_eq_some_iff h, hp.mem_iff]

theorem nodup_keysIn_setIn (k : κ) (a : α) :
    ∀ {es : List (κ × α)}, (es.map (·.1)).Nodup → ((setIn k a es).map (·.1)).Nodup
  | [], _ => by simp [setIn]
  | (j, b) :: es, h => by
    obtain ⟨hj, hes⟩ := List.nodup_cons.mp h
    by_cases hk : j = k
    · rw [setIn, if_pos hk]
      exact List.nodup_cons.mpr ⟨hk ▸ hj, hes⟩
    · rw [setIn, if_neg hk]
      refine List.nodup_cons.mpr ⟨fun hmem => hj ?_, nodup_keysIn_setIn k a hes⟩
      rw [mem_keysIn] at hmem ⊢
      rwa [findIn_setIn_of_ne hk] at hmem

theorem nodup_keys_set {s : Store κ α} (h : s.keys.Nodup) (k : κ) (a : α) :
    (s.set k a).keys.Nodup :=
  nodup_keysIn_setIn k a h

omit [DecidableEq κ] in
theorem length_keys (s : Store κ α) : s.keys.length = s.size := List.length_map _

end Store

end Switchyard
