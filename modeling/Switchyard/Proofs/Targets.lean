import Mathlib.Data.List.TakeWhile
import Switchyard.Http.Uri
import Switchyard.Proofs.References

/-!
# Targets behind a base

The target of a request that is for a path is read off its line as path and query
(`Http.Uri.isPath_target`).  Behind the base of a server it stands as it is, whatever the path or
the query look like; only the mark of a query that is empty is left out (`Url.retarget_of_isPath`).
-/

namespace Switchyard

theorem eq_ok_of_bind {ε α β : Type} {x : Except ε α} {f : α → Except ε β} {b : β}
    (h : x >>= f = .ok b) : ∃ a, x = .ok a ∧ f a = .ok b := by
  cases x with
  | error e => cases h
  | ok a => exact ⟨a, rfl, h⟩

theorem eq_ok_of_map {ε α β : Type} {x : Except ε α} {f : α → β} {b : β}
    (h : x.map f = .ok b) : ∃ a, x = .ok a ∧ f a = b := by
  cases x with
  | error e => cases h
  | ok a => exact ⟨a, rfl, Except.ok.inj h⟩

namespace Http

/-- A path with a query perhaps, or a query alone. -/
structure IsPath (cs : List Char) : Prop where
  starts : ∃ c rest, cs = c :: rest ∧ (c = '/' ∨ c = '?')
  noFragment : '#' ∉ cs

namespace Uri

/-- What is read in front of a fragment is a path, unless there is nothing. -/
theorem isPath_of_readPath {cs path : List Char} (h : readPath cs = .ok path)
    (hcs : ∀ c ∈ cs.head?, endsAuthority c = true) : path = [] ∨ IsPath path := by
  unfold readPath at h
  dsimp only at h
  split_ifs at h
  cases h
  have hno : '#' ∉ cs.takeWhile (fun c => c != '?' && c != '#')
      ++ (cs.drop (cs.takeWhile fun c => c != '?' && c != '#').length).takeWhile (· != '#') := by
    intro hm
    rcases List.mem_append.mp hm with hm | hm
    · simpa using List.mem_takeWhile_imp hm
    · simpa using List.mem_takeWhile_imp hm
  cases cs with
  | nil => exact Or.inl rfl
  | cons c rest =>
    have hc := hcs c rfl
    simp only [endsAuthority, Bool.or_eq_true, beq_iff_eq] at hc
    rcases hc with (rfl | rfl) | rfl
    · exact Or.inr ⟨⟨'/', _, rfl, Or.inl rfl⟩, hno⟩
    · exact Or.inr ⟨⟨'?', _, rfl, Or.inr rfl⟩, hno⟩
    · exact Or.inl rfl

theorem rest_of_splitAuthority {cs authority rest : List Char}
    (h : splitAuthority cs = .ok (authority, rest)) : rest = cs.dropWhile (!endsAuthority ·) := by
  obtain ⟨s, -, h⟩ := eq_ok_of_bind h
  split_ifs at h
  cases h
  rfl

theorem path_of_ofChars {cs : List Char} {u : Uri} (h : ofChars cs = .ok u) :
    u.path = [] ∨ u.path = ['*'] ∨ IsPath u.path := by
  unfold ofChars at h
  split at h
  · cases h
  · cases h
    exact Or.inr (Or.inr ⟨⟨'/', [], rfl, Or.inl rfl⟩, by decide⟩)
  · cases h
    exact Or.inr (Or.inl rfl)
  · obtain ⟨⟨authority, rest⟩, -, h⟩ := eq_ok_of_bind h
    dsimp only at h
    split_ifs at h
    cases h
    exact Or.inl rfl
  · obtain ⟨path, hp, h⟩ := eq_ok_of_bind h
    cases h
    exact (isPath_of_readPath hp (by simp [endsAuthority])).imp_right Or.inr
  · obtain ⟨⟨scheme, rest⟩, -, h⟩ := eq_ok_of_bind h
    obtain ⟨⟨authority, rest⟩, ha, h⟩ := eq_ok_of_bind h
    dsimp only at h
    split at h
    · split_ifs at h
      cases h
      exact Or.inl rfl
    · split_ifs at h
      obtain ⟨path, hp, h⟩ := eq_ok_of_bind h
      cases h
      rw [rest_of_splitAuthority ha] at hp
      exact Or.imp_right Or.inr (isPath_of_readPath hp (head_dropWhile_not _ _))

/-- The target of a request is a path, unless it is for everything or for an authority. -/
theorem isPath_target {line target : String} {u : Uri} (h : parse line = .ok u)
    (ht : u.target? = some target) (hall : target ≠ "*") : IsPath target.toList := by
  have hchars : ofChars line.toList = .ok u := by
    unfold parse at h
    split_ifs at h
    exact h
  unfold target? at ht
  split_ifs at ht with hauthority hnone
  · cases ht
    exact ⟨⟨'/', [], rfl, Or.inl rfl⟩, by decide⟩
  · cases ht
    rw [List.isEmpty_iff] at hnone
    rcases path_of_ofChars hchars with hp | hp | hp
    · exact absurd hp hnone
    · rw [hp] at hall
      exact absurd rfl hall
    · rwa [String.toList_ofList]

end Uri

end Http

namespace Url

open Http (IsPath)

variable {cs : List Char}

theorem head_of_isPath (h : IsPath cs) : ∀ c ∈ cs.head?, endsAuthority c = true := by
  obtain ⟨c, rest, rfl, hc⟩ := h.starts
  rintro a ⟨⟩
  rcases hc with rfl | rfl <;> rfl

theorem dropFragment_of_isPath (h : IsPath cs) : dropFragment cs = cs :=
  List.takeWhile_eq_self_iff.mpr fun c hc => by
    simpa using fun hcf : c = '#' => h.noFragment (hcf ▸ hc)

/-- Behind a base a path stands as it is, but for the mark of an empty query. -/
theorem retarget_of_isPath {base url : String} (h : IsPath url.toList) :
    retarget base url
      = .ok (String.ofList (trimBase base.toList ++ withoutEmptyQuery url.toList)) := by
  rw [retarget, retargetBy_of_head (head_of_isPath h), dropFragment_of_isPath h]

end Url

end Switchyard
