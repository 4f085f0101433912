import Switchyard.Balance.Callers
import Switchyard.Proofs.Rotation

/-!
# Calls count

A cursor counts the calls that move it (`Rotation.cursor_after`); those for an empty list of
endpoints move none.
-/

namespace Switchyard.Balance

theorem Call.key_of_named {c : Call} (h : c.hint ≠ "") : c.key = c.hint :=
  Rotation.cursorKey_of_ne h c.endpoints

/-- Calls with a hint move the cursor of their hint. -/
theorem Call.moves_eq_isFor {c : Call} (h : c.hint ≠ "") (hint : String) :
    c.moves hint = c.isFor hint := by
  rw [moves, isFor, key_of_named h]

theorem Call.key_of_moves {c : Call} {name : String} (h : c.moves name = true) : c.key = name := by
  simp only [moves, Bool.and_eq_true, beq_iff_eq] at h
  exact h.1

namespace Rotation

theorem next_fst (r : Rotation) (c : Call) : (r.next c.endpoints c.hint).1
    = if c.endpoints = [] then r else r.advance c.key := by
  simp only [next, List.isEmpty_iff]
  split <;> rfl

theorem next_snd (r : Rotation) (c : Call) : (r.next c.endpoints c.hint).2
    = pick c.endpoints (r.cursor c.key) := by
  simp only [next, List.isEmpty_iff]
  split
  · next h => simp [pick, h]
  · rfl

theorem cursor_next (r : Rotation) (c : Call) (name : String) :
    (r.next c.endpoints c.hint).1.cursor name
      = r.cursor name + if c.moves name = true then 1 else 0 := by
  rw [next_fst]
  by_cases hnil : c.endpoints = []
  · simp [Call.moves, hnil]
  · rw [if_neg hnil, cursor_advance]
    by_cases hkey : c.key = name
    · simp [Call.moves, hnil, hkey]
    · simp [Call.moves, hkey, Ne.symm hkey]

theorem after_concat (r : Rotation) (calls : List Call) (c : Call) :
    r.after (calls ++ [c]) = ((r.after calls).next c.endpoints c.hint).1 := by
  simp [after]

theorem cursor_after (calls : List Call) (name : String) : ∀ r : Rotation,
    (r.after calls).cursor name = r.cursor name + UInt64.ofNat (calls.countP (·.moves name)) := by
  induction calls with
  | nil => exact fun r => (UInt64.add_zero _).symm
  | cons c calls ih =>
    intro r
    show ((r.next c.endpoints c.hint).1.after calls).cursor name = _
    rw [ih, cursor_next, List.countP_cons, UInt64.add_assoc]
    by_cases h : c.moves name = true
    · simp [h, UInt64.add_comm]
    · simp [h]

end Rotation

end Switchyard.Balance
