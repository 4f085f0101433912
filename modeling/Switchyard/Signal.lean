/-!
# Signals

A signal goes to everyone who has subscribed by then.  Only the last one is kept: who has missed
earlier ones is told so once, and then gets the one that is kept.  A signal that nobody has
subscribed to is lost.  When all senders are gone, receivers get what is kept and then the end.
-/

namespace Switchyard

structure Signal where
  /-- How many signals were sent to somebody. -/
  sent : Nat
  /-- For each receiver the number of signals it has got or missed; none if it is gone. -/
  receivers : List (Option Nat)
  /-- Whether all senders are gone. -/
  ended : Bool
deriving DecidableEq, Repr, Inhabited

/-- What a receiver finds. -/
inductive Received
  | signal
  | empty
  | ended
  | missed (n : Nat)
deriving DecidableEq, Repr

namespace Signal

def make : Signal := ⟨0, [], false⟩

/-- How many receivers there are. -/
def receiverCount (s : Signal) : Nat := s.receivers.countP Option.isSome

/-- Adds a receiver, which gets the signals that are sent from now on. -/
def subscribe (s : Signal) : Signal := { s with receivers := s.receivers ++ [some s.sent] }

def unsubscribe (s : Signal) (i : Nat) : Signal := { s with receivers := s.receivers.set i none }

/-- Adds receivers one after the other. -/
def subscribeAll (s : Signal) : Nat → Signal
  | 0 => s
  | n + 1 => s.subscribe.subscribeAll n

/-- Sends a signal, if there are senders left. -/
def trigger (s : Signal) : Signal :=
  if s.ended || s.receiverCount = 0 then s else { s with sent := s.sent + 1 }

/-- Drops every sender. -/
def close (s : Signal) : Signal := { s with ended := true }

/-- What a receiver finds, without waiting. -/
def receive (s : Signal) (i : Nat) : Option (Signal × Received) :=
  match s.receivers[i]? with
  | some (some got) =>
    if s.sent ≤ got then some (s, if s.ended then .ended else .empty)
    else if got + 1 = s.sent then
      some ({ s with receivers := s.receivers.set i (some s.sent) }, .signal)
    else
      some ({ s with receivers := s.receivers.set i (some (s.sent - 1)) },
        .missed (s.sent - 1 - got))
  | _ => none

/-- What a receiver that waits leaves behind; nothing as long as it finds nothing. -/
def hear? (s : Signal) (i : Nat) : Option Signal :=
  match s.receive i with
  | some (_, .empty) => none
  | some (t, _) => some t
  | none => none

@[simp] theorem sent_subscribeAll (s : Signal) : ∀ n, (s.subscribeAll n).sent = s.sent
  | 0 => rfl
  | n + 1 => sent_subscribeAll s.subscribe n

theorem receivers_subscribeAll (s : Signal) :
    ∀ n, (s.subscribeAll n).receivers = s.receivers ++ List.replicate n (some s.sent)
  | 0 => by simp [subscribeAll]
  | n + 1 => by
    rw [subscribeAll, receivers_subscribeAll s.subscribe n]
    simp [subscribe, List.replicate_succ]

@[simp] theorem ended_subscribeAll (s : Signal) : ∀ n, (s.subscribeAll n).ended = s.ended
  | 0 => rfl
  | n + 1 => ended_subscribeAll s.subscribe n

@[simp] theorem receivers_trigger (s : Signal) : s.trigger.receivers = s.receivers := by
  unfold trigger
  split <;> rfl

theorem sent_le_trigger (s : Signal) : s.sent ≤ s.trigger.sent := by
  unfold trigger
  split
  · exact Nat.le_refl _
  · exact Nat.le_succ _

/-- A receiver finds something as soon as a signal was sent that it has not got, or the end. -/
theorem hear?_isSome_iff {s : Signal} {i got : Nat} (h : s.receivers[i]? = some (some got)) :
    (s.hear? i).isSome = true ↔ got < s.sent ∨ s.ended = true := by
  simp only [hear?, receive, h]
  by_cases hg : s.sent ≤ got
  · cases he : s.ended <;> simp [hg, Nat.not_lt.mpr hg]
  · have hlt : got < s.sent := Nat.not_le.mp hg
    by_cases hn : got + 1 = s.sent <;> simp [hg, hn, hlt]

/-- A receiver that waits and finds something moves on, and nothing else does. -/
theorem hear?_eq_some {s t : Signal} {i : Nat} (h : s.hear? i = some t) :
    ∃ got, t = { s with receivers := s.receivers.set i (some got) } := by
  simp only [hear?, receive] at h
  match hi : s.receivers[i]? with
  | none => simp [hi] at h
  | some none => simp [hi] at h
  | some (some got) =>
    have hself : s.receivers.set i (some got) = s.receivers := by
      obtain ⟨hlt, hget⟩ := List.getElem?_eq_some_iff.mp hi
      rw [← hget, List.set_getElem_self]
    simp only [hi] at h
    by_cases hg : s.sent ≤ got
    · cases he : s.ended <;> simp only [hg, he, ↓reduceIte, Bool.false_eq_true] at h
      · simp at h
      · simp only [Option.some.injEq] at h
        exact ⟨got, by rw [hself, ← he]; exact h.symm⟩
    · by_cases hn : got + 1 = s.sent <;> simp only [hg, hn, ↓reduceIte, Option.some.injEq] at h
      · exact ⟨s.sent, h.symm⟩
      · exact ⟨s.sent - 1, h.symm⟩

end Signal

end Switchyard
