/-!
# Lengths of time

A length of time, counted in microseconds; most are whole milliseconds.  There is no longest one,
so adding to one never wraps around.
-/

namespace Switchyard

structure Span where
  micros : Nat
deriving DecidableEq, Repr, Inhabited

namespace Span

def zero : Span := ⟨0⟩

def ofMillis (n : Nat) : Span := ⟨n * 1000⟩

/-- The whole milliseconds. -/
def millis (s : Span) : Nat := s.micros / 1000

@[simp] theorem millis_ofMillis (n : Nat) : (ofMillis n).millis = n := by
  simp [ofMillis, millis]

/-- The time that has passed since an earlier one. -/
def since (s t : Span) : Span := ⟨s.micros - t.micros⟩

def add (s t : Span) : Span := ⟨s.micros + t.micros⟩

def addMillis (s : Span) (n : Nat) : Span := ⟨s.micros + n * 1000⟩

end Span

end Switchyard
