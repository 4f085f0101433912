import Switchyard.Queue.Refusal

/-!
# Channels

A channel holds what its producers have handed in and nobody has taken yet, in the order in which
it came, up to its capacity.  It takes nothing more once it is closed or has no producers left.
-/

namespace Switchyard.Queue

structure Channel (α : Type) where
  capacity : Nat
  waiting : List α
  /-- Whether a consumer has closed it. -/
  shut : Bool
  producers : Nat
deriving Repr

namespace Channel

variable {α : Type}

/-- The largest capacity that a channel can have: three bits of a word are kept for its state. -/
def largest : Nat := 0x1fffffffffffffff

/-- An empty channel with one producer and room for at least one. -/
def make (capacity : Nat) : Channel α := ⟨max capacity 1, [], false, 1⟩

/-- A channel of a capacity, if there can be one: with some room, but not more than the largest. -/
def open? (capacity : Nat) : Option (Channel α) :=
  if capacity = 0 ∨ largest < capacity then none else some ⟨capacity, [], false, 1⟩

def isClosed (c : Channel α) : Bool := c.shut || c.producers == 0

def isFull (c : Channel α) : Bool := c.capacity ≤ c.waiting.length

/-- Hands something in.  A channel that is closed and full is closed. -/
def offer (c : Channel α) (a : α) : Except Refusal (Channel α) :=
  if c.isClosed then .error .closed
  else if c.isFull then .error .full
  else .ok { c with waiting := c.waiting ++ [a] }

/-- Takes what has waited longest. -/
def take (c : Channel α) : Option (α × Channel α) :=
  match c.waiting with
  | [] => none
  | a :: rest => some (a, { c with waiting := rest })

def shutDown (c : Channel α) : Channel α := { c with shut := true }

/-- Whether nothing waits and nothing can come. -/
def isOver (c : Channel α) : Bool := c.isClosed && c.waiting.isEmpty

theorem offer_eq_closed_iff (c : Channel α) (a : α) :
    c.offer a = .error .closed ↔ c.isClosed = true := by
  unfold offer
  split
  · simp_all
  · split <;> simp_all

theorem offer_eq_full_iff (c : Channel α) (a : α) :
    c.offer a = .error .full ↔ c.isClosed = false ∧ c.isFull = true := by
  unfold offer
  split
  · simp_all
  · split <;> simp_all

end Channel

end Switchyard.Queue
