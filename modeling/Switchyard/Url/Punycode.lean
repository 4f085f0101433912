/-!
# Labels written in ASCII

A label of other letters is written as its ASCII letters, a hyphen, and a sequence of numbers that
say which character to insert where.  A number has a variable count of digits of base 36: a digit
below the `threshold` of its place is the last one, and the thresholds move with the `bias`, which
follows the sizes of the numbers read so far (`adapt`).  `decode` reads the numbers back.
-/

namespace Switchyard.Url.Punycode

/-- The value of a digit, the letters before the figures. -/
def digit? (c : Char) : Option Nat :=
  if 'a' ≤ c ∧ c ≤ 'z' then some (c.toNat - 97)
  else if 'A' ≤ c ∧ c ≤ 'Z' then some (c.toNat - 65)
  else if c.isDigit then some (c.toNat - 22)
  else none

/-- A digit below the threshold ends a number; it lies between 1 and 26. -/
def threshold (place bias : Nat) : Nat := min 26 (max 1 (place - bias))

/-- Divides by 35 until the number is at most 455, and counts 36 for each division. -/
def settle : Nat → Nat → Nat → Nat × Nat
  | 0, delta, k => (delta, k)
  | fuel + 1, delta, k => if 455 < delta then settle fuel (delta / 35) (k + 36) else (delta, k)

/-- The bias after a number: larger numbers ahead are expected after a large one. -/
def adapt (delta points : Nat) (first : Bool) : Nat :=
  let delta := if first then delta / 700 else delta / 2
  let (rest, k) := settle 16 (delta + delta / points) 0
  k + 36 * rest / (rest + 38)

/-- Numbers and weights stay below this bound. -/
def bound : Nat := UInt32.size

/-- Reads one number; `place` grows by 36 from digit to digit, and `weight` is the weight of the
digit at hand. -/
def readNumber (bias : Nat) : List Char → (place weight value : Nat) → Option (Nat × List Char)
  | [], _, _, _ => none
  | c :: cs, place, weight, value =>
    match digit? c with
    | none => none
    | some d =>
      let value := value + d * weight
      let t := threshold place bias
      if bound ≤ value then none
      else if d < t then some (value, cs)
      else if bound ≤ weight * (36 - t) then none
      else readNumber bias cs (place + 36) (weight * (36 - t)) value

theorem readNumber_length {bias : Nat} : ∀ {cs : List Char} {place weight value n : Nat}
    {rest : List Char},
    readNumber bias cs place weight value = some (n, rest) → rest.length < cs.length
  | [], _, _, _, _, _, h => by simp [readNumber] at h
  | c :: cs, place, weight, value, n, rest, h => by
    simp only [readNumber] at h
    split at h
    · simp at h
    · split at h
      · simp at h
      · split at h
        · simp only [Option.some.injEq, Prod.mk.injEq] at h
          simp [h.2]
        · split at h
          · simp at h
          · exact Nat.lt_succ_of_lt (readNumber_length h)

/-- What has been decoded: the text, the last character inserted and the place it went to. -/
structure Progress where
  text : List Char
  point : Nat
  place : Nat
  bias : Nat
deriving Repr

/-- Inserts the character that a number stands for. -/
def Progress.insert (p : Progress) (number : Nat) : Option Progress :=
  let count := p.text.length + 1
  let point := p.point + number / count
  let place := number % count
  if point.isValidChar then
    some {
      text := p.text.insertIdx place (Char.ofNat point)
      point := point
      place := place + 1
      bias := adapt (number - p.place) count (p.place == 0) }
  else none

/-- Inserts the characters of the numbers that are left. -/
def decodeNumbers (p : Progress) (cs : List Char) : Option (List Char) :=
  match cs with
  | [] => some p.text
  | c :: rest =>
    match _h : readNumber p.bias (c :: rest) 36 1 p.place with
    | none => none
    | some (number, after) =>
      match p.insert number with
      | none => none
      | some q => decodeNumbers q after
termination_by cs.length
decreasing_by exact readNumber_length _h

/-- The text before the last hyphen and the text after it; a hyphen in front does not count. -/
def cut (cs : List Char) : List Char × List Char :=
  let after := (cs.reverse.takeWhile (· ≠ '-')).reverse
  let before := cs.take (cs.length - after.length - 1)
  if before.isEmpty then ([], cs) else (before, after)

/-- The label that an ASCII text stands for. -/
def decode (cs : List Char) : Option (List Char) :=
  let (letters, numbers) := cut cs
  decodeNumbers { text := letters, point := 128, place := 0, bias := 72 } numbers

end Switchyard.Url.Punycode
