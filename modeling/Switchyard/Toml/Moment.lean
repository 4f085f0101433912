import Switchyard.Toml.Number

/-!
# Points of time

A date, a time of day, or both, with an offset where both are given.  Four digits and a hyphen
can only begin a date, and an hour and a colon only a time, so a text that goes on wrongly after
them is refused (`Attempt`).
-/

namespace Switchyard.Toml

/-- What comes of reading something that may not be there: it is absent, begins and goes on
wrongly, or is read. -/
inductive Attempt (α : Type)
  | absent
  | broken
  | read (value : α)
deriving Repr

/-- The number that two digits write. -/
def twoDigits : Reader Nat
  | a :: b :: cs => if a.isDigit && b.isDigit then some (ofDigits 10 [a, b], cs) else none
  | _ => none

def isLeapYear (y : Nat) : Bool := y % 4 == 0 && (y % 100 != 0 || y % 400 == 0)

def daysOf (year month : Nat) : Nat :=
  if month = 2 then if isLeapYear year then 29 else 28
  else if month = 4 ∨ month = 6 ∨ month = 9 ∨ month = 11 then 30
  else 31

/-- Month and day behind a year and its hyphen. -/
def monthAndDay (year : Nat) (cs : List Char) : Option (List Char) := do
  let (month, cs) ← twoDigits cs
  if month < 1 ∨ 12 < month then none
  else match cs with
    | '-' :: cs =>
      let (day, rest) ← twoDigits cs
      if day < 1 ∨ daysOf year month < day then none else some rest
    | _ => none

/-- An hour and its colon. -/
def hour (cs : List Char) : Option (List Char) :=
  match twoDigits cs with
  | some (h, ':' :: rest) => if h ≤ 23 then some rest else none
  | _ => none

def minute (cs : List Char) : Option (List Char) := do
  let (m, rest) ← twoDigits cs
  if m ≤ 59 then some rest else none

/-- Minutes, seconds and parts of a second behind an hour. -/
def restOfTime (cs : List Char) : Option (List Char) := do
  match ← minute cs with
  | ':' :: cs =>
    let (s, rest) ← twoDigits cs
    if 60 < s then none
    else match rest with
      | '.' :: d :: more => if d.isDigit then some (more.dropWhile Char.isDigit) else some rest
      | _ => some rest
  | _ => none

/-- The text behind a time of day. -/
def timeOfDay (cs : List Char) : Attempt (List Char) :=
  match hour cs with
  | none => .absent
  | some rest =>
    match restOfTime rest with
    | some after => .read after
    | none => .broken

/-- The text behind an offset, which may be absent. -/
def offset : List Char → Option (List Char)
  | 'Z' :: cs => some cs
  | 'z' :: cs => some cs
  | '+' :: cs => (hour cs).bind minute
  | '-' :: cs => (hour cs).bind minute
  | cs => some cs

/-- The text behind the time that may follow a date. -/
def timeAfterDate : List Char → Option (List Char)
  | c :: cs =>
    if c == 'T' || c == 't' || c == ' ' then
      match timeOfDay cs with
      | .absent => some (c :: cs)
      | .broken => none
      | .read rest => offset rest
    else some (c :: cs)
  | [] => some []

/-- The text behind a point of time. -/
def moment (cs : List Char) : Attempt (List Char) :=
  match cs with
  | a :: b :: c :: d :: '-' :: rest =>
    if [a, b, c, d].all Char.isDigit then
      match (monthAndDay (ofDigits 10 [a, b, c, d]) rest).bind timeAfterDate with
      | some after => .read after
      | none => .broken
    else timeOfDay cs
  | _ => timeOfDay cs

end Switchyard.Toml
