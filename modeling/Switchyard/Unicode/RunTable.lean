/-!
# Tables of stretches

A property of characters is constant on long stretches of code points, so it is kept as the
sequence of those stretches: each has a first code point, a letter for its kind and some numbers
whose meaning depends on the kind.  The written form of a table names, stretch by stretch, the
kind, the length and the further numbers in base 36, divided by commas; blanks and line ends do
not count.  A look-up halves the table until one stretch is left (`RunTable.runOf`).
-/

namespace Switchyard

/-- A stretch of code points of one kind, from `start` to where the next stretch begins. -/
structure Run where
  start : Nat
  kind : Char
  args : List Nat
deriving Repr, Inhabited

/-- The stretches of a property, in the order of their code points. -/
structure RunTable where
  runs : Array Run
deriving Inhabited

/-- What has been read of the written form of a table. -/
structure RunTable.Draft where
  runs : Array Run
  start : Nat
  kind : Char
  /-- The numbers of the stretch at hand, the last one first. -/
  numbers : List Nat

namespace RunTable

/-- The value of a digit of base 36. -/
def digit (c : Char) : Nat := if c.isDigit then c.toNat - 48 else c.toNat - 87

/-- Ends the stretch at hand, if there is one. -/
def Draft.close (p : Draft) : Draft :=
  match p.numbers.reverse with
  | [] => p
  | len :: args =>
    { p with runs := p.runs.push ⟨p.start, p.kind, args⟩, start := p.start + len, numbers := [] }

def Draft.read (p : Draft) (c : Char) : Draft :=
  if c.isUpper then { p.close with kind := c, numbers := [0] }
  else if c == ' ' || c == '\n' then p
  else if c == ',' then { p with numbers := 0 :: p.numbers }
  else match p.numbers with
    | [] => p
    | n :: ns => { p with numbers := (n * 36 + digit c) :: ns }

/-- The table of a written form. -/
def ofText (s : String) : RunTable := ⟨(s.foldl Draft.read ⟨#[], 0, 'N', []⟩).close.runs⟩

/-- Halves `[lo, hi)` until one stretch is left; `lo` stays at or before the one that holds `n`. -/
def find (t : RunTable) (n : Nat) : Nat → Nat → Nat → Nat
  | 0, lo, _ => lo
  | fuel + 1, lo, hi =>
    if hi ≤ lo + 1 then lo
    else
      let mid := (lo + hi) / 2
      if (t.runs[mid]?.map (·.start)).getD 0 ≤ n then find t n fuel mid hi
      else find t n fuel lo mid

/-- The stretch that holds a character. -/
def runOf (t : RunTable) (c : Char) : Run :=
  t.runs.getD (t.find c.toNat 32 0 t.runs.size) ⟨0, 'N', []⟩

def kindOf (t : RunTable) (c : Char) : Char := (t.runOf c).kind

end RunTable

end Switchyard
