import Switchyard.Toml.Blank

/-!
# Quoted texts

A text stands between quotes or between apostrophes; between three of them it may go over several
lines.  Between quotes a backslash starts an escape, between apostrophes every character stands
for itself.  A line end inside a text is read as a line feed, and a line end right behind the
opening does not count.
-/

namespace Switchyard.Toml

def hexDigit? (c : Char) : Option Nat :=
  if c.isDigit then some (c.toNat - 48)
  else if 'a' ≤ c ∧ c ≤ 'f' then some (c.toNat - 87)
  else if 'A' ≤ c ∧ c ≤ 'F' then some (c.toNat - 55)
  else none

/-- The character whose code point is written by hexadecimal digits. -/
def charOfHex? (cs : List Char) : Option Char := do
  let n ← cs.foldlM (fun n c => (hexDigit? c).map (n * 16 + ·)) 0
  if n.isValidChar then some (Char.ofNat n) else none

/-- The character of an escape, behind its backslash. -/
def escape? : Reader Char
  | 'b' :: cs => some ('\x08', cs)
  | 't' :: cs => some ('\t', cs)
  | 'n' :: cs => some ('\n', cs)
  | 'f' :: cs => some ('\x0c', cs)
  | 'r' :: cs => some ('\r', cs)
  | '"' :: cs => some ('"', cs)
  | '\\' :: cs => some ('\\', cs)
  | 'u' :: a :: b :: c :: d :: cs => (charOfHex? [a, b, c, d]).map (·, cs)
  | 'U' :: a :: b :: c :: d :: e :: f :: g :: h :: cs =>
    (charOfHex? [a, b, c, d, e, f, g, h]).map (·, cs)
  | _ => none

theorem escape?_length {cs rest : List Char} {c : Char} (h : escape? cs = some (c, rest)) :
    rest.length < cs.length := by
  unfold escape? at h
  split at h <;> simp only [Option.map_eq_some_iff, Option.some.injEq, Prod.mk.injEq, reduceCtorEq] at h
  case h_8 | h_9 => obtain ⟨_, _, _, rfl⟩ := h; simp only [List.length_cons]; omega
  all_goals obtain ⟨_, rfl⟩ := h; simp

/-- A text of one line, behind the opening quote. -/
def quoted (cs : List Char) : Option (List Char × List Char) :=
  match cs with
  | [] => none
  | '"' :: rest => some ([], rest)
  | '\\' :: rest =>
    match _h : escape? rest with
    | none => none
    | some (c, after) => (quoted after).map fun (text, end') => (c :: text, end')
  | c :: rest =>
    if isPlain c then (quoted rest).map fun (text, end') => (c :: text, end') else none
termination_by cs.length
decreasing_by
  · have := escape?_length _h
    simp only [List.length_cons]
    omega
  · simp

/-- A text of one line without escapes, behind the opening apostrophe. -/
def verbatim : List Char → Option (List Char × List Char)
  | [] => none
  | '\'' :: rest => some ([], rest)
  | c :: rest => if isPlain c then (verbatim rest).map fun (text, end') => (c :: text, end') else none

/-- The text behind a backslash at the end of a line: the blanks and line ends that follow do not
count. -/
def foldLines : Nat → List Char → List Char
  | 0, cs => cs
  | fuel + 1, cs =>
    match lineEnd? (skipSpaces cs) with
    | some after => foldLines fuel after
    | none => skipSpaces cs

/-- The closing three marks may have up to two marks of the text before them.  `run` is the number
of marks in a row; the result is how many of them belong to the text, or nothing if the text goes
on behind them. -/
def closing? (run : Nat) : Option Nat := if 3 ≤ run ∧ run ≤ 5 then some (run - 3) else none

/-- A text of several lines, behind the three opening marks; `escapes` says whether a backslash
starts an escape. -/
def longText (mark : Char) (escapes : Bool) : Nat → List Char → Option (List Char × List Char)
  | 0, _ => none
  | fuel + 1, cs =>
    let go (c : Char) (rest : List Char) :=
      (longText mark escapes fuel rest).map fun (text, end') => (c :: text, end')
    match cs with
    | [] => none
    | c :: rest =>
      if c == mark then
        let run := (cs.takeWhile (· == mark)).length
        match closing? run with
        | some kept => some (List.replicate kept mark, cs.drop run)
        | none => if run ≤ 2 then go c rest else none
      else if c == '\\' && escapes then
        match lineEnd? (skipSpaces rest) with
        | some after => longText mark escapes fuel (foldLines fuel after)
        | none => (escape? rest).bind fun (e, after) => go e after
      else match lineEnd? cs with
        | some after => go '\n' after
        | none => if isPlain c then go c rest else none

def afterLineEnd (cs : List Char) : List Char := (lineEnd? cs).getD cs

/-- Any of the four kinds of quoted texts. -/
def text : Reader String
  | '"' :: '"' :: '"' :: cs =>
    (longText '"' true (cs.length + 1) (afterLineEnd cs)).map fun (t, rest) => (.ofList t, rest)
  | '\'' :: '\'' :: '\'' :: cs =>
    (longText '\'' false (cs.length + 1) (afterLineEnd cs)).map fun (t, rest) => (.ofList t, rest)
  | '"' :: cs => (quoted cs).map fun (t, rest) => (.ofList t, rest)
  | '\'' :: cs => (verbatim cs).map fun (t, rest) => (.ofList t, rest)
  | _ => none

end Switchyard.Toml
