import Switchyard.Toml.Value

/-!
# Numbers

Whole numbers have 64 bits and may be written in base 2, 8, 10 or 16; an underscore may stand
between two digits.  Numbers with a fraction or an exponent are kept as their digits and a power of
ten, but one that is too large for a double is refused.
-/

namespace Switchyard.Toml

/-- The digits in front, at least one, with underscores between them left out. -/
def digits (isDigit : Char → Bool) : List Char → Option (List Char × List Char)
  | [] => none
  | c :: cs => if isDigit c then more c cs else none
where
  /-- The digits after `first`. -/
  more (first : Char) : List Char → Option (List Char × List Char)
    | [] => some ([first], [])
    | '_' :: [] => none
    | '_' :: d :: cs =>
      if isDigit d then (more d cs).map fun (ds, rest) => (first :: ds, rest) else none
    | d :: cs =>
      if isDigit d then (more d cs).map fun (ds, rest) => (first :: ds, rest)
      else some ([first], d :: cs)

def digitOf (c : Char) : Nat :=
  if c.isDigit then c.toNat - 48 else c.toLower.toNat - 87

/-- The number that digits of a base write. -/
def ofDigits (base : Nat) (ds : List Char) : Nat := ds.foldl (fun n c => n * base + digitOf c) 0

def isDigitBelow (base : Nat) (c : Char) : Bool :=
  (c.isDigit || (('a' ≤ c) && (c ≤ 'f')) || (('A' ≤ c) && (c ≤ 'F'))) && digitOf c < base

/-- The sign in front, if there is one: whether it is a minus. -/
def sign : List Char → Option Bool × List Char
  | '+' :: cs => (some false, cs)
  | '-' :: cs => (some true, cs)
  | cs => (none, cs)

/-- Decimal digits without a leading zero. -/
def wholeDigits : Reader (List Char)
  | '0' :: cs => some (['0'], cs)
  | cs => digits Char.isDigit cs

def fitsWord (n : Int) : Bool := -0x8000000000000000 ≤ n && n < 0x8000000000000000

def based (base : Nat) (cs : List Char) : Option (Int × List Char) := do
  let (ds, rest) ← digits (isDigitBelow base) cs
  let n := ofDigits base ds
  if fitsWord n then some (n, rest) else none

def integer : Reader Int
  | '0' :: 'x' :: cs => based 16 cs
  | '0' :: 'o' :: cs => based 8 cs
  | '0' :: 'b' :: cs => based 2 cs
  | cs => do
    let (minus, cs) := sign cs
    let (ds, rest) ← wholeDigits cs
    let n : Int := if minus == some true then -(ofDigits 10 ds) else ofDigits 10 ds
    if fitsWord n then some (n, rest) else none

/-- Whether `n * 10 ^ e` is at least half a unit above the largest double. -/
def exceedsDouble (n : Nat) (e : Int) : Bool :=
  let places : Int := (toString n).length + e
  if n = 0 || places < 300 then false
  else if 320 < places then true
  else
    let limit := Nat.pow 2 1024 - Nat.pow 2 970
    let scale := Nat.pow 10 e.natAbs
    if e < 0 then limit * scale ≤ n else limit ≤ n * scale

/-- The fraction behind a point; none if there is no point. -/
def fraction : List Char → Option (Option (List Char) × List Char)
  | '.' :: cs => (digits Char.isDigit cs).map fun (ds, rest) => (some ds, rest)
  | cs => some (none, cs)

/-- The exponent behind its letter; none if there is no letter. -/
def exponent : List Char → Option (Option Int × List Char)
  | c :: cs =>
    if c == 'e' || c == 'E' then
      let (minus, cs) := sign cs
      (digits Char.isDigit cs).map fun (ds, rest) =>
        (some (if minus == some true then -(ofDigits 10 ds : Int) else ofDigits 10 ds), rest)
    else some (none, c :: cs)
  | [] => some (none, [])

def minusSign (minus : Option Bool) : List Char := if minus == some true then ['-'] else []

/-- A number with a fraction, an exponent or both, as its digits and the power of ten that they are
multiplied by. -/
def decimal (cs : List Char) : Option (String × List Char) := do
  let (minus, start) := sign cs
  let (whole, afterWhole) ← wholeDigits start
  let (frac, afterFrac) ← fraction afterWhole
  let (exp, rest) ← exponent afterFrac
  if frac.isNone && exp.isNone then none
  else
    let ds := whole ++ frac.getD []
    let power := exp.getD 0 - ((frac.getD []).length : Int)
    if exceedsDouble (ofDigits 10 ds) power && minus != some true then none
    else some (String.ofList (minusSign minus ++ ds) ++ "e" ++ toString power, rest)

/-- The two numbers that no digits write. -/
def limitNumber (cs : List Char) : Option (String × List Char) :=
  let (minus, start) := sign cs
  match start with
  | 'i' :: 'n' :: 'f' :: rest => some (String.ofList (minusSign minus ++ ['i', 'n', 'f']), rest)
  | 'n' :: 'a' :: 'n' :: rest => some ("nan", rest)
  | _ => none

end Switchyard.Toml
