import Std.Data.HashMap
import Switchyard.Unicode.CombiningClass
import Switchyard.Unicode.Decomposition
import Switchyard.Unicode.Hangul

/-!
# The composed normal form

Texts that differ only in how accents are attached have one composed form: take every character
apart (`decompose`), put the marks after each base character into the order of their classes
(`orderMarks`), and put together again what composes (`compose`).
-/

namespace Switchyard

/-- The parts of a character.  A composed character is a composed one and one mark, so the number
of steps is the number of its marks, of which there are at most three. -/
def decomposeChar : Nat → Char → List Char
  | 0, c => [c]
  | fuel + 1, c =>
    match Hangul.split c with
    | some parts => parts
    | none =>
      let r := decompositionTable.runOf c
      match r.kind, r.args with
      | 'D', [a, b] => decomposeChar fuel (Char.ofNat a) ++ [Char.ofNat b]
      | 'E', parts => parts.map Char.ofNat
      | _, _ => [c]

def decompose (cs : List Char) : List Char := cs.flatMap (decomposeChar 8)

/-- Puts a character before a text whose marks are in order. -/
def insertMark (c : Char) : List Char → List Char
  | [] => [c]
  | d :: ds =>
    if 0 < combiningClass d ∧ combiningClass d < combiningClass c then d :: insertMark c ds
    else c :: d :: ds

/-- The text with the marks of each base character in the order of their classes. -/
def orderMarks (cs : List Char) : List Char := cs.foldr insertMark []

theorem insertMark_perm (c : Char) : ∀ cs : List Char, (insertMark c cs).Perm (c :: cs)
  | [] => .refl _
  | d :: ds => by
    simp only [insertMark]
    split
    · exact ((insertMark_perm c ds).cons d).trans (.swap c d ds)
    · exact .refl _

/-- Ordering the marks keeps every character. -/
theorem orderMarks_perm : ∀ cs : List Char, (orderMarks cs).Perm cs
  | [] => .refl _
  | c :: cs => (insertMark_perm c _).trans ((orderMarks_perm cs).cons c)

/-- The characters that compose from a pair. -/
def compositions : Std.HashMap (Nat × Nat) Char :=
  decompositionTable.runs.foldl (fun m r =>
    match r.kind, r.args with
    | 'D', [a, b] => m.insert (a, b) (Char.ofNat r.start)
    | _, _ => m) ∅

def composePair (a b : Char) : Option Char :=
  match Hangul.join a b with
  | some c => some c
  | none => compositions[(a.toNat, b.toNat)]?

/-- Puts together what composes.  `base` is the base character at hand, `marks` are the marks kept
after it, the last one first: a mark reaches the base if all kept marks have smaller classes. -/
def composeFrom (base : Char) (marks : List Char) : List Char → List Char
  | [] => base :: marks.reverse
  | c :: cs =>
    let reaches := match marks with
      | [] => true
      | m :: _ => combiningClass m < combiningClass c
    match if reaches then composePair base c else none with
    | some d => composeFrom d marks cs
    | none =>
      if combiningClass c = 0 then base :: marks.reverse ++ composeFrom c [] cs
      else composeFrom base (c :: marks) cs

/-- The text with all that composes put together; marks without a base stay in front. -/
def compose : List Char → List Char
  | [] => []
  | c :: cs => if combiningClass c = 0 then composeFrom c [] cs else c :: compose cs

/-- The composed normal form. -/
def normalize (cs : List Char) : List Char :=
  if cs.all (·.toNat < 0x80) then cs else compose (orderMarks (decompose cs))

end Switchyard
