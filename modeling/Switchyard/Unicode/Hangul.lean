/-!
# Korean syllables

The eleven thousand syllables of the Korean script have no table: a syllable is numbered by its
leading consonant, its vowel and its trailing consonant, or by the first two alone.  `split` takes
a syllable apart and `join` puts two parts together.
-/

namespace Switchyard.Hangul

def firstSyllable : Nat := 0xAC00
def firstLeading : Nat := 0x1100
def firstVowel : Nat := 0x1161

/-- The code point before the first trailing consonant; the number zero means there is none. -/
def beforeTrailing : Nat := 0x11A7

def leadings : Nat := 19
def vowels : Nat := 21
def trailings : Nat := 28

/-- The number of a syllable among all syllables. -/
def index? (c : Char) : Option Nat :=
  if firstSyllable ≤ c.toNat ∧ c.toNat < firstSyllable + leadings * vowels * trailings then
    some (c.toNat - firstSyllable)
  else none

/-- The consonants and the vowel of a syllable. -/
def split (c : Char) : Option (List Char) :=
  (index? c).map fun i =>
    let lead := Char.ofNat (firstLeading + i / (vowels * trailings))
    let vowel := Char.ofNat (firstVowel + i % (vowels * trailings) / trailings)
    if i % trailings = 0 then [lead, vowel]
    else [lead, vowel, Char.ofNat (beforeTrailing + i % trailings)]

/-- The syllable of a leading consonant and a vowel, or of a syllable without a trailing consonant
and one. -/
def join (a b : Char) : Option Char :=
  if firstLeading ≤ a.toNat ∧ a.toNat < firstLeading + leadings
      ∧ firstVowel ≤ b.toNat ∧ b.toNat < firstVowel + vowels then
    let i := (a.toNat - firstLeading) * vowels + (b.toNat - firstVowel)
    some (Char.ofNat (firstSyllable + i * trailings))
  else match index? a with
    | some i =>
      if i % trailings = 0 ∧ beforeTrailing < b.toNat ∧ b.toNat < beforeTrailing + trailings then
        some (Char.ofNat (a.toNat + (b.toNat - beforeTrailing)))
      else none
    | none => none

end Switchyard.Hangul
