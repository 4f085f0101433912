import Switchyard.Text.Split
import Switchyard.Unicode.Bidi
import Switchyard.Unicode.DomainMapping
import Switchyard.Unicode.Joining
import Switchyard.Unicode.Mark
import Switchyard.Unicode.Normal
import Switchyard.Url.Punycode

/-!
# Domain names

A domain name is compared in one form: each character is mapped (case folded, compatibility forms
unified), the result is composed, and the labels between the dots are checked.  A label that
starts with `xn--` stands for the letters that it spells.  `Domain.unify` gives the form, or
nothing for a name that is no domain name.
-/

namespace Switchyard.Url.Domain

def zeroWidthNonJoiner : Char := '\u200c'
def zeroWidthJoiner : Char := '\u200d'

/-- Whether the characters around an invisible non-joiner would join without it. -/
def wouldJoin (before after : List Char) : Bool :=
  let look (cs : List Char) := (cs.dropWhile (joiningType · == .transparent)).head?.map joiningType
  (look before == some .left || look before == some .dual)
    && (look after == some .right || look after == some .dual)

/-- An invisible joiner stands after a virama, and a non-joiner there or between letters that would
join.  The first list is what stands before, the nearest character first. -/
def joinersStand : List Char → List Char → Bool
  | _, [] => true
  | before, c :: cs =>
    let afterVirama := before.head?.any isVirama
    (if c == zeroWidthNonJoiner then afterVirama || wouldJoin before cs
      else if c == zeroWidthJoiner then afterVirama
      else true)
    && joinersStand (c :: before) cs

/-- The characters that make a name subject to the rule on writing directions. -/
def isRightToLeft (c : Char) : Bool :=
  match bidiClass c with
  | .right | .arabicLetter | .arabicNumber => true
  | _ => false

def mayStandLeftToRight : BidiClass → Bool
  | .left | .europeanNumber | .europeanSeparator | .commonSeparator | .europeanTerminator
  | .otherNeutral | .boundaryNeutral | .nonspacing => true
  | _ => false

def mayStandRightToLeft : BidiClass → Bool
  | .right | .arabicLetter | .arabicNumber | .europeanNumber | .europeanSeparator
  | .commonSeparator | .europeanTerminator | .otherNeutral | .boundaryNeutral | .nonspacing => true
  | _ => false

/-- A label is written in the direction of its first letter, holds only what may stand in that
direction, ends in a letter or a number, and has numbers of one kind. -/
def keepsDirection (label : List Char) : Bool :=
  let classes := label.map bidiClass
  let ending := (classes.reverse.dropWhile (· == .nonspacing)).head?
  match classes with
  | [] => true
  | .left :: _ =>
    classes.all mayStandLeftToRight && (ending == some .left || ending == some .europeanNumber)
  | .right :: _ | .arabicLetter :: _ =>
    classes.all mayStandRightToLeft
      && (ending == some .right || ending == some .arabicLetter || ending == some .europeanNumber
        || ending == some .arabicNumber)
      && !(classes.contains .europeanNumber && classes.contains .arabicNumber)
  | _ => false

/-- The ASCII characters that no domain name holds. -/
def isForbidden (c : Char) : Bool :=
  c.toNat ≤ 0x20 || c.toNat == 0x7f || "#%/:<>?@[\\]^|".toList.contains c

def isAscii (cs : List Char) : Bool := cs.all (·.toNat < 0x80)

def longestLabel : Nat := 1000
def longestSpelling : Nat := 2000

def asciiMark : List Char := ['x', 'n', '-', '-']

/-- A label of letters beyond ASCII does not start with a mark, and its joiners stand rightly. -/
def isSound (label : List Char) : Bool :=
  !(label.head?.any isMark) && joinersStand [] label

/-- The letters that a label stands for, or nothing for a label that is no label. -/
def readLabel (label : List Char) : Option (List Char) :=
  if asciiMark.isPrefixOf label then
    let spelling := label.drop 4
    if !isAscii spelling || longestSpelling < spelling.length || spelling.getLast? == some '-' then
      none
    else match Punycode.decode spelling with
      | none => none
      | some letters =>
        if isAscii letters || normalize letters != letters || !isSound letters
            || asciiMark.isPrefixOf letters
            || letters.any (fun c => mapDomainChar c != some [c]) then none
        else some letters
  else if isAscii label then some label
  else if isSound label && label.length ≤ longestLabel then some label
  else none

/-- The one form of a domain name. -/
def unify (name : List Char) : Option (List Char) := do
  let mapped ← name.mapM mapDomainChar
  let composed := normalize mapped.flatten
  if composed.any isForbidden then none
  else
    let labels ← (fields '.' composed).mapM readLabel
    if labels.any (·.any isRightToLeft) && !labels.all keepsDirection then none
    else some (joinFields '.' labels)

end Switchyard.Url.Domain
