/-!
# Blanks

A blank is a character with the Unicode property `White_Space`; there are twenty-five of them.
Trimming drops the blanks at both ends of a text and keeps the rest as it is.
-/

namespace Switchyard

/-- The blank characters, in order. -/
def blanks : List Char :=
  ['\u0009', '\u000a', '\u000b', '\u000c', '\u000d', '\u0020', '\u0085', '\u00a0', '\u1680',
    '\u2000', '\u2001', '\u2002', '\u2003', '\u2004', '\u2005', '\u2006', '\u2007', '\u2008',
    '\u2009', '\u200a', '\u2028', '\u2029', '\u202f', '\u205f', '\u3000']

def isBlank (c : Char) : Bool := blanks.contains c

/-- The text without the blanks at its end. -/
def trimEnd (p : Char → Bool) (cs : List Char) : List Char := (cs.reverse.dropWhile p).reverse

/-- The text without the characters of `p` at either end. -/
def trimBoth (p : Char → Bool) (cs : List Char) : List Char := trimEnd p (cs.dropWhile p)

/-- The text without the blanks at either end. -/
def trim (s : String) : String := String.ofList (trimBoth isBlank s.toList)

theorem trim_toList (s : String) : (trim s).toList = trimBoth isBlank s.toList := by
  simp [trim]

/-- A text of blanks alone. -/
def isBlankText (s : String) : Bool := s.toList.all isBlank

end Switchyard
