import Switchyard.Text.Blank
import Switchyard.Text.Split

/-!
# Schemes

A URL may name its scheme in front of the mark `://`.  A scheme is a letter followed by letters,
digits, `+`, `-` and `.` (`isScheme`).  An address without the mark is given a scheme
(`withScheme`).
-/

namespace Switchyard.Url

def schemeMark : List Char := [':', '/', '/']

def isSchemeChar (c : Char) : Bool := c.isAlphanum || c == '+' || c == '-' || c == '.'

/-- A letter, then letters, digits, `+`, `-` and `.`. -/
def isScheme : List Char → Bool
  | [] => false
  | c :: cs => c.isAlpha && cs.all isSchemeChar

/-- The address without the blanks around it, behind a scheme unless the mark occurs in it. -/
def withSchemeChars (scheme address : List Char) : List Char :=
  let address := trimBoth isBlank address
  if occurs schemeMark address then address else scheme ++ schemeMark ++ address

def withScheme (scheme address : String) : String :=
  String.ofList (withSchemeChars scheme.toList address.toList)

end Switchyard.Url
