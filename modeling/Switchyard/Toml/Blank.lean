import Switchyard.Toml.Value

/-!
# Blanks, line ends and comments

Blanks are the space and the tab; a line ends with a line feed, alone or behind a carriage return;
a comment goes from its mark to the end of the line.
-/

namespace Switchyard.Toml

def isSpace (c : Char) : Bool := c == ' ' || c == '\t'

/-- The characters that stand for themselves in comments and quoted texts. -/
def isPlain (c : Char) : Bool :=
  c == '\t' || (0x20 ≤ c.toNat && c.toNat ≤ 0x7e) || 0x80 ≤ c.toNat

def skipSpaces (cs : List Char) : List Char := cs.dropWhile isSpace

/-- What follows a line end. -/
def lineEnd? : List Char → Option (List Char)
  | '\n' :: cs => some cs
  | '\r' :: '\n' :: cs => some cs
  | _ => none

/-- The text behind a comment, which ends before the line does. -/
def skipComment : List Char → List Char
  | '#' :: cs => cs.dropWhile isPlain
  | cs => cs

/-- The text behind spaces, a comment and the end of the line or of the text. -/
def endLine (cs : List Char) : Option (List Char) :=
  match skipComment (skipSpaces cs) with
  | [] => some []
  | rest => lineEnd? rest

/-- The text behind spaces, comments and line ends; a comment has to end with its line. -/
def skipLayout : Nat → List Char → Option (List Char)
  | 0, cs => some cs
  | fuel + 1, cs =>
    match skipSpaces cs with
    | '#' :: rest => (lineEnd? (rest.dropWhile isPlain)).bind (skipLayout fuel)
    | rest =>
      match lineEnd? rest with
      | some after => skipLayout fuel after
      | none => some rest

end Switchyard.Toml
