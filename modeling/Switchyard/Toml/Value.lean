/-!
# Document values

The values that a configuration document holds.  A table remembers how it was opened, because that
decides what may still be added to it while the document is read.
-/

namespace Switchyard.Toml

/-- How a table was opened: by a header of its own, by the header of a table inside it, by a dotted
key, or as a value between braces. -/
inductive Opening
  | header
  | implied
  | dotted
  | inline
deriving DecidableEq, Repr

/-- A value.  Numbers with a fraction are kept as digits and a power of ten, points of time as they
are written. -/
inductive Value
  | text (s : String)
  | integer (n : Int)
  | decimal (digits : String)
  | boolean (b : Bool)
  | moment (written : String)
  | array (items : List Value)
  | table (opening : Opening) (entries : List (String × Value))
  | tables (items : List (List (String × Value)))
deriving Repr, Inhabited

abbrev Entries := List (String × Value)

/-- A reader takes a value off the front of a text, if there is one. -/
abbrev Reader (α : Type) := List Char → Option (α × List Char)

/-- The value under a name. -/
def lookup (name : String) (entries : Entries) : Option Value :=
  (entries.find? (·.1 == name)).map (·.2)

/-- The entries with another value under a name that they hold. -/
def replaceEntry (name : String) (v : Value) (entries : Entries) : Entries :=
  entries.map fun e => if e.1 == name then (e.1, v) else e

end Switchyard.Toml
