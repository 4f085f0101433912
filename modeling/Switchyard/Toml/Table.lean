import Switchyard.Toml.Value

/-!
# Growing tables

A document adds to its tables line by line.  A header opens the table at its path and the tables
on the way; a dotted key opens the tables on its way inside the current table.  A table that a
header or braces have opened is not opened by a dotted key, nothing is opened twice by headers,
and no key is set twice.
-/

namespace Switchyard.Toml

/-- Changes the table at the end of a path that starts at a table; an array of tables on the way
stands for its last table.  `dotted` says that the path is part of a dotted key. -/
def updateAt (dotted : Bool) (change : Opening → Entries → Option (Opening × Entries)) :
    List String → Opening → Entries → Option (Opening × Entries)
  | [], opening, entries => change opening entries
  | name :: path, opening, entries =>
    match lookup name entries with
    | none => do
      let (o, es) ← updateAt dotted change path (if dotted then .dotted else .implied) []
      some (opening, entries ++ [(name, .table o es)])
    | some (.table .inline _) => none
    | some (.table inner es) =>
      if dotted && inner == .header then none
      else do
        let (o, es) ← updateAt dotted change path inner es
        some (opening, replaceEntry name (.table o es) entries)
    | some (.tables items) =>
      match items.getLast? with
      | none => none
      | some es => do
        let (_, es) ← updateAt dotted change path .header es
        some (opening, replaceEntry name (.tables (items.dropLast ++ [es])) entries)
    | some _ => none

/-- Sets a key that is not there yet. -/
def setKey (name : String) (v : Value) (entries : Entries) : Option Entries :=
  if (lookup name entries).isSome then none else some (entries ++ [(name, v)])

/-- Sets a key, behind the further keys of a dotted key.  What a dotted key adds to is a table that
dotted keys have opened. -/
def assign (path : List String) (name : String) (v : Value) (opening : Opening)
    (entries : Entries) : Option (Opening × Entries) :=
  updateAt true (fun o es =>
    if (o == .dotted) == path.isEmpty then none else (setKey name v es).map (o, ·))
    path opening entries

/-- Opens the table of a header. -/
def openTable (name : String) (opening : Opening) (entries : Entries) :
    Option (Opening × Entries) :=
  match lookup name entries with
  | none => some (opening, entries ++ [(name, .table .header [])])
  | some (.table .implied es) => some (opening, replaceEntry name (.table .header es) entries)
  | some _ => none

/-- Adds a table to the array of a doubled header. -/
def openNext (name : String) (opening : Opening) (entries : Entries) : Option (Opening × Entries) :=
  match lookup name entries with
  | none => some (opening, entries ++ [(name, .tables [[]])])
  | some (.tables items) => some (opening, replaceEntry name (.tables (items ++ [[]])) entries)
  | some _ => none

end Switchyard.Toml
