import Switchyard.Toml.Moment
import Switchyard.Toml.Quoted
import Switchyard.Toml.Table

/-!
# Documents

A document is a sequence of lines: a header, a key with its value, or neither.  Values nest, to a
depth below `deepest`; the depth left is what the reader of values recurses on.  `parse` gives the
entries of the document, or nothing for a text that is no document.
-/

namespace Switchyard.Toml

/-- Values nest, and keys have parts, fewer than this number. -/
def deepest : Nat := 80

def isBareKeyChar (c : Char) : Bool := c.isAlphanum || c == '_' || c == '-'

/-- One part of a key: bare, or quoted on one line. -/
def keyPart : Reader String
  | '"' :: cs => (quoted cs).map fun (t, rest) => (.ofList t, rest)
  | '\'' :: cs => (verbatim cs).map fun (t, rest) => (.ofList t, rest)
  | cs =>
    let name := cs.takeWhile isBareKeyChar
    if name.isEmpty then none else some (.ofList name, cs.dropWhile isBareKeyChar)

/-- The parts of a key, with blanks around the dots. -/
def keyParts : Nat → Reader (List String)
  | 0, _ => none
  | fuel + 1, cs => do
    let (part, rest) ← keyPart (skipSpaces cs)
    match skipSpaces rest with
    | '.' :: rest =>
      let (parts, rest) ← keyParts fuel rest
      some (part :: parts, rest)
    | rest => some ([part], rest)

/-- A key: what comes before its last part, and that part. -/
def key : Reader (List String × String) := fun cs => do
  let (parts, rest) ← keyParts (deepest - 1) cs
  let last ← parts.getLast?
  some ((parts.dropLast, last), rest)

/-- The items of an array up to its bracket, behind the opening or a comma; the text is shorter
than the fuel. -/
def arrayItems (item : Reader Value) : Nat → Reader (List Value)
  | 0, _ => none
  | fuel + 1, cs => do
    match ← skipLayout fuel cs with
    | ']' :: rest => some ([], rest)
    | start =>
      let (v, rest) ← item start
      match ← skipLayout fuel rest with
      | ']' :: rest => some ([v], rest)
      | ',' :: rest =>
        let (vs, rest) ← arrayItems item fuel rest
        some (v :: vs, rest)
      | _ => none

/-- A key, an equals sign and a value. -/
def keyValue (item : Reader Value) : Reader ((List String × String) × Value) := fun cs => do
  let (k, rest) ← key cs
  match skipSpaces rest with
  | '=' :: rest =>
    let (v, rest) ← item (skipSpaces rest)
    some ((k, v), rest)
  | _ => none

/-- The entries of a table between braces, behind the opening or a comma. -/
def inlineEntries (item : Reader Value) : Nat → Entries → Reader Entries
  | 0, _, _ => none
  | fuel + 1, entries, cs => do
    let (((path, name), v), rest) ← keyValue item (skipSpaces cs)
    let (_, entries) ← assign path name v .inline entries
    match skipSpaces rest with
    | '\x7d' :: rest => some (entries, rest)
    | ',' :: rest => inlineEntries item fuel entries rest
    | _ => none

/-- A number or a point of time. -/
def number (cs : List Char) : Option (Value × List Char) :=
  match moment cs with
  | .read rest => some (.moment (.ofList (cs.take (cs.length - rest.length))), rest)
  | .broken => none
  | .absent =>
    match decimal cs with
    | some (d, rest) => some (.decimal d, rest)
    | none =>
      match limitNumber cs with
      | some (d, rest) => some (.decimal d, rest)
      | none => (integer cs).map fun (n, rest) => (.integer n, rest)

/-- A value with at most `depth` values around the innermost one. -/
def value : (depth : Nat) → Reader Value
  | depth, cs =>
    match cs with
    | '"' :: _ => (text cs).map fun (s, rest) => (.text s, rest)
    | '\'' :: _ => (text cs).map fun (s, rest) => (.text s, rest)
    | 't' :: 'r' :: 'u' :: 'e' :: rest => some (.boolean true, rest)
    | 'f' :: 'a' :: 'l' :: 's' :: 'e' :: rest => some (.boolean false, rest)
    | '[' :: rest =>
      match depth with
      | 0 => none
      | depth + 1 =>
        (arrayItems (value depth) (rest.length + 1) rest).map fun (vs, rest) => (.array vs, rest)
    | '\x7b' :: rest =>
      match depth with
      | 0 => none
      | depth + 1 =>
        match skipSpaces rest with
        | '\x7d' :: rest => some (.table .inline [], rest)
        | start =>
          (inlineEntries (value depth) (rest.length + 1) [] start).map
            fun (es, rest) => (.table .inline es, rest)
    | _ => number cs

/-- A document as far as it is read: its entries, and the path of the table that keys go into. -/
structure Draft where
  entries : Entries
  current : List String

/-- Changes the table at a path from the root. -/
def Draft.update (d : Draft) (path : List String)
    (change : Opening → Entries → Option (Opening × Entries)) : Option Draft :=
  (updateAt false change path .header d.entries).map fun (_, es) => { d with entries := es }

/-- A header and the rest of its line. -/
def header (d : Draft) : List Char → Option (Draft × List Char)
  | '[' :: '[' :: cs => do
    let ((path, name), rest) ← key cs
    match skipSpaces rest with
    | ']' :: ']' :: rest =>
      let d ← d.update path (openNext name)
      some ({ d with current := path ++ [name] }, ← endLine rest)
    | _ => none
  | '[' :: cs => do
    let ((path, name), rest) ← key cs
    match skipSpaces rest with
    | ']' :: rest =>
      let d ← d.update path (openTable name)
      some ({ d with current := path ++ [name] }, ← endLine rest)
    | _ => none
  | _ => none

/-- A key, its value and the rest of its line. -/
def setting (d : Draft) (cs : List Char) : Option (Draft × List Char) := do
  let (((path, name), v), rest) ← keyValue (value (deepest - 1)) cs
  let d ← d.update d.current (assign path name v)
  some (d, ← endLine rest)

/-- The lines of a document. -/
def parseLines : Nat → Draft → List Char → Option Entries
  | 0, _, _ => none
  | fuel + 1, d, cs =>
    match skipSpaces cs with
    | [] => some d.entries
    | '[' :: rest => do
      let (d, rest) ← header d ('[' :: rest)
      parseLines fuel d rest
    | '#' :: rest => do parseLines fuel d (← endLine ('#' :: rest))
    | start =>
      match lineEnd? start with
      | some rest => parseLines fuel d rest
      | none => do
        let (d, rest) ← setting d start
        parseLines fuel d rest

/-- A mark of the byte order in front does not count. -/
def withoutMark : List Char → List Char
  | '\ufeff' :: cs => cs
  | cs => cs

/-- The entries of a document. -/
def parse (s : String) : Option Entries :=
  let cs := withoutMark s.toList
  parseLines (cs.length + 1) ⟨[], []⟩ cs

end Switchyard.Toml
