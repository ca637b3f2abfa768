import FormCheck.Toml.Value

/-!
TOML tables under construction.

A table is made by a header, by a longer header that goes through it, or by a key with dots. How it
was made decides what may still be added: a header may complete a table that only longer headers
went through, keys with dots may extend only what keys with dots have made, and a value that is
complete is never extended.
-/

namespace FormCheck.Toml

/-- How a table came about. -/
inductive Origin where
  /-- By a header of its own, or as the table of the file. -/
  | header
  | passed
  | dotted
deriving DecidableEq, Repr

/-- What stands under a name while a document is read. -/
inductive Node where
  | value (v : Value)
  | table (origin : Origin) (entries : List (String × Node))
  /-- The tables of an array of tables, the latest first. -/
  | tables (items : List Node)

/-- The names of a table under construction, in the order in which they came up. -/
abbrev Entries := List (String × Node)

namespace Node

/-- Changes what stands under a name, which comes last if it is new. The change may fail. -/
def change (name : String) (f : Option Node → Option Node) : Entries → Option Entries
  | [] => (f none).map fun node => [(name, node)]
  | (n, node) :: rest =>
    if n = name then (f (some node)).map fun node => (n, node) :: rest
    else (change name f rest).map ((n, node) :: ·)

/-- Changes the table at the end of a path, making the tables on the way that are missing. On the
way an array of tables stands for its latest table, and a key with dots stops at a table that has a
header. -/
def changeAt (made : Origin) (f : Origin → Entries → Option Entries) :
    List String → Origin → Entries → Option Entries
  | [], origin, entries => f origin entries
  | name :: path, _, entries =>
    change name (fun
      | none => (changeAt made f path made []).map (.table made)
      | some (.table origin entries) =>
        if made = .dotted ∧ origin = .header then none
        else (changeAt made f path origin entries).map (.table origin)
      | some (.tables (.table origin entries :: earlier)) =>
        (changeAt made f path origin entries).map fun entries =>
          .tables (.table origin entries :: earlier)
      | some _ => none) entries

/-- Adds a value under a new name. A key with dots adds only to a table that such a key has made,
and a plain key to any other. -/
def addValue (plain : Bool) (name : String) (v : Value) (origin : Origin) (entries : Entries) :
    Option Entries :=
  if decide (origin = .dotted) == plain then none
  else change name (fun
    | none => some (.value v)
    | some _ => none) entries

/-- The last of the names of a key, and those before it. -/
def splitLast? : List String → Option (List String × String)
  | [] => none
  | [name] => some ([], name)
  | name :: path => (splitLast? path).map fun (before, last) => (name :: before, last)

/-- Adds a value under a key to the table of a header. -/
def addAt (header key : List String) (v : Value) (entries : Entries) : Option Entries := do
  let (path, name) ← splitLast? key
  changeAt .passed (changeAt .dotted (addValue path.isEmpty name v) path) header .header entries

/-- Opens the table of a header. It is new, or only longer headers went through it. -/
def openTable (header : List String) (entries : Entries) : Option Entries := do
  let (path, name) ← splitLast? header
  changeAt .passed (fun _ => change name fun
    | none => some (.table .header [])
    | some (.table .passed entries) => some (.table .header entries)
    | some _ => none) path .header entries

/-- Opens the next table of an array of tables, and the array if there is none. -/
def openItem (header : List String) (entries : Entries) : Option Entries := do
  let (path, name) ← splitLast? header
  changeAt .passed (fun _ => change name fun
    | none => some (.tables [.table .header []])
    | some (.tables items) => some (.tables (.table .header [] :: items))
    | some _ => none) path .header entries

/-- The value that has come about under a name. -/
def toValue : Node → Value
  | .value v => v
  | .table _ entries => .table (entryValues entries)
  | .tables items => .array (itemValues items).reverse
where
  entryValues : List (String × Node) → List (String × Value)
    | [] => []
    | (name, node) :: rest => (name, toValue node) :: entryValues rest
  /-- The values of the tables of an array, in the order in which they are kept. -/
  itemValues : List Node → List Value
    | [] => []
    | node :: rest => toValue node :: itemValues rest

end Node

def Entries.values (entries : Entries) : List (String × Value) :=
  Node.toValue.entryValues entries

/-- The table of pairs that stand between braces. -/
def tableOfPairs? (pairs : List (List String × Value)) : Option Value := do
  let entries ← pairs.foldlM (fun entries (key, v) => Node.addAt [] key v entries) []
  some (.table (Entries.values entries))

end FormCheck.Toml
