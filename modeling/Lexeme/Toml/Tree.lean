import Lexeme.Toml.Value

/-!
# Tables of a TOML document

Building the table of a document, statement by statement. A table comes to be by a header of its
own, on the way to a header further down, or on the way of a dotted key; which of them it was decides
what may still be added to it and how.
-/

set_option autoImplicit false
set_option relaxedAutoImplicit false

namespace Lexeme.Toml

/-- How a table came to be. -/
inductive Origin where
  /-- By its own header. -/
  | header
  /-- On the way to a header further down. -/
  | passage
  /-- On the way of a dotted key. -/
  | dotted
  deriving Repr, DecidableEq

/-- A part of a document that is still being built. Of the entries of one table and of the tables of
one array the latest comes first. -/
inductive Node where
  | leaf (value : Value)
  | table (origin : Origin) (entries : List (String × Node))
  | tables (items : List (List (String × Node)))
  deriving Inhabited

/-- What a table holds while it is being built. -/
abbrev Entries := List (String × Node)

namespace Entries

/-- Puts a node in the place of the one under its key. -/
def replace (key : String) (node : Node) : Entries → Entries
  | [] => []
  | entry :: entries =>
    if entry.1 == key then (key, node) :: entries else entry :: replace key node entries

/-- Sets a value under a dotted key. Every table on the way must have come to be by dotted keys or on
the way to a header, and the last one by dotted keys; nothing may be under the key itself. -/
def assign (value : Value) : List String → Entries → Option Entries
  | [], _ => none
  | [key], entries =>
    match entries.lookup key with
    | none => some ((key, .leaf value) :: entries)
    | some _ => none
  | key :: next :: path, entries =>
    match entries.lookup key with
    | none =>
      (assign value (next :: path) []).map fun inner ↦ (key, .table .dotted inner) :: entries
    | some (.table .dotted inner) =>
      (assign value (next :: path) inner).map fun inner ↦ entries.replace key (.table .dotted inner)
    | some (.table .passage inner) =>
      if path.isEmpty then none
      else
        (assign value (next :: path) inner).map fun inner ↦
          entries.replace key (.table .passage inner)
    | some (.tables (latest :: earlier)) =>
      if path.isEmpty then none
      else
        (assign value (next :: path) latest).map fun latest ↦
          entries.replace key (.tables (latest :: earlier))
    | _ => none

/-- Changes the table at a path. Tables that are missing on the way come to be; of an array of tables
the latest is entered. -/
def change (step : Entries → Option Entries) : List String → Entries → Option Entries
  | [], entries => step entries
  | key :: path, entries =>
    match entries.lookup key with
    | none => (change step path []).map fun inner ↦ (key, .table .passage inner) :: entries
    | some (.table origin inner) =>
      (change step path inner).map fun inner ↦ entries.replace key (.table origin inner)
    | some (.tables (latest :: earlier)) =>
      (change step path latest).map fun latest ↦
        entries.replace key (.tables (latest :: earlier))
    | _ => none

/-- Starts a table of its own under a key. It may exist only on the way to a header. -/
def startTable (key : String) (entries : Entries) : Option Entries :=
  match entries.lookup key with
  | none => some ((key, .table .header []) :: entries)
  | some (.table .passage inner) => some (entries.replace key (.table .header inner))
  | _ => none

/-- Starts one more table of an array of tables under a key. -/
def startItem (key : String) (entries : Entries) : Option Entries :=
  match entries.lookup key with
  | none => some ((key, .tables [[]]) :: entries)
  | some (.tables items) => some (entries.replace key (.tables ([] :: items)))
  | _ => none

end Entries

mutual

/-- The value that a finished part stands for. -/
def Node.toValue : Node → Value
  | .leaf value => value
  | .table _ entries => .table (entriesValue entries).reverse
  | .tables items => .array (itemsValue items).reverse

def entriesValue : List (String × Node) → List (String × Value)
  | [] => []
  | (key, node) :: entries => (key, node.toValue) :: entriesValue entries

def itemsValue : List (List (String × Node)) → List Value
  | [] => []
  | item :: items => .table (entriesValue item).reverse :: itemsValue items

end

/-- One statement of a document. -/
inductive Statement where
  | header (path : List String)
  | item (path : List String)
  | assign (path : List String) (value : Value)

/-- A document under construction: what it holds, and the path of the table that values go into. -/
structure Draft where
  entries : Entries
  current : List String

namespace Draft

/-- Nothing is stated yet. -/
def empty : Draft := ⟨[], []⟩

/-- Takes in one statement. -/
def add (draft : Draft) : Statement → Option Draft
  | .header path => do
    let entries ← draft.entries.change (Entries.startTable (← path.getLast?)) path.dropLast
    some ⟨entries, path⟩
  | .item path => do
    let entries ← draft.entries.change (Entries.startItem (← path.getLast?)) path.dropLast
    some ⟨entries, path⟩
  | .assign path value => do
    let entries ← draft.entries.change (Entries.assign value path) draft.current
    some { draft with entries }

end Draft

/-- The table that statements make up. -/
def tableOf? (statements : List Statement) : Option Value := do
  let draft ← statements.foldlM Draft.add .empty
  some (.table (entriesValue draft.entries).reverse)

end Lexeme.Toml
