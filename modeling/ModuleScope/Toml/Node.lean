/-! Configuration documents as trees, and how the lines of a document make a tree. -/

namespace ModuleScope.Toml

/-- How a table came into being, which decides what may still be added to it. -/
inductive TableKind
  /-- Written between braces, and complete. -/
  | closed
  /-- Opened by a header of its own. -/
  | explicit
  /-- Passed on the way to a header. -/
  | implicit
  /-- Passed on the way to a dotted key. -/
  | dotted
deriving DecidableEq, Repr

/-- A value in a document. -/
inductive Node
  /-- A text. -/
  | text (value : String)
  /-- A whole number. -/
  | integer (value : Int)
  /-- A truth value. -/
  | boolean (value : Bool)
  /-- A number with a point or an exponent, or one that is not finite. -/
  | float
  /-- A date, a time or both. -/
  | moment
  /-- A list of values. -/
  | array (elements : List Node)
  /-- A table of values by name. -/
  | table (kind : TableKind) (entries : List (String × Node))
  /-- Tables under one name, last table first. -/
  | tables (elements : List (List (String × Node)))

/-- The names and values of a table. -/
abbrev Entries := List (String × Node)

namespace Entries

/-- Replaces the value of a name, or adds one, unless `change` refuses. -/
def update (key : String) (change : Option Node → Option Node) : Entries → Option Entries
  | [] => (change none).map fun node => [(key, node)]
  | (name, node) :: rest =>
    -- A name occurs only once.
    if name = key then (change (some node)).map fun node => (name, node) :: rest
    else (update key change rest).map ((name, node) :: ·)

/-- Changes the table that a value is or whose last table it is; a missing table is made first. -/
def enter (missing : TableKind) (mayEnter : TableKind → Bool)
    (change : Entries → Option Entries) : Option Node → Option Node
  | none => (change []).map (.table missing)
  | some (.table kind entries) =>
    -- A table that may not be changed any more is refused.
    if mayEnter kind then (change entries).map (.table kind) else none
  | some (.tables (last :: before)) => (change last).map fun last => .tables (last :: before)
  | some _ => none

/-- Adds a value under a dotted key. -/
def assign (key : String) (value : Node) : List String → Entries → Option Entries
  | [], entries => entries.update key fun
    | none => some value
    | some _ => none
  | [last], entries =>
    -- A table that a header made cannot be added to by dotted keys.
    entries.update last fun
      | none => some (.table .dotted [(key, value)])
      | some (.table .dotted inner) => (assign key value [] inner).map (.table .dotted)
      | some _ => none
  | step :: rest, entries =>
    entries.update step
      (enter .dotted (fun kind => kind = .implicit || kind = .dotted) (assign key value rest))

/-- Changes the table that a header's path leads to. -/
def descend (change : Entries → Option Entries) : List String → Entries → Option Entries
  | [], entries => change entries
  | step :: rest, entries =>
    -- Headers pass every table but those between braces.
    entries.update step (enter .implicit (· ≠ .closed) (descend change rest))

/-- Makes the table of a header; one that was only passed before may be opened now. -/
def openTable (key : String) (entries : Entries) : Option Entries :=
  entries.update key fun
    | none => some (.table .explicit [])
    | some (.table .implicit inner) => some (.table .explicit inner)
    | some _ => none

/-- Adds a table to those under one name. -/
def openElement (key : String) (entries : Entries) : Option Entries :=
  entries.update key fun
    | none => some (.tables [[]])
    | some (.tables elements) => some (.tables ([] :: elements))
    | some _ => none

/-- The table of pairs of a dotted key, split before its last name, and a value. -/
def ofPairs (pairs : List ((List String × String) × Node)) : Option Entries :=
  pairs.foldlM (fun entries pair => assign pair.1.2 pair.2 pair.1.1 entries) []

end Entries

/-- What one line of a document says; the last name of a key or header stands apart. -/
inductive Statement
  /-- A header: the keys that follow belong to this table. -/
  | table (path : List String) (key : String)
  /-- A header that starts another table under one name. -/
  | element (path : List String) (key : String)
  /-- A key and its value. -/
  | assign (path : List String) (key : String) (value : Node)

/-- A document that is being read: the whole and the header in force. -/
structure Document where
  /-- The table of everything. -/
  root : Entries := []
  /-- The names that lead to the current table. -/
  current : List String := []

namespace Document

/-- Takes account of one line. -/
def add (document : Document) : Statement → Option Document
  | .table path key =>
    (document.root.descend (Entries.openTable key) path).map (⟨·, path ++ [key]⟩)
  | .element path key =>
    (document.root.descend (Entries.openElement key) path).map (⟨·, path ++ [key]⟩)
  | .assign path key value =>
    (document.root.descend (Entries.assign key value path) document.current).map
      (⟨·, document.current⟩)

/-- The table that the lines of a document make. -/
def ofStatements (statements : List Statement) : Option Entries := do
  -- The lines are taken in order.
  some (← statements.foldlM add {}).root

end Document

end ModuleScope.Toml
