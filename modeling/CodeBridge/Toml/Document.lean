import CodeBridge.Toml.Value

/-! # Putting a TOML document together

A document is a run of statements: headers that open a table, and assignments to keys of the table
that is open. A table may be given only once. It can be begun by a header for a table inside it, and
finished by its own header later; a table that dotted keys make can only be extended by dotted keys
of the same table, and a table that is given as a value cannot be extended at all. Dotted keys lead
through a table that headers began, and through the last of several tables under one key, but put no
value right into it.
-/

namespace CodeBridge.Toml

/-- How a table came to be. -/
inductive Origin where
  /-- By a header for a table inside it. -/
  | implied
  /-- By a key with dots. -/
  | dotted
  /-- By its own header. -/
  | header
  deriving DecidableEq, Repr

/-- An entry of a document under construction. -/
inductive Node where
  | value (value : Value)
  | table (origin : Origin) (entries : List (String × Node))
  /-- Tables under one key, each opened by its own header. -/
  | tables (items : List (List (String × Node)))
  deriving Inhabited, Repr

/-- The entries of a table under construction. -/
abbrev Entries := List (String × Node)

/-- Puts a new node under a key, in place of any other. -/
def Entries.put (key : String) (node : Node) (entries : Entries) : Entries :=
  (key, node) :: entries.filter (·.1 ≠ key)

/-- Applies a change to the last of some tables. -/
def onLast? (change : Entries → Option Entries) : List Entries → Option (List Entries)
  | [] => none
  | [last] => (change last).map ([·])
  | table :: rest => (onLast? change rest).map (table :: ·)

/-- Gives a value to a key of a table. -/
def assign? (value : Value) : List String → Entries → Option Entries
  | [], _ => none
  | [key], entries =>
    match entries.lookup key with
    | none => some (entries.put key (.value value))
    | some _ => none
  | key :: next :: path, entries =>
    match entries.lookup key with
    | none => do
      let inner ← assign? value (next :: path) []
      some (entries.put key (.table .dotted inner))
    | some (.table .dotted inner) => do
      let inner ← assign? value (next :: path) inner
      some (entries.put key (.table .dotted inner))
    | some (.table .implied inner) =>
      if path.isEmpty then none
      else do
        let inner ← assign? value (next :: path) inner
        some (entries.put key (.table .implied inner))
    | some (.tables items) =>
      if path.isEmpty then none
      else do
        let items ← onLast? (assign? value (next :: path)) items
        some (entries.put key (.tables items))
    | some (.table .header _) | some (.value _) => none

/-- Gives values to keys of a table, in order. -/
def assignAll? (pairs : List (List String × Value)) (entries : Entries) : Option Entries :=
  pairs.foldlM (fun entries (path, value) => assign? value path entries) entries

/-- Finds the table in which the last key of a path lies, and changes the node under that key. -/
def atPath? (change : Option Node → Option Node) : List String → Entries → Option Entries
  | [], _ => none
  | [key], entries => (change (entries.lookup key)).map (entries.put key ·)
  | key :: next :: path, entries =>
    match entries.lookup key with
    | none => do
      let inner ← atPath? change (next :: path) []
      some (entries.put key (.table .implied inner))
    | some (.table origin inner) => do
      let inner ← atPath? change (next :: path) inner
      some (entries.put key (.table origin inner))
    | some (.tables items) => do
      let items ← onLast? (atPath? change (next :: path)) items
      some (entries.put key (.tables items))
    | some (.value _) => none

/-- The table of a header of its own, with its values. -/
def openTable? (pairs : List (List String × Value)) : Option Node → Option Node
  | none => (assignAll? pairs []).map (.table .header)
  | some (.table .implied inner) => (assignAll? pairs inner).map (.table .header)
  | some _ => none

/-- One more table among those of a key, with its values. -/
def openItem? (pairs : List (List String × Value)) : Option Node → Option Node
  | none => (assignAll? pairs []).map fun entries => .tables [entries]
  | some (.tables items) => (assignAll? pairs []).map fun entries => .tables (items ++ [entries])
  | some _ => none

mutual

def Node.toValue : Node → Value
  | .value value => value
  | .table _ entries => .table (valuesOf entries)
  | .tables items => .array (tablesOf items)

def valuesOf : List (String × Node) → List (String × Value)
  | [] => []
  | (key, node) :: entries => (key, node.toValue) :: valuesOf entries

def tablesOf : List (List (String × Node)) → List Value
  | [] => []
  | entries :: items => .table (valuesOf entries) :: tablesOf items

end

/-- The table of the pairs of an inline table. -/
def tableOf? (pairs : List (List String × Value)) : Option (List (String × Value)) :=
  (assignAll? pairs []).map valuesOf

/-- What a line of a document says. -/
inductive Statement where
  | openTable (path : List String)
  | openItem (path : List String)
  | assign (path : List String) (value : Value)
  deriving Repr

/-- The assignments before the next header, and the statements from it on. -/
def leadingPairs : List Statement → List (List String × Value) × List Statement
  | .assign path value :: rest =>
    let (pairs, rest) := leadingPairs rest
    ((path, value) :: pairs, rest)
  | rest => ([], rest)

/-- Adds the tables that the headers of some statements open. An assignment belongs to the header
before it. -/
def addTables? : List Statement → Entries → Option Entries
  | [], entries => some entries
  | .openTable path :: rest, entries => do
    let entries ← atPath? (openTable? (leadingPairs rest).1) path entries
    addTables? rest entries
  | .openItem path :: rest, entries => do
    let entries ← atPath? (openItem? (leadingPairs rest).1) path entries
    addTables? rest entries
  | .assign _ _ :: rest, entries => addTables? rest entries

/-- The top table of a run of statements. -/
def documentOf? (statements : List Statement) : Option (List (String × Value)) := do
  let (pairs, rest) := leadingPairs statements
  let entries ← assignAll? pairs []
  let entries ← addTables? rest entries
  return valuesOf entries

end CodeBridge.Toml
