import KeyScript.Toml.Value

/-! Building a document's tables from its headers and entries. A table may be named
by one header only, and a dotted key adds only to tables that dotted keys made. -/
namespace KeyScript.Toml

inductive Origin where
  /-- On the way to the table of a header. -/
  | implied
  /-- By its own header. -/
  | header
  /-- By a dotted key. -/
  | dotted
  deriving DecidableEq

inductive Node where
  /-- A value that is complete: nothing can be added to it. -/
  | closed (value : Value)
  | table (origin : Origin) (entries : List (String × Node))
  /-- Tables of one array, newest first. -/
  | tables (items : List (List (String × Node)))

abbrev Entries := List (String × Node)

def put (key : String) (node : Node) : Entries → Entries
  | [] => [(key, node)]
  | (k, n) :: rest => if k == key then (k, node) :: rest else (k, n) :: put key node rest

def find? (key : String) (entries : Entries) : Option Node :=
  (entries.find? (·.1 == key)).map (·.2)

/-- Changes the table at the end of `path`. Tables missing on the way get origin
`fresh`; a dotted key does not pass through a table that has a header. -/
def alter (fresh : Origin) (change : Origin → Entries → Option Entries) :
    List String → Origin → Entries → Option Entries
  | [], origin, entries => change origin entries
  | key :: path, _, entries =>
    match find? key entries with
    | none => (alter fresh change path fresh []).map fun inner => put key (.table fresh inner) entries
    | some (.table origin inner) =>
      if fresh = .dotted ∧ origin = .header then none
      else (alter fresh change path origin inner).map fun inner =>
        put key (.table origin inner) entries
    | some (.tables (newest :: older)) =>
      (alter fresh change path .header newest).map fun inner =>
        put key (.tables (inner :: older)) entries
    | some (.tables []) => none
    | some (.closed _) => none

/-- A dotted key ends in a table that dotted keys made, a plain key in any other table. -/
def insert (root : Origin) (path : List String) (value : Value) (entries : Entries) :
    Option Entries :=
  match path.reverse with
  | [] => none
  | key :: front =>
    let change := fun origin entries =>
      if (origin = .dotted) = (front = []) then none
      else match find? key entries with
        | some _ => none
        | none => some (put key (.closed value) entries)
    alter .dotted change front.reverse root entries

/-- Names a table. One that was only implied so far may still be named. -/
def openTable (path : List String) (entries : Entries) : Option Entries :=
  match path.reverse with
  | [] => none
  | key :: front =>
    let change := fun _ entries =>
      match find? key entries with
      | none => some (put key (.table .header []) entries)
      | some (.table .implied inner) => some (put key (.table .header inner) entries)
      | some _ => none
    alter .implied change front.reverse .header entries

/-- Adds a table to an array of tables. -/
def openItem (path : List String) (entries : Entries) : Option Entries :=
  match path.reverse with
  | [] => none
  | key :: front =>
    let change := fun _ entries =>
      match find? key entries with
      | none => some (put key (.tables [[]]) entries)
      | some (.tables items) => some (put key (.tables ([] :: items)) entries)
      | some _ => none
    alter .implied change front.reverse .header entries

def insertUnder (header path : List String) (value : Value) (entries : Entries) : Option Entries :=
  let change := fun _ inner => insert .header path value inner
  alter .implied change header .header entries

mutual

def Node.value : Node → Value
  | .closed value => value
  | .table _ entries => .table (entryValues entries)
  | .tables items => .array (itemValues items).reverse

def entryValues : List (String × Node) → List (String × Value)
  | [] => []
  | (key, node) :: rest => (key, node.value) :: entryValues rest

def itemValues : List (List (String × Node)) → List Value
  | [] => []
  | entries :: rest => .table (entryValues entries) :: itemValues rest

end

/-- A table written inside braces: all its entries at once. -/
def inlineTable? (entries : List (List String × Value)) : Option Value :=
  (entries.foldlM (fun table (path, value) => insert .header path value table) []).map fun table =>
    .table (entryValues table)

inductive Line where
  | header (path : List String)
  | itemHeader (path : List String)
  | entry (path : List String) (value : Value)

/-- The tables so far, and the path of the header in force. -/
structure Building where
  root : Entries
  header : List String

def Building.add? (b : Building) : Line → Option Building
  | .header path => (openTable path b.root).map (⟨·, path⟩)
  | .itemHeader path => (openItem path b.root).map (⟨·, path⟩)
  | .entry path value => (insertUnder b.header path value b.root).map (⟨·, b.header⟩)

def build? (lines : List Line) : Option (List (String × Value)) :=
  (lines.foldlM Building.add? ⟨[], []⟩).map fun b => entryValues b.root

end KeyScript.Toml
