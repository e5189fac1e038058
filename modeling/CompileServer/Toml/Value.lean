import CompileServer.Json.Draft

/-!
# Configuration documents

A configuration document is a table of values.  While it is read, a table remembers
how it came to be, because that decides who may still add to it.
-/

namespace CompileServer.Toml

/-- A value of a configuration document. -/
inductive Value where
  | str (text : String)
  | int (value : Int)
  | float (value : Binary64)
  | bool (value : Bool)
  /-- A date, a time or both, as it is written. -/
  | moment (text : String)
  | arr (items : List Value)
  | table (entries : List (String × Value))

/-- The entries of a table. -/
abbrev Table := List (String × Value)

/-- The key under which a date or time shows when a table is wanted. -/
def momentKey : String := "$moment"

mutual

/-- The value as a draft to be decoded. -/
def Value.toDraft : Value → Draft
  | .str text => .str text
  | .int value => .num (.whole value)
  | .float value => .num (.fractional value)
  | .bool value => .bool value
  | .moment text => .obj [(some momentKey, .str text)] true
  | .arr items => .arr (draftsOf items) true
  | .table entries => .obj (membersOf entries) true

/-- The drafts of items. -/
def draftsOf : List Value → List Draft
  | [] => []
  | item :: rest => item.toDraft :: draftsOf rest

/-- The drafts of entries. -/
def membersOf : List (String × Value) → List (Option String × Draft)
  | [] => []
  | (key, value) :: rest => (some key, value.toDraft) :: membersOf rest

end

/-- How a table came to be. -/
inductive Origin where
  /-- It was passed through by the header of another table. -/
  | passed
  /-- It was passed through by a dotted key. -/
  | dotted
  /-- It has a header of its own. -/
  | opened
deriving DecidableEq, Repr

/-- An entry of a document that is being read. -/
inductive Node where
  | value (value : Value)
  | table (origin : Origin) (entries : List (String × Node))
  /-- Tables that share a header; only the last one is still open. -/
  | tables (elements : List (List (String × Node)))

/-- The entries of a table that is being read. -/
abbrev Nodes := List (String × Node)

mutual

/-- The value that was read. -/
def Node.toValue : Node → Value
  | .value value => value
  | .table _ entries => .table (entriesOf entries)
  | .tables elements => .arr (elementsOf elements)

/-- The entries that were read. -/
def entriesOf : List (String × Node) → Table
  | [] => []
  | (key, node) :: rest => (key, node.toValue) :: entriesOf rest

/-- The tables that were read. -/
def elementsOf : List (List (String × Node)) → List Value
  | [] => []
  | element :: rest => .table (entriesOf element) :: elementsOf rest

end

namespace Nodes

/-- Replaces the entry under a key, or adds one. -/
def put (key : String) (node : Node) : Nodes → Nodes
  | [] => [(key, node)]
  | entry :: rest => if entry.1 = key then (key, node) :: rest else entry :: put key node rest

/-- Changes the table that a header leads to, making tables on the way. -/
def changeAt (change : Nodes → Option Nodes) : List String → Nodes → Option Nodes
  | [], nodes => change nodes
  | key :: path, nodes =>
    match List.lookup key nodes with
    | none => (changeAt change path []).map fun made => put key (.table .passed made) nodes
    | some (.table origin entries) =>
      (changeAt change path entries).map fun changed => put key (.table origin changed) nodes
    | some (.tables elements) =>
      match elements.getLast? with
      | none => none
      | some last =>
        (changeAt change path last).map fun changed =>
          put key (.tables (elements.dropLast ++ [changed])) nodes
    | some (.value _) => none

/-- Opens the table with the given name. -/
def openTable (name : String) (nodes : Nodes) : Option Nodes :=
  match List.lookup name nodes with
  | none => some (put name (.table .opened []) nodes)
  | some (.table .passed entries) => some (put name (.table .opened entries) nodes)
  | some _ => none

/-- Opens one more of the tables with the given name. -/
def openElement (name : String) (nodes : Nodes) : Option Nodes :=
  match List.lookup name nodes with
  | none => some (put name (.tables [[]]) nodes)
  | some (.tables elements) => some (put name (.tables (elements ++ [[]])) nodes)
  | some _ => none

/-- Adds a value under a dotted key to a table.  A table with a header of its own or one
that a header passed through takes no value under a dotted key. -/
def addDotted (name : String) (value : Value) : Origin → List String → Nodes → Option Nodes
  | origin, [], nodes =>
    if origin = .dotted && (List.lookup name nodes).isNone then
      some (put name (.value value) nodes)
    else none
  | _, key :: path, nodes =>
    match List.lookup key nodes with
    | none =>
      (addDotted name value .dotted path []).map fun made => put key (.table .dotted made) nodes
    | some (.table .opened _) => none
    | some (.table origin entries) =>
      (addDotted name value origin path entries).map fun changed =>
        put key (.table origin changed) nodes
    | some (.tables elements) =>
      match elements.getLast? with
      | none => none
      | some last =>
        (addDotted name value .opened path last).map fun changed =>
          put key (.tables (elements.dropLast ++ [changed])) nodes
    | some (.value _) => none

/-- Adds a value under a key, dotted or not, to a table. -/
def add (path : List String) (name : String) (value : Value) (nodes : Nodes) : Option Nodes :=
  match path with
  | [] => if (List.lookup name nodes).isNone then some (put name (.value value) nodes) else none
  | path => addDotted name value .opened path nodes

end Nodes

end CompileServer.Toml
