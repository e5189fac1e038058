import CompileServer.FileSystem.Save
import CompileServer.Json.Basic
import CompileServer.Path.Basic

/-!
# Scripted worlds

A scripted world answers every call of a collaborator from tables and writes down
which calls were made.  A table is found by its name and an entry of it by the
exact spelling of a path.
-/

namespace CompileServer.Scripted

/-- The tables, the calls made so far and the files. -/
structure World where
  tables : Json.Members
  /-- The files whose jobs are held back. -/
  gates : List String
  /-- How often options were derived. -/
  derivations : Nat
  /-- The calls made on behalf of the store, oldest first. -/
  calls : List Json
  /-- The calls made by jobs, oldest first. -/
  emissions : List Json
  files : FileSystem

namespace World

/-- The world without tables. -/
def empty (files : FileSystem) : World :=
  ⟨[], [], 0, [], [], files⟩

/-- The entry of a table; `null` is no entry. -/
def entry? (world : World) (table key : String) : Option Json :=
  match ((Json.Members.find? world.tables table).getD .null).member? key with
  | some .null => none
  | found => found

/-- The texts of a list of texts. -/
def textsOf : Json → List String
  | .arr items => items.filterMap fun item => match item with
    | .str text => some text
    | _ => none
  | _ => []

/-- The entry of a table that lists causes, if it lists any. -/
def causes? (world : World) (table key : String) : Option (List String) :=
  match (world.entry? table key).map textsOf with
  | some (first :: more) => some (first :: more)
  | _ => none

/-- Merges the entries of a table into another; `null` removes an entry. -/
def mergeTable (old : Json.Members) (patch : Json.Members) : Json.Members :=
  patch.foldl (fun merged entry => match entry.2 with
    | .null => merged.erase entry.1
    | value => Json.Members.insert entry.1 value merged) old

/-- Merges tables into the world entry by entry, and adds gates. -/
def merge (world : World) (patch : Json) : World :=
  match patch with
  | .obj tables => tables.foldl (fun world table =>
      if table.1 = "gates" then { world with gates := world.gates ++ textsOf table.2 }
      else
        let old := match Json.Members.find? world.tables table.1 with
          | some (.obj members) => members
          | _ => []
        match table.2 with
        | .obj entries =>
          { world with
            tables := Json.Members.insert table.1 (.obj (mergeTable old entries)) world.tables }
        | _ => world) world
  | _ => world

/-- Lets the jobs of a file go on. -/
def openGate (world : World) (file : String) : World :=
  { world with gates := world.gates.filter (· != file) }

/-- Whether the jobs of a file are held back. -/
def isGated (world : World) (file : Path) : Bool :=
  world.gates.contains file.text

/-- Writes a call down. -/
def record (world : World) (call : Json) : World :=
  { world with calls := world.calls ++ [call] }

/-- Writes a call of a job down. -/
def recordEmission (world : World) (call : Json) : World :=
  { world with emissions := world.emissions ++ [call] }

end World

end CompileServer.Scripted
