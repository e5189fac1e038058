import CompileServer.FileSystem.Basic

/-!
# Listing and removing

What stands in a folder, and taking it away.
-/

namespace CompileServer.FileSystem

/-- The names of what stands in a folder, in order. -/
def namesIn (files : FileSystem) (folder : Place) : List String :=
  let names := files.entries.filterMap fun entry =>
    if entry.1.dropLast = folder then entry.1.getLast? else none
  names.mergeSort fun a b => decide (a ≤ b)

/-- The names of what stands in the folder that a path leads to, if it leads to one. -/
def list (files : FileSystem) (path : Path) : Except FileFault (List String) :=
  match files.find true path with
  | .ok (.folder place) => .ok (files.namesIn place)
  | .ok (.missing _ _) => .error .notFound
  | .ok _ => .error .notFolder
  | .error fault => .error fault

/-- Whether a path names something, which may be a link that leads nowhere. -/
def names (files : FileSystem) (path : Path) : Bool :=
  match files.find false path with
  | .ok (.file _ _ asFolder) => !asFolder
  | .ok (.folder _) => true
  | .ok (.link _) => true
  | _ => false

/-- Takes away what stands at a place and all that stands in it. -/
def removeTree (files : FileSystem) (place : Place) : FileSystem :=
  { files with entries := files.entries.filter fun entry => !place.isPrefixOf entry.1 }

end CompileServer.FileSystem
