import CompileServer.FileSystem.Basic

/-!
# Writing to files that are open

A file is opened once, which fixes its place, and then written to piece by piece.
-/

namespace CompileServer.FileSystem

/-- The place of the file that a path leads to, which is made if it is not there. -/
def openFile (files : FileSystem) (path : Path) : Except FileFault (Place × FileSystem) :=
  (files.placeToWrite path).map fun place =>
    (place, if (files.entry? place).isSome then files else files.put place (.file .empty))

/-- Adds bytes to the file at a place. -/
def extend (files : FileSystem) (place : Place) (bytes : ByteArray) : FileSystem :=
  match files.entry? place with
  | some (.file content) => files.put place (.file (content ++ bytes))
  | _ => files

/-- Whether a path names a link. -/
def hasLink (files : FileSystem) (path : Path) : Bool :=
  match files.find false path with
  | .ok (.link _) => true
  | _ => false

/-- Whether a path leads to a file. -/
def hasFile (files : FileSystem) (path : Path) : Bool :=
  match files.find true path with
  | .ok (.file _ _ asFolder) => !asFolder
  | _ => false

end CompileServer.FileSystem
