import CompileServer.FileSystem.Fault
import CompileServer.Path.Basic

/-!
# Files

A file system maps places to files, links and folders.  A place is the list of
names that lead to it from the root.  Looking a path up follows links and keeps
at every moment to a folder that exists.
-/

namespace CompileServer

/-- What stands at a place. -/
inductive FileEntry where
  | file (content : ByteArray)
  | link (target : String)
  | folder

/-- The names that lead from the root to a place. -/
abbrev Place := List String

/-- Files, links and folders by place, and the folder that relative paths start from. -/
structure FileSystem where
  entries : List (Place × FileEntry)
  current : Place

namespace FileSystem

/-- What stands at a place; the root is a folder. -/
def entry? (files : FileSystem) (place : Place) : Option FileEntry :=
  if place = [] then some .folder else files.entries.lookup place

/-- Puts something at a place. -/
def put (files : FileSystem) (place : Place) (entry : FileEntry) : FileSystem :=
  { files with
    entries := (place, entry) :: files.entries.filter fun found => found.1 != place }

/-- What a path leads to; `asFolder` says that a slash follows the name, as if it were that of
a folder. -/
inductive Found where
  /-- A file with its content. -/
  | file (place : Place) (content : ByteArray) (asFolder : Bool)
  /-- A folder. -/
  | folder (place : Place)
  /-- A link that was not to be followed. -/
  | link (place : Place)
  /-- Nothing, but its folder is there. -/
  | missing (place : Place) (asFolder : Bool)

/-- The names in a text between slashes. -/
def namesOf (text : String) : List String :=
  (Path.pieces text.toList).map String.ofList

/-- The most links that one path may lead through. -/
def linkLimit : Nat := 40

/-- The most bytes of a name. -/
def nameLimit : Nat := 255

/-- The bytes of a path may not reach this number. -/
def pathLimit : Nat := 4096

/-- Follows names from a folder, through at most `links` links; the last link is followed
only if `follows`. -/
def walk (files : FileSystem) (follows : Bool) (links : Nat) (folder : Place)
    (names : List String) : Except FileFault Found :=
  match names with
  | [] => .ok (.folder folder)
  | name :: rest =>
    if name = "" || name = "." then walk files follows links folder rest
    else if name = ".." then walk files follows links folder.dropLast rest
    else if nameLimit < name.utf8ByteSize then .error .nameTooLong
    else
      let place := folder ++ [name]
      match files.entry? place with
      | none =>
        if rest.all (· = "") then .ok (.missing place (!rest.isEmpty)) else .error .notFound
      | some .folder => walk files follows links place rest
      | some (.file content) =>
        if rest.all (· = "") then .ok (.file place content (!rest.isEmpty)) else .error .notFolder
      | some (.link target) =>
        if rest.isEmpty && !follows then .ok (.link place)
        else match links with
          | 0 => .error .tooManyLinks
          | fewer + 1 =>
            let start := if Path.startsAtRoot target.toList then [] else folder
            walk files follows fewer start (namesOf target ++ rest)
termination_by (links, names.length)

/-- The folder that a path starts from. -/
def startOf (files : FileSystem) (path : Path) : Place :=
  if path.isAbsolute then [] else files.current

/-- What is wrong with the text of a path, whatever it leads to; `bounded` says that the path
may not be too long. -/
def faultOf? (bounded : Bool) (path : Path) : Option FileFault :=
  if path.text.toList.contains '\x00' then some .nulInName
  else if path.text = "" then some .notFound
  else if bounded && pathLimit ≤ path.text.utf8ByteSize then some .nameTooLong
  else none

/-- What a path of any length leads to. -/
def locate (files : FileSystem) (follows : Bool) (path : Path) : Except FileFault Found :=
  match faultOf? false path with
  | some fault => .error fault
  | none => walk files follows linkLimit (files.startOf path) (namesOf path.text)

/-- What a path leads to. -/
def find (files : FileSystem) (follows : Bool) (path : Path) : Except FileFault Found :=
  match faultOf? true path with
  | some fault => .error fault
  | none => files.locate follows path

/-- The path of a place. -/
def pathOf (place : Place) : Path :=
  ⟨"/" ++ "/".intercalate place⟩

/-- The path without links, dots and parent steps, if it leads to something.  It is found step
by step, so its length does not matter. -/
def canonical (files : FileSystem) (path : Path) : Except FileFault Path :=
  match files.locate true path with
  | .ok (.file place _ false) => .ok (pathOf place)
  | .ok (.file _ _ true) => .error .notFolder
  | .ok (.folder place) => .ok (pathOf place)
  | .ok _ => .error .notFound
  | .error fault => .error fault

/-- Whether a path leads to something. -/
def has (files : FileSystem) (path : Path) : Bool :=
  match files.find true path with
  | .ok (.file _ _ asFolder) => !asFolder
  | .ok (.folder _) => true
  | _ => false

/-- The absolute form of a path that serves as its key: the canonical path of what is
there, else the path made absolute as it is spelled. -/
def normalize (files : FileSystem) (path : Path) : Path :=
  match files.canonical path with
  | .ok canonical => canonical
  | .error _ => Path.absolute (pathOf files.current) path

/-- The bytes of a file. -/
def read (files : FileSystem) (path : Path) : Except FileFault ByteArray :=
  match files.find true path with
  | .ok (.file _ content false) => .ok content
  | .ok (.file _ _ true) => .error .notFolder
  | .ok (.folder _) => .error .isFolder
  | .ok _ => .error .notFound
  | .error fault => .error fault

/-- The text of a file. -/
def readText (files : FileSystem) (path : Path) : Except FileFault String :=
  match files.read path with
  | .ok content =>
    match String.fromUTF8? content with
    | some text => .ok text
    | none => .error .notText
  | .error fault => .error fault

/-- The place of the file that a path leads to, which may not be there yet. -/
def placeToWrite (files : FileSystem) (path : Path) : Except FileFault Place :=
  match files.find true path with
  | .ok (.file place _ false) => .ok place
  | .ok (.missing place false) => .ok place
  | .ok _ => .error .isFolder
  | .error fault => .error fault

/-- Writes a file, replacing what it held. -/
def write (files : FileSystem) (path : Path) (content : ByteArray) :
    Except FileFault FileSystem :=
  (files.placeToWrite path).map fun place => files.put place (.file content)

/-- The folder that holds what a path names, and the name it has there; a path that ends in a
step or at the root names nothing.  Slashes at the end do not count. -/
def holder (files : FileSystem) (path : Path) : Except FileFault (Place × Option String) :=
  match faultOf? true path with
  | some fault => .error fault
  | none =>
    match (namesOf path.text).reverse.dropWhile (· = "") with
    | [] => .ok ([], none)
    | name :: above =>
      match walk files true linkLimit (files.startOf path) (above.reverse ++ ["."]) with
      | .ok (.folder folder) =>
        if name = "." || name = ".." then .ok (folder, none)
        else if nameLimit < name.utf8ByteSize then .error .nameTooLong
        else .ok (folder, some name)
      | .ok _ => .error .notFolder
      | .error fault => .error fault

/-- Makes one folder.  A link that stands there is not followed, whatever it leads to. -/
def makeFolder (files : FileSystem) (path : Path) : Except FileFault FileSystem :=
  match files.holder path with
  | .ok (folder, some name) =>
    if (files.entry? (folder ++ [name])).isSome then .error .alreadyThere
    else .ok (files.put (folder ++ [name]) .folder)
  | .ok (_, none) => .error .alreadyThere
  | .error fault => .error fault

/-- Whether a path leads to a folder. -/
def hasFolder (files : FileSystem) (path : Path) : Bool :=
  match files.find true path with
  | .ok (.folder _) => true
  | _ => false

/-- Makes the folder with the given components, counted in reverse, and those above it. -/
def makeFoldersUpTo (files : FileSystem) (path : Path) :
    List Component → Except FileFault FileSystem
  | [] => .ok files
  | [.root] => .ok files
  | _ :: above =>
    match files.makeFolder path with
    | .ok made => .ok made
    | .error fault =>
      if fault = .notFound then
        match makeFoldersUpTo files (Path.ofComponents above.reverse) above with
        | .error fault => .error fault
        | .ok files =>
          match files.makeFolder path with
          | .ok made => .ok made
          | .error fault => if files.hasFolder path then .ok files else .error fault
      else if files.hasFolder path then .ok files
      else .error fault

/-- Makes a folder and those above it; one that is there is left alone. -/
def makeFolders (files : FileSystem) (path : Path) : Except FileFault FileSystem :=
  makeFoldersUpTo files path path.components.reverse

end FileSystem

end CompileServer
