import CompileServer.Compile.Error
import CompileServer.FileSystem.Basic
import CompileServer.Tool.ObjectFile

/-!
# Libraries of plugins

A library is opened by its path.  No library of a machine holds plugins, so opening one
always fails; how it fails depends on what stands there.
-/

namespace CompileServer.Library

/-- The libraries of every machine. -/
def systemLibraries : List String :=
  ["libc.so.6", "libm.so.6", "libdl.so.2", "libpthread.so.0", "librt.so.1", "libgcc_s.so.1"]

/-- The folder that the libraries of the machine are loaded from. -/
def systemFolder : String := "/lib/x86_64-linux-gnu/"

/-- The library of the machine that a name or a path means. -/
def system? (name : String) : Option String :=
  systemLibraries.find? fun library =>
    name = library || name = systemFolder ++ library || name = "/usr" ++ systemFolder ++ library

/-- Why the file or folder that a name leads to cannot be loaded; none if it can be. -/
def reason? (files : FileSystem) (name : String) : Option String :=
  let unopened := fun (text : String) => some ("cannot open shared object file: " ++ text)
  match if name.toList.contains '/' then files.find true ⟨name⟩ else .error .notFound with
  | .ok (.file _ content false) => (ObjectFile.defect? content).map ObjectFile.Defect.message
  | .ok (.file _ _ true) => unopened "Not a directory"
  | .ok (.folder _) => some "cannot read file data: Is a directory"
  | .ok _ => unopened "No such file or directory"
  | .error fault => unopened fault.words

/-- The name that reaches the system: a NUL may only stand at its end. -/
def nameOf (path : Path) : Except String String :=
  let chars := path.text.toList
  if chars.getLast? = some '\x00' then
    if chars.dropLast.contains '\x00' then
      .error "could not create a C string from bytes with trailing null"
    else .ok (String.ofList chars.dropLast)
  else if chars.contains '\x00' then .error "could not create a C string from bytes"
  else .ok path.text

/-- The error of a library that was opened and holds no plugins. -/
def noPlugins (path : Path) (name : String) : PluginError :=
  .missingEntry path (name ++ ": undefined symbol: " ++ pluginEntry)

/-- The error of opening a library. -/
def openError (files : FileSystem) (path : Path) : PluginError :=
  match nameOf path with
  | .error reason => .open path reason
  | .ok name =>
    match system? name with
    | some library => noPlugins path (systemFolder ++ library)
    | none =>
      match reason? files name with
      | some reason => .open path (name ++ ": " ++ reason)
      | none => noPlugins path name

end CompileServer.Library
