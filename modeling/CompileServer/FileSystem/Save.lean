import CompileServer.FileSystem.Basic

/-!
# Saving texts

Saving a text makes the folder for it first and then writes the file; what was
made stays when the writing fails.
-/

namespace CompileServer.FileSystem

/-- Writes a text to a file after making a folder. -/
def save (files : FileSystem) (folder file : Path) (text : String) :
    Except FileFault Unit × FileSystem :=
  match files.makeFolders folder with
  | .error fault => (.error fault, files)
  | .ok made =>
    match made.write file text.toUTF8 with
    | .error fault => (.error fault, made)
    | .ok written => (.ok (), written)

end CompileServer.FileSystem
