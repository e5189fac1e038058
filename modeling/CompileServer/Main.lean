import CompileServer.CommandLine.Identifier
import CompileServer.CommandLine.Run

/-!
# The program

Reads what the library needs to know of the machine, runs the library, and writes what came
out of it.  Nothing is decided here.
-/

namespace CompileServer.Program

/-- The variables of the environment that matter. -/
def readVariables : IO (List (String × String)) := do
  let names := ["COMPILERD_CONFIG_DIR", "XDG_CONFIG_HOME", "HOME", "PATH"]
  let found ← names.mapM fun name => do
    let value ← IO.getEnv name
    return value.map fun value => (name, value)
  return found.filterMap id

/-- Adds a file, if it can be read. -/
def addFile (files : FileSystem) (path : String) : IO FileSystem := do
  try
    let content ← IO.FS.readBinFile path
    return files.put (FileSystem.namesOf path |>.filter (· ≠ "")) (.file content)
  catch _ => return files

/-- Adds all that is in a folder. -/
partial def addFolder (files : FileSystem) (path : String) : IO FileSystem := do
  let place := FileSystem.namesOf path |>.filter (· ≠ "")
  let entries ← (do IO.FS.realPath path >>= fun folder => folder.readDir)
  let mut files := files.put place .folder
  for entry in entries do
    let inner := path ++ "/" ++ entry.fileName
    if ← entry.path.isDir then files ← addFolder files inner else files ← addFile files inner
  return files

/-- The machine as the program needs to know it. -/
def readMachine (wholeFolder : Bool) (named : Option String) : IO Machine := do
  let current := (← IO.currentDir).toString
  let environment : Environment := ⟨← readVariables, ⟨"/root"⟩⟩
  let place := FileSystem.namesOf current |>.filter (· ≠ "")
  let folders := (List.range place.length).map fun n => (place.take (n + 1), FileEntry.folder)
  let empty : FileSystem := ⟨folders, place⟩
  let files ← if wholeFolder then addFolder empty current else pure empty
  let paths := [Config.projectPath ⟨current⟩, Config.userPath environment]
    ++ (named.map fun name => Path.join ⟨current⟩ ⟨name⟩).toList
  let files ← paths.foldlM (fun files path => addFile files path.text) files
  return ⟨files, environment⟩

/-- Writes the files that changed. -/
def writeFiles (before after : FileSystem) : IO Unit := do
  for (place, entry) in after.entries.reverse do
    let path := (FileSystem.pathOf place).text
    match entry, before.entry? place with
    | .file content, some (.file old) =>
      if content.data != old.data then IO.FS.writeBinFile path content
    | .file content, _ => IO.FS.writeBinFile path content
    | .folder, none => IO.FS.createDirAll path
    | _, _ => pure ()

/-- Reads a line with its end; it is empty at the end of the input. -/
partial def readLine (input : IO.FS.Stream) (line : ByteArray) : IO ByteArray := do
  let next ← input.read 1
  if next.isEmpty then return line
  else if next.data = #[10] then return line ++ next
  else readLine input (line ++ next)

/-- Runs the server as long as input comes. -/
partial def serveInput (fixed : ServerContext Machine ToolAnalysis) (input output : IO.FS.Stream)
    (server : ToolServer) : IO Unit := do
  let before := server.actor.session.world
  let server := server.serve fixed
  writeFiles before.files server.actor.session.world.files
  for response in server.written do
    output.putStrLn response.toJson.compact
  output.flush
  let server := { server with written := [] }
  unless server.isDone do
    let line ← readLine input .empty
    let server := if line.isEmpty then server.endInput else server.feed (Frame.ofBytes line.toList)
    let machine ← readMachine true none
    let actor := server.actor
    let session := { actor.session with world := machine }
    serveInput fixed input output { server with actor := { actor with session := session } }

end CompileServer.Program

open CompileServer Program in
/-- Runs the program. -/
def main (arguments : List String) : IO UInt32 := do
  let named := match Invocation.ofArguments arguments with
    | .ok invocation => invocation.config
    | .error _ => none
  let machine ← readMachine (arguments.contains "serve") named
  match plan machine arguments with
  | .finish outcome =>
    writeFiles machine.files outcome.machine.files
    IO.print outcome.output
    IO.eprint outcome.failure.report
    return UInt32.ofNat outcome.status
  | .serve settings tools =>
    let seed ← IO.rand 0 (Nat.pow 2 122 - 1)
    let fixed := serverContext settings tools (Identifier.ofLine seed)
    serveInput fixed (← IO.getStdin) (← IO.getStdout) (server machine)
    return 0
