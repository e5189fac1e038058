import CompileServer.Config.Lookup
import CompileServer.Shell.Run

/-!
# Machines

A machine has files, an environment, and a few programs of its own.  Starting a program
finds it first; the program then runs to its end with all of its input at hand.
-/

namespace CompileServer

/-- Where programs run. -/
structure Machine where
  files : FileSystem
  environment : Environment

/-- What is left of a program that ended. -/
structure Finished where
  exit : Exit
  output : ByteArray
  messages : ByteArray
  /-- The input that the program did not read. -/
  unread : ByteArray

namespace Machine

open Shell (Program)

/-- The program that a path leads to.  The other files of the machine are no programs. -/
def programAt (files : FileSystem) (path : Path) :
    Except FileFault Program :=
  match files.find true path with
  | .ok (.missing place asFolder) =>
    match Program.at? (FileSystem.pathOf place) with
    | some program => if asFolder then .error .notFolder else .ok program
    | none => .error .notFound
  | .ok (.file _ _ true) => .error .notFolder
  | .ok _ => .error .accessDenied
  | .error fault => .error fault

/-- The first program with a name in some folders; `denied` says that a folder before them has
a file of that name. -/
def searchFolders (files : FileSystem) (name : String) :
    Bool → List String → Except FileFault Program
  | denied, [] => .error (if denied then .accessDenied else .notFound)
  | denied, folder :: rest =>
    match programAt files (Path.join ⟨folder⟩ ⟨name⟩) with
    | .ok program => .ok program
    | .error fault =>
      if fault = .accessDenied then searchFolders files name true rest
      else if fault = .notFound || fault = .notFolder then searchFolders files name denied rest
      else .error fault

/-- The folders that are searched for programs. -/
def searchPath (environment : Environment) : List String :=
  ((environment.get? "PATH").getD "/bin:/usr/bin").splitOn ":"

/-- The program that is meant by a name or a path. -/
def findProgram (machine : Machine) (program : String) :
    Except FileFault Program :=
  if program = "" then .error .notFound
  else if program.toList.contains '/' then programAt machine.files ⟨program⟩
  else searchFolders machine.files program false (searchPath machine.environment)

/-- A name or an argument holds a character that none may hold. -/
def nulInArgument : FileFault := .described "nul byte found in provided data"

/-- Starts a program and waits for its end. -/
def run (machine : Machine) (program : String) (arguments : List String) (input : ByteArray) :
    Except FileFault Finished × Machine :=
  if (program :: arguments).any fun text => text.toList.contains '\x00' then
    (.error nulInArgument, machine)
  else
    match machine.findProgram program with
    | .error fault => (.error fault, machine)
    | .ok body =>
      let start :=
        Shell.Process.start machine.files machine.environment.bindings program arguments input
      let (ending, process) := body.run arguments start
      let interruption := match ending with
        | .ok () => none
        | .error interruption => some interruption
      let exit := Shell.Interruption.exit process.status interruption
      (.ok ⟨exit, process.output, process.messages, process.unread⟩,
        { machine with files := { process.files with current := machine.files.current } })

end Machine

end CompileServer
