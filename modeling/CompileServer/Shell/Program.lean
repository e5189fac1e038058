import CompileServer.Shell.Edit
import CompileServer.Shell.Expansion
import CompileServer.Shell.FileUtility

/-!
# Programs

The programs that scripts and others can start: the utilities, and the shell itself, which
runs in a process of its own.
-/

namespace CompileServer.Shell

/-- A program that is not part of a script. -/
inductive Program where
  | utility (run : Utility)
  /-- The shell. -/
  | shell
  /-- The program that starts another one with changed variables. -/
  | changer

namespace Program

/-- The programs of every machine, by name. -/
def all : List (String × Program) :=
  let utilities := basicPrograms ++ textPrograms ++ filePrograms
    ++ [("grep", searchTexts), ("sed", editTexts)]
  ("sh", .shell) :: ("env", .changer) :: utilities.map fun program =>
    (program.1, .utility program.2)

/-- The folders with programs. -/
def folders : List Path :=
  [⟨"/bin"⟩, ⟨"/usr/bin"⟩]

/-- The program with the given path. -/
def at? (path : Path) : Option Program :=
  let found := all.find? fun program =>
    folders.any fun folder => decide (path ≈ folder.join ⟨program.1⟩)
  found.map Prod.snd

/-- The folders that are searched for programs if nothing else is said. -/
def usualFolders : String :=
  "/usr/local/sbin:/usr/local/bin:/usr/sbin:/usr/bin:/sbin:/bin"

/-- The program that a name means in some folders, with its path. -/
def search? (folders : String) (name : String) : Option (String × Program) :=
  (folders.splitOn ":").findSome? fun folder =>
    let path := if folder.isEmpty then name else folder ++ "/" ++ name
    (at? ⟨path⟩).map fun program => (path, program)

/-- The program that a name or a path means to a process, with its path. -/
def find? (process : Process) (name : String) : Option (String × Program) :=
  if name.isEmpty then none
  else if name.toList.contains '/' then (at? ⟨name⟩).map fun program => (name, program)
  else search? ((process.binding? "PATH").getD usualFolders) name

end Program

namespace Interpreter

/-- Runs the shell in a process of its own that knows the files, the channels, and the variables
that are exported. -/
def startShell (interpreter : Interpreter) (name : String) (arguments : List String) :
    Running Exit := do
  let outer ← get
  set { Process.start outer.files outer.environment name arguments .empty with
    channels := outer.channels
    sources := outer.sources
    sinks := outer.sinks }
  let interruption ← attempt (interpreter.shell arguments)
  let inner ← get
  set { outer with
    files := { inner.files with current := outer.files.current }
    sources := inner.sources
    sinks := inner.sinks }
  return Interruption.exit inner.status interruption

/-- Changes variables as arguments say, and gives the arguments that are left. -/
def changeVariables : List String → Running (List String)
  | [] => return []
  | "-" :: rest => do
    modify ({ · with bindings := [], exported := [] })
    changeVariables rest
  | "-i" :: rest => do
    modify ({ · with bindings := [], exported := [] })
    changeVariables rest
  | "-u" :: name :: rest => do
    modify (·.unassign name)
    changeVariables rest
  | "--" :: rest => assign rest
  | rest => assign rest
where
  /-- Makes the assignments among arguments. -/
  assign : List String → Running (List String)
    | [] => return []
    | argument :: rest => do
      match argument.splitOn "=" with
      | name :: first :: others =>
        modify fun process => (process.assign name ("=".intercalate (first :: others))).publish name
        assign rest
      | _ => return argument :: rest

/-- Starts a program that is neither a shell nor starts others with changed variables. -/
def startInner (interpreter : Interpreter) (program : Program) (name : String)
    (arguments : List String) : Running Exit := do
  match program with
  | .utility run => return .status ((← run arguments) % 256)
  | .shell => interpreter.startShell name arguments
  | .changer =>
    let _ ← changeVariables arguments
    return .status (← writeEnvironment [])

/-- Starts the program that arguments name after the variables that they change, or shows the
variables if they name none. -/
def startChanged (interpreter : Interpreter) (arguments : List String) : Running Exit := do
  let before ← get
  modify fun process => { process with bindings := process.environment }
  let exit ← match ← changeVariables arguments with
    | [] => pure (.status (← writeEnvironment []))
    | name :: arguments =>
      match Program.find? (← get) name with
      | some (_, program) => interpreter.startInner program name arguments
      | none =>
        let isThere := name.toList.contains '/' && (← get).files.has ⟨name⟩
        let fault := if isThere then FileFault.system 13 else .notFound
        complain ("env: '" ++ name ++ "': " ++ fault.words)
        pure (.status (if isThere then 126 else 127))
  modify fun process =>
    { process with bindings := before.bindings, exported := before.exported }
  return exit

/-- Runs a program with a name and arguments. -/
def start (interpreter : Interpreter) (program : Program) (name : String)
    (arguments : List String) : Running Exit :=
  match program with
  | .changer => interpreter.startChanged arguments
  | program => interpreter.startInner program name arguments

/-- The number above which a status tells of a signal. -/
def signalBase : Nat := 128

/-- The signals that nobody is told of. -/
def isQuiet (signal : Nat) : Bool :=
  signal = 2 || signal = 13

/-- Runs a program and waits for its end, of which a message tells if a signal caused it. -/
def await (interpreter : Interpreter) (program : Program) (name : String)
    (arguments : List String) : Running Nat := do
  match ← interpreter.start program name arguments with
  | .status code => return code
  | .signal number =>
    if !isQuiet number then complain (Exit.signalDescription number)
    return signalBase + number

end Interpreter

end CompileServer.Shell
