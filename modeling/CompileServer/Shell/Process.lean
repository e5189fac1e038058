import CompileServer.FileSystem.Extend
import CompileServer.Program.Exit
import CompileServer.Shell.Script

/-!
# Processes

What a running program can read and change: the files, its variables and functions, and
where its channels lead to.  Bytes that are on their way from one program to another wait in
the process until someone reads them.
-/

namespace CompileServer.Shell

/-- What a channel leads to. -/
inductive Stream where
  /-- To bytes that can be read; those of a file can be read again. -/
  | source (index : Nat) (isFile : Bool)
  /-- To bytes that someone reads later. -/
  | sink (index : Nat)
  | nowhere
  /-- To the end of a file. -/
  | file (place : Place)
  /-- To a folder, which cannot be read. -/
  | folder
deriving DecidableEq, Repr

/-- A running program. -/
structure Process where
  files : FileSystem
  /-- What the program calls itself in messages. -/
  name : String
  arguments : List String
  bindings : List (String × String)
  /-- The variables that the programs started from here get to know. -/
  exported : List String
  /-- The variables that keep their values. -/
  fixed : List String
  /-- The variables that get their values back when the function at hand ends. -/
  saved : List (String × Option String)
  functions : List (String × Command)
  /-- How many functions are running. -/
  calls : Nat
  /-- How many loops are running. -/
  loops : Nat
  /-- The letters of the options that are on. -/
  options : List Char
  /-- The status of the last command. -/
  status : Nat
  /-- The status of the last command that a word of the command at hand stood for. -/
  inner : Nat
  /-- The line of the script at hand, if the program runs a script. -/
  line : Option Nat
  /-- The line up to which the script was read. -/
  reached : Nat
  /-- What the messages of the script name besides the line. -/
  speaker : Option String
  /-- The status of the last process that was not waited for, if there is one. -/
  background : Option Nat
  /-- The commands for the signals that end nothing; signal zero is the end of the process. -/
  traps : List (Nat × String)
  /-- The signals whose commands are still to be run. -/
  caught : List Nat
  channels : List (Nat × Stream)
  sources : Array ByteArray
  sinks : Array ByteArray
  /-- Whether bytes were written that nobody can read. -/
  lostOutput : Bool

/-- What ends more than the command at hand. -/
inductive Interruption where
  /-- The process ends. -/
  | ended (exit : Exit)
  /-- The command at hand cannot go on, and the process ends unless someone expects this. -/
  | failed
  /-- Some loops end. -/
  | left (loops : Nat)
  /-- Some loops end, but the last of them goes on with its next turn. -/
  | resumed (loops : Nat)
  /-- The function or the script at hand ends. -/
  | returned
deriving DecidableEq, Repr

/-- The status of a process whose command cannot go on. -/
def failureStatus : Nat := 2

/-- How a process ends after an interruption, where the last command had the given status. -/
def Interruption.exit (status : Nat) : Option Interruption → Exit
  | some (.ended (.signal number)) => .signal number
  | some (.ended (.status code)) => .status (code % 256)
  | some .failed => .status failureStatus
  | _ => .status (status % 256)

/-- The number of bytes that stand for endlessly many; no reader asks for more of them. -/
def endless : Nat := 0x40000

/-- Work of a process, which may be interrupted. -/
abbrev Running (β : Type) := ExceptT Interruption (StateM Process) β

namespace Process

/-- A process before its first step; others may write to its input before and read its output
and its messages later. -/
def start (files : FileSystem) (bindings : List (String × String)) (name : String)
    (arguments : List String) (input : ByteArray) : Process where
  files := files
  name := name
  arguments := arguments
  bindings := bindings
  exported := bindings.map Prod.fst
  fixed := []
  saved := []
  functions := []
  calls := 0
  loops := 0
  options := []
  status := 0
  inner := 0
  line := none
  reached := 0
  speaker := none
  background := none
  traps := []
  caught := []
  channels := [(0, .source 0 false), (1, .sink 0), (2, .sink 1)]
  sources := #[input]
  sinks := #[.empty, .empty]
  lostOutput := false

/-- What was written as output. -/
def output (process : Process) : ByteArray :=
  process.sinks.getD 0 .empty

/-- What was written as messages. -/
def messages (process : Process) : ByteArray :=
  process.sinks.getD 1 .empty

/-- What nobody has read of the input. -/
def unread (process : Process) : ByteArray :=
  process.sources.getD 0 .empty

/-- The number of every process, as it sees itself. -/
def ownNumber : String := "4711"

/-- The number of every process that is not waited for. -/
def backgroundNumber : String := "4712"

/-- Whether an option is on. -/
def has (process : Process) (option : Char) : Bool :=
  process.options.contains option

/-- Where a channel leads to, if it is open. -/
def channel? (process : Process) (channel : Nat) : Option Stream :=
  process.channels.lookup channel

/-- Makes a channel lead somewhere, or closes it. -/
def connect (process : Process) (channel : Nat) (stream : Option Stream) : Process :=
  { process with
    channels := (stream.map fun stream => (channel, stream)).toList
      ++ process.channels.filter fun entry => entry.1 != channel }

/-- Makes bytes available to be read. -/
def addSource (process : Process) (isFile : Bool) (bytes : ByteArray) : Stream × Process :=
  (.source process.sources.size isFile, { process with sources := process.sources.push bytes })

/-- Sends bytes to a stream. -/
def deliver (process : Process) (stream : Stream) (bytes : ByteArray) : Process :=
  match stream with
  | .sink index => { process with sinks := process.sinks.modify index (· ++ bytes) }
  | .file place => { process with files := process.files.extend place bytes }
  | .nowhere => process
  | _ => { process with lostOutput := true }

/-- Writes bytes to a channel. -/
def writeTo (process : Process) (channel : Nat) (bytes : ByteArray) : Process :=
  match process.channel? channel with
  | some stream => process.deliver stream bytes
  | none => { process with lostOutput := true }

/-- What can be read from a channel. -/
def available (process : Process) (channel : Nat) : ByteArray :=
  match process.channel? channel with
  | some (.source index _) => process.sources.getD index .empty
  | _ => .empty

/-- Drops what was read from a channel, up to what is left. -/
def keepUnread (process : Process) (channel : Nat) (rest : ByteArray) : Process :=
  match process.channel? channel with
  | some (.source index _) =>
    { process with sources := process.sources.modify index fun _ => rest }
  | _ => process

/-- The value of a variable, if it has one. -/
def binding? (process : Process) (name : String) : Option String :=
  process.bindings.lookup name

/-- Sets a variable. -/
def assign (process : Process) (name value : String) : Process :=
  { process with
    bindings := (name, value) :: process.bindings.filter (fun entry => entry.1 != name)
    exported :=
      if process.has 'a' && !process.exported.contains name then name :: process.exported
      else process.exported }

/-- Takes the value from a variable. -/
def unassign (process : Process) (name : String) : Process :=
  { process with
    bindings := process.bindings.filter (fun entry => entry.1 != name)
    exported := process.exported.filter (· != name) }

/-- Gives a variable the value it had. -/
def restore (process : Process) (name : String) (value : Option String) : Process :=
  match value with
  | some value => process.assign name value
  | none => process.unassign name

/-- Makes a variable known to the programs that are started from here. -/
def publish (process : Process) (name : String) : Process :=
  if process.exported.contains name then process
  else { process with exported := name :: process.exported }

/-- The variables that a program started from here gets to know. -/
def environment (process : Process) : List (String × String) :=
  process.bindings.filter fun entry => process.exported.contains entry.1

/-- The characters that separate texts. -/
def separators (process : Process) : List Char :=
  match process.binding? "IFS" with
  | some text => text.toList
  | none => [' ', '\t', '\n']

/-- The letters of the options, in the order in which they are shown. -/
def optionLetters : List Char :=
  "pubaCEVvxsnmiIfe".toList

/-- The arguments with the first separator between them. -/
def joinedArguments (process : Process) : String :=
  let gap := match process.binding? "IFS" with
    | some text => String.ofList (text.toList.take 1)
    | none => " "
  gap.intercalate process.arguments

/-- The value of a parameter, if it has one. -/
def value? (process : Process) : Parameter → Option String
  | .argument 0 => some process.name
  | .argument (n + 1) => process.arguments[n]?
  | .arguments => some process.joinedArguments
  | .joinedArguments => some process.joinedArguments
  | .argumentCount => some (toString process.arguments.length)
  | .status => some (toString process.status)
  | .process => some ownNumber
  | .background => process.background.map fun _ => backgroundNumber
  | .options => some (String.ofList (optionLetters.filter process.has))
  | .named name => process.binding? name

end Process

/-- Writes bytes as output. -/
def write (bytes : ByteArray) : Running Unit :=
  modify (·.writeTo 1 bytes)

/-- Writes a text as output. -/
def writeText (text : String) : Running Unit :=
  write text.toUTF8

/-- Writes a line of a message. -/
def complain (text : String) : Running Unit :=
  modify (·.writeTo 2 (text ++ "\n").toUTF8)

/-- Writes a line of a message of a command; one that comes out of a script says from where. -/
def complainHere (text : String) : Running Unit := do
  let process ← get
  match process.line with
  | some line => complain (process.name ++ ": " ++ toString line ++ ": " ++ text)
  | none => complain text

/-- Writes a line of a message about the script itself, which names what reads the script
as well. -/
def complainOfScript (text : String) : Running Unit := do
  match (← get).speaker with
  | some speaker => complainHere (speaker ++ ": " ++ text)
  | none => complainHere text

/-- Gives the command at hand up after a message about the script. -/
def failScript {β : Type} (text : String) : Running β := do
  complainOfScript text
  throw .failed

/-- Reads all that is left of the input. -/
def readAll : Running ByteArray := do
  let process ← get
  set (process.keepUnread 0 .empty)
  return process.available 0

/-- Does some work and tells how it was interrupted, if it was. -/
def attempt (work : Running Unit) : Running (Option Interruption) :=
  fun process =>
    match work process with
    | (.ok (), process) => (.ok none, process)
    | (.error interruption, process) => (.ok (some interruption), process)

/-- Does some work while something of the process is changed, and changes it back. -/
def during {β : Type} (change restore : Process → Process) (work : Running β) : Running β :=
  fun process =>
    let (result, process) := work (change process)
    (result, restore process)

end CompileServer.Shell
