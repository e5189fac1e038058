import CompileServer.Shell.Condition
import CompileServer.Shell.Format
import CompileServer.Shell.Process
import CompileServer.Text.Lossy

/-!
# Utilities

The commands that do some work of their own, with the status they end in.
-/

namespace CompileServer.Shell

/-- A command: what it does with its arguments, and its status. -/
abbrev Utility := List String → Running Nat

/-- Writes bytes as output. -/
def writeBytes (bytes : List UInt8) : Running Unit :=
  write ⟨bytes.toArray⟩

/-- Writes its arguments with blanks between them and a line feed at the end, unless they say
otherwise. -/
def echo (encode : String → Written) : Utility := fun arguments => do
  let (arguments, hasEnd) := match arguments with
    | "-n" :: rest => (rest, false)
    | rest => (rest, true)
  let written := encode (" ".intercalate arguments)
  writeBytes (written.bytes ++ if written.isCut || !hasEnd then [] else [0x0a])
  return 0

/-- Writes a format filled with arguments. -/
def printf : Utility := fun arguments => do
  match if arguments.head? = some "--" then arguments.tail else arguments with
  | [] =>
    complainHere "printf: usage: printf format [arg ...]"
    return 2
  | format :: arguments =>
    let filled := fill format arguments
    for fault in filled.faults do
      complainHere ("printf: " ++ fault)
    writeBytes filled.bytes
    return if filled.faults.isEmpty then 0 else 1

/-- The bytes of the input, or the words for why it cannot be read. -/
def readInput : Running (Except String ByteArray) := do
  match (← get).channel? 0 with
  | none => return .error (FileFault.system 9).words
  | some .folder => return .error FileFault.isFolder.words
  | some _ => return .ok (← readAll)

/-- The bytes of a file, or the words for why it cannot be read. -/
def readFile (name : String) : Running (Except String ByteArray) := do
  if name = "/dev/null" then return .ok .empty
  else if name = "/dev/zero" then return .ok ⟨Array.replicate endless 0⟩
  else if name = "/dev/stdin" then readInput
  else match (← get).files.read ⟨name⟩ with
    | .ok content => return .ok content
    | .error fault => return .error fault.words

/-- Writes the contents of files, or the input if no file is named. -/
def cat : Utility := fun names => do
  if ((← get).channel? 1).isNone then
    complain "cat: standard output: Bad file descriptor"
    return 1
  let mut status := 0
  for name in if names.isEmpty then ["-"] else names do
    match ← if name = "-" then readInput else readFile name with
    | .ok content => write content
    | .error words =>
      complain ("cat: " ++ name ++ ": " ++ words)
      status := 1
      if name = "-" && ((← get).channel? 0).isNone then
        complain ("cat: closing standard input: " ++ words)
  return status

/-- Tells by its status whether a condition holds. -/
def test (name : String) : Utility := fun arguments => do
  match condition (← get).files arguments with
  | .ok holds => return if holds then 0 else 1
  | .error fault =>
    complainHere (name ++ ": " ++ fault)
    return 2

/-- A test whose last argument starts with a bracket. -/
def bracket : Utility := fun arguments => do
  if (arguments.getLastD "").startsWith "]" then test "[" arguments.dropLast
  else
    complainHere "[: missing ]"
    return 2

/-- The number above every signal. -/
def signalLimit : Nat := 65

/-- The signal that a text names, by number or by name. -/
def signalOf? (text : String) : Option Nat :=
  match naturalOf? text.toList with
  | some number => if number < signalLimit then some number else none
  | none => if text.toUpper = "EXIT" then some 0 else Exit.signalNumber? text.toUpper

/-- The name of a signal, or its number if it has none. -/
def signalText (number : Nat) : String :=
  if number = 0 then "EXIT" else (Exit.signalName? number).getD (toString number)

/-- The name of a signal in a list of all. -/
def listedSignal (number : Nat) : String :=
  if number = 0 || number = 16 then toString number
  else match Exit.signalName? number with
    | some name => name
    | none =>
      if number < 34 then toString number
      else if number = 34 then "RTMIN"
      else if number < 50 then "RTMIN+" ++ toString (number - 34)
      else if number < 64 then "RTMAX-" ++ toString (64 - number)
      else "RTMAX"

/-- How to use the command that sends signals. -/
def killUsage : String :=
  "Usage: kill [-s sigspec | -signum | -sigspec] [pid | job]... or\nkill -l [exitstatus]"

/-- The signal and the targets that arguments ask for, or what is wrong with them. -/
def signalRequest : List String → Except String (Nat × List String)
  | [] => .error killUsage
  | first :: targets =>
    match first.toList with
    | '-' :: chars =>
      match signalOf? (String.ofList chars), chars, targets with
      | some number, _, _ => .ok (number, targets)
      | none, ['s'], [] => .error "No arg for -s option"
      | none, 's' :: more, _ =>
        let (name, targets) :=
          if more.isEmpty then (targets.headD "", targets.tail) else (String.ofList more, targets)
        match signalOf? name with
        | some number => .ok (number, targets)
        | none => .error ("invalid signal number or name: " ++ name)
      | none, c :: _, _ => .error ("Illegal option -" ++ String.singleton c)
      | none, [], _ => .error ("Illegal number: " ++ first)
    | _ => .ok (15, first :: targets)

/-- Lets a signal have its effect on the process: its command is run later, or it is ignored, or
it ends the process. -/
def takeSignal (number : Nat) : Running Unit := do
  let process ← get
  let isCaught := number ≠ 9 && number ≠ 0
  match if isCaught then process.traps.lookup number else none with
  | some "" => return
  | some _ => set { process with caught := process.caught ++ [number] }
  | none => if Exit.isHarmless number then return else throw (.ended (.signal number))

/-- Sends a signal to processes; the only one that can be reached is the sender. -/
def sendSignal (number : Nat) : List String → Running Nat
  | [] => return 0
  | target :: others => do
    if target = Process.ownNumber then
      takeSignal number
      sendSignal number others
    else if (smallNumber? target).isSome then
      complainHere "kill: No such process\n"
      let _ ← sendSignal number others
      return 1
    else
      complainHere ("kill: Illegal number: " ++ target)
      return 2

/-- Writes the names of all signals, or of the one that a status tells of. -/
def listSignals : Utility := fun arguments => do
  match arguments with
  | [] =>
    for number in List.range signalLimit do
      writeText (listedSignal number ++ "\n")
    return 0
  | text :: _ =>
    match smallNumber? text with
    | some number =>
      writeText (listedSignal (if 128 < number then number - 128 else number) ++ "\n")
      return 0
    | none =>
      complainHere ("kill: Illegal number: " ++ text)
      return 2

/-- Sends a signal, by default the one that asks to end. -/
def kill : Utility := fun arguments => do
  if arguments.head? = some "-l" then listSignals arguments.tail
  else match signalRequest arguments with
    | .error fault =>
      complainHere ("kill: " ++ fault)
      return 2
    | .ok (_, []) =>
      complainHere ("kill: " ++ killUsage)
      return 2
    | .ok (number, targets) => sendSignal number targets

/-- Writes the folder that the process is in. -/
def writeFolder : Utility := fun _ => do
  let folder := FileSystem.pathOf (← get).files.current
  writeText (folder.text ++ "\n")
  return 0

/-- Writes a line again and again. -/
def repeatLine : Utility := fun arguments => do
  let text := if arguments.isEmpty then "y" else " ".intercalate arguments
  let line := (text ++ "\n").toUTF8.toList
  writeBytes ((List.replicate (endless / line.length + 1) line).flatten)
  return 0

/-- Does nothing and ends in a status. -/
def justStatus (status : Nat) : Utility := fun _ => return status

/-- The utilities that are programs of their own, by name. -/
def basicPrograms : List (String × Utility) :=
  [("cat", cat), ("echo", echo .plain), ("printf", printf), ("test", test "test"), ("[", bracket),
    ("true", justStatus 0), ("false", justStatus 1), ("pwd", writeFolder), ("yes", repeatLine)]

end CompileServer.Shell
