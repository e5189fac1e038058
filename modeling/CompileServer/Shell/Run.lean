import CompileServer.Shell.Builtin

/-!
# Running commands

A command is run one layer at a time: the commands in it are handed to an interpreter for the
inside, and the interpreters are nested only so deep.  Where the channels of a command lead to
changes for that command alone; what it does to the files stays.
-/

namespace CompileServer.Shell

namespace Interpreter

/-- Sets the status of the last command. -/
def setStatus (status : Nat) : Running Unit :=
  modify ({ · with status := status })

/-- Ends the process if a command failed where failure is not expected, and an option asks for
this. -/
def checkStatus (tested : Bool) : Running Unit := do
  let process ← get
  if process.status ≠ 0 && !tested && process.has 'e' then
    throw (.ended (.status process.status))

/-- Notes the line of the command at hand. -/
def setLine (line : Nat) : Running Unit :=
  modify ({ · with line := some line })

/-- The most functions that may run at once. -/
def callLimit : Nat := 1000

/-- Runs a function with the given body and arguments, and gives its status. -/
def call (interpreter : Interpreter) (tested : Bool) (body : Command)
    (arguments : List String) : Running Nat := do
  let before ← get
  if callLimit ≤ before.calls then
    failScript ("Maximum function recursion depth (" ++ toString callLimit ++ ") reached")
  set { before with
    arguments := arguments, calls := before.calls + 1, loops := 0, saved := [] }
  let interruption ← attempt (interpreter.run tested body)
  modify fun process =>
    let restored := process.saved.foldl (fun process (name, value) => process.restore name value)
      process
    { restored with
      arguments := before.arguments
      calls := before.calls
      loops := before.loops
      saved := before.saved }
  match interruption with
  | none => pure ()
  | some .returned => pure ()
  | some interruption => throw interruption
  return (← get).status

/-- Runs a command of the shell itself.  If it cannot be carried out the process goes on, unless
the command is special. -/
def runBuiltin (interpreter : Interpreter) (tested isSpecial : Bool) (name : String)
    (builtin : Builtin) (arguments : List String) : Running Nat := do
  let before := (← get).speaker
  modify ({ · with speaker := some name, lostOutput := false })
  let result : Except Interruption Nat ← fun process =>
    match builtin interpreter tested arguments process with
    | (.ok status, process) => (.ok (.ok status), process)
    | (.error interruption, process) => (.ok (.error interruption), process)
  let isLost := (← get).lostOutput
  if isLost then complainOfScript (name ++ ": I/O error")
  modify ({ · with speaker := before, lostOutput := false })
  match result with
  | .ok status => return if isLost then max status 1 else status
  | .error .failed => if isSpecial then throw .failed else return failureStatus
  | .error interruption => throw interruption

/-- Refuses a command that nobody knows. -/
def refuse (name : String) : Running Nat := do
  if name = "" then
    complainOfScript (name ++ ": Permission denied")
    return signalBase - 1
  else if name.toList.contains '/' && (← get).files.has ⟨name⟩ then
    complainOfScript (name ++ ": Permission denied")
    return signalBase - 2
  else
    complainOfScript (name ++ ": not found")
    return signalBase - 1

/-- Runs a program, or refuses the name if there is none. -/
def runProgram (interpreter : Interpreter) (name : String) (arguments : List String) :
    Running Nat := do
  match Program.find? (← get) name with
  | some (_, program) => interpreter.await program name arguments
  | none => refuse name

/-- Lets a program take the place of the process. -/
def replace (interpreter : Interpreter) : List String → Running Nat
  | [] => return 0
  | name :: arguments => do
    match Program.find? (← get) name with
    | some (_, program) => throw (.ended (← interpreter.start program name arguments))
    | none =>
      modify ({ · with speaker := some "exec" })
      throw (.ended (.status (← refuse name)))

/-- What a command is to a process. -/
inductive Action where
  /-- A special command of the shell. -/
  | special (builtin : Builtin)
  | function (body : Command)
  /-- Another command of the shell. -/
  | regular (builtin : Builtin)
  | program
  /-- The process is replaced. -/
  | replacement

/-- What a name means as a command; where functions do not count, special commands are not
special. -/
def action (process : Process) (usesFunctions : Bool) (name : String) : Action :=
  if name = "exec" then .replacement
  else match Builtin.specials.lookup name with
    | some builtin => if usesFunctions then .special builtin else .regular builtin
    | none =>
      match if usesFunctions then process.functions.lookup name else none with
      | some body => .function body
      | none =>
        if name = "type" then .regular Builtin.type
        else match Builtin.regulars.lookup name with
          | some builtin => .regular builtin
          | none => .program

/-- Runs a command that was expanded. -/
def runTexts (interpreter : Interpreter) (tested usesFunctions : Bool) (name : String)
    (arguments : List String) : Running Nat := do
  match action (← get) usesFunctions name with
  | .special builtin => interpreter.runBuiltin tested true name builtin arguments
  | .regular builtin => interpreter.runBuiltin tested false name builtin arguments
  | .function body => interpreter.call tested body arguments
  | .replacement => interpreter.replace arguments
  | .program => interpreter.runProgram name arguments

/-- Takes off the words that say that functions do not count.  The result says whether there were
any, and whether the command is only to be found or described. -/
def withoutCommand : List String → Bool × Option Char × List String
  | "command" :: "-p" :: rest => withoutCommand ("command" :: rest)
  | "command" :: "-v" :: rest => (true, some 'v', rest)
  | "command" :: "-V" :: rest => (true, some 'V', rest)
  | "command" :: "--" :: rest =>
    let (_, asks, rest) := withoutCommand rest
    (true, asks, rest)
  | "command" :: rest =>
    let (_, asks, rest) := withoutCommand rest
    (true, asks, rest)
  | texts => (false, none, texts)

/-- Runs the texts of a command. -/
def dispatch (interpreter : Interpreter) (tested : Bool) (texts : List String) : Running Nat := do
  match withoutCommand texts with
  | (_, some 'v', names) => Builtin.locate Builtin.regularNames names
  | (_, some _, names) => Builtin.describe Builtin.regularNames names
  | (_, none, []) => return (← get).inner
  | (isPlain, none, name :: arguments) =>
    interpreter.runTexts tested (!isPlain) name arguments

/-- Whether what a command does to variables stays: it has no words, or it is special. -/
def keepsAssignments (texts : List String) : Bool :=
  match texts with
  | [] => true
  | name :: _ => name = "exec" || (Builtin.specials.lookup name).isSome

/-- Makes assignments, which are known to programs that are started if they are for one command
only. -/
def makeAssignments (interpreter : Interpreter) (isKept : Bool)
    (assignments : List (String × Word)) : Running (List String) :=
  assignments.mapM fun (name, word) => do
    let value ← interpreter.expandAssigned word
    assignVariable name value
    if !isKept then modify (·.publish name)
    return name ++ "=" ++ value

/-- Shows a command before it is run, if an option asks for this; the message goes where messages
went before the command. -/
def trace (messages : Option Stream) (texts : List String) : Running Unit := do
  let process ← get
  if process.has 'x' then
    match messages with
    | some stream => set (process.deliver stream ("+ " ++ " ".intercalate texts ++ "\n").toUTF8)
    | none => return

/-- A process where some variables are again what they were. -/
def withoutAssignments (before : Process) (names : List String) (process : Process) : Process :=
  let restored := names.foldl (fun process name => process.restore name (before.binding? name))
    process
  { restored with
    exported := names.filter before.exported.contains
      ++ process.exported.filter fun name => !names.contains name }

/-- Runs a simple command. -/
def runSimple (interpreter : Interpreter) (tested : Bool) (line : Nat)
    (assignments : List (String × Word)) (words : List Word)
    (redirections : List (Redirection Word)) : Running Unit := do
  setLine line
  modify ({ · with inner := 0 })
  let texts ← interpreter.expandWords words
  let targets ← interpreter.expandTargets redirections
  let before ← get
  let isKept := keepsAssignments texts
  let work := do
    let assigned ← interpreter.makeAssignments isKept assignments
    if !(assigned ++ texts).isEmpty then trace (before.channel? 2) (assigned ++ texts)
    setStatus (← interpreter.dispatch tested texts)
  let failed := do
    setStatus failureStatus
    if isKept && !texts.isEmpty then throw .failed
  if texts = ["exec"] then
    if ← applyTargets targets then work else failed
  else if isKept then redirecting targets failed work
  else
    during id (withoutAssignments before (assignments.map Prod.fst))
      (redirecting targets failed work)
  checkStatus tested

/-- Runs the commands of a pipeline; `input` is where the next one reads from, if that is not
where the process reads from. -/
def runPipeline (interpreter : Interpreter) (tested : Bool) (input : Option Stream) :
    List Command → Running Nat
  | [] => return 0
  | [last] => interpreter.apart do
    connectInput input
    interpreter.run tested last
  | command :: rest => do
    let (bytes, _) ← interpreter.capture do
      connectInput input
      interpreter.run tested command
    let process ← get
    let (stream, process) := process.addSource false bytes
    set process
    runPipeline interpreter tested (some stream) rest
where
  /-- Makes the input lead somewhere else. -/
  connectInput (input : Option Stream) : Running Unit := do
    match input with
    | some stream => modify (·.connect 0 (some stream))
    | none => return

/-- What an interruption does to a loop. -/
inductive Turn where
  /-- The loop goes on. -/
  | goesOn
  /-- The loop ends. -/
  | ends
  /-- Something around the loop ends as well. -/
  | passes (interruption : Interruption)

/-- What an interruption in a loop does to it. -/
def turn : Option Interruption → Turn
  | none => .goesOn
  | some (.left (n + 2)) => .passes (.left (n + 1))
  | some (.left _) => .ends
  | some (.resumed (n + 2)) => .passes (.resumed (n + 1))
  | some (.resumed _) => .goesOn
  | some interruption => .passes interruption

/-- Repeats a command, at most the given number of times, as long as a condition ends the right
way.  Its status is that of the last turn. -/
def repeatWhile (condition body : Running Unit) (onSuccess : Bool) : Nat → Nat → Running Unit
  | 0, _ => throw (.ended (.signal 9))
  | count + 1, status => do
    let interruption ← attempt condition
    match turn interruption with
    | .passes interruption => throw interruption
    | .ends => setStatus status
    | .goesOn =>
      if interruption.isSome then repeatWhile condition body onSuccess count status
      else if ((← get).status = 0) = onSuccess then
        let interruption ← attempt body
        match turn interruption with
        | .passes interruption => throw interruption
        | .ends => return
        | .goesOn => repeatWhile condition body onSuccess count (← get).status
      else setStatus status

/-- Runs a command for each of some texts. -/
def runEach (interpreter : Interpreter) (tested : Bool) (name : String) (body : Command) :
    List String → Running Unit
  | [] => return
  | text :: rest => do
    assignVariable name text
    match turn (← attempt (interpreter.run tested body)) with
    | .passes interruption => throw interruption
    | .ends => return
    | .goesOn => runEach interpreter tested name body rest

/-- Does some work inside of a loop. -/
def inLoop (work : Running Unit) : Running Unit := do
  let before := (← get).loops
  during ({ · with loops := before + 1 }) ({ · with loops := before }) work

/-- The first command with a pattern that a text matches. -/
def choose (interpreter : Interpreter) (text : String) :
    List (List Word × Command) → Running (Option Command)
  | [] => return none
  | (words, body) :: rest => do
    let found ← words.anyM fun word => do
      let glyphs ← interpreter.expand .single (← withHome false word)
      return (Pattern.ofGlyphs glyphs).holds text.toList
    if found then return some body else choose interpreter text rest

/-- More turns than a loop takes. -/
def turnLimit : Nat := 1000000

/-- Runs a command. -/
def runCommand (interpreter : Interpreter) (tested : Bool) : Command → Running Unit
  | .simple line assignments words redirections =>
    interpreter.runSimple tested line assignments words redirections
  | .sequence commands => commands.forM (interpreter.run tested)
  | .pipeline commands => do
    setStatus (← interpreter.runPipeline tested none commands)
    checkStatus tested
  | .negated command => do
    interpreter.run true command
    setStatus (if (← get).status = 0 then 1 else 0)
  | .both first second => do
    interpreter.run true first
    if (← get).status = 0 then interpreter.run tested second
  | .either first second => do
    interpreter.run true first
    if (← get).status ≠ 0 then interpreter.run tested second
  | .background command => do
    let status ← interpreter.apart do
      modify (·.connect 0 (some .nowhere))
      interpreter.run false command
    modify ({ · with status := 0, background := some status })
  | .apart line body redirections => do
    setLine line
    let targets ← interpreter.expandTargets redirections
    setStatus (← interpreter.apart (redirecting targets (throw .failed)
      (interpreter.run tested body)))
    checkStatus tested
  | .redirected line body redirections => do
    setLine line
    let targets ← interpreter.expandTargets redirections
    redirecting targets (setStatus failureStatus) (interpreter.run tested body)
  | .branch condition body otherwise => do
    interpreter.run true condition
    if (← get).status = 0 then interpreter.run tested body
    else match otherwise with
      | some other => interpreter.run tested other
      | none => setStatus 0
  | .loop onSuccess condition body =>
    inLoop (repeatWhile (interpreter.run true condition) (interpreter.run tested body) onSuccess
      turnLimit 0)
  | .each line name words body => do
    setLine line
    let texts ← interpreter.expandWords words
    setStatus 0
    inLoop (interpreter.runEach tested name body texts)
  | .choice line word cases => do
    setLine line
    let text ← interpreter.expandText word
    match ← interpreter.choose text cases with
    | some (.sequence []) => setStatus 0
    | some body => interpreter.run tested body
    | none => setStatus 0
  | .definition name body =>
    modify fun process =>
      { process with
        functions := (name, body) :: process.functions.filter (·.1 != name), status := 0 }

/-- Runs a command, and then the commands for the signals that came. -/
def runWithTraps (interpreter : Interpreter) (tested : Bool) (command : Command) :
    Running Unit := do
  interpreter.runTraps
  interpreter.runCommand tested command
  interpreter.runTraps

/-- The variables of every script that were not set before it. -/
def usualBindings : List (String × String) :=
  [("IFS", " \t\n"), ("OPTIND", "1"), ("PATH", Program.usualFolders), ("PS1", "# "),
    ("PS2", "> "), ("PS4", "+ ")]

/-- Runs a script with a name and arguments to the end of the process. -/
def runText (interpreter : Interpreter) (name : String) (arguments : List String)
    (text : String) : Running Unit := do
  modify fun process =>
    let named := { process with name := name, arguments := arguments }
    let usual := usualBindings.filter fun entry => (named.binding? entry.1).isNone
    ({ named with bindings := named.bindings ++ usual }.assign "PWD"
      (FileSystem.pathOf process.files.current).text).publish "PWD"
  let work := do
    if (← get).has 'n' then return
    else interpreter.runScript false (.ofText text)
  match ← interpreter.finish (← attempt work) with
  | some interruption => throw interruption
  | none => return

/-- Writes a message of the shell before it runs a script. -/
def complainAtStart {β : Type} (text : String) : Running β := do
  complain ((← get).name ++ ": 0: " ++ text)
  throw .failed

/-- The shell: runs the script that its arguments give or name, or its input. -/
def runShell (interpreter : Interpreter) (arguments : List String) : Running Unit := do
  modify ({ · with line := some 0 })
  let read ← readOptions true false arguments
  let name := (← get).name
  if read.runsText then
    match read.others with
    | [] => complainAtStart "-c requires an argument"
    | [text] => interpreter.runText name [] text
    | text :: name :: rest => interpreter.runText name rest text
  else
    let fromInput := (← get).has 's'
    match read.others with
    | file :: rest =>
      if fromInput then interpreter.runText name read.others (← inputText)
      else match (← get).files.read ⟨file⟩ with
        | .ok content => interpreter.runText file rest (Text.ofBytes content.toList)
        | .error fault =>
          let reason := openFault "No such file" fault
          if fault = .isFolder then return
          else complainAtStart ("cannot open " ++ file ++ ": " ++ reason)
    | [] =>
      turnOption true 's'
      interpreter.runText name [] (← inputText)
where
  /-- What is left of the input, as a text. -/
  inputText : Running String := do
    return Text.ofBytes (← readAll).toList

/-- The interpreter of commands that nest at most as deep as given; beyond that the process is
ended. -/
def nested : Nat → Interpreter
  | 0 =>
    let stop : Interruption := .ended (.signal 11)
    ⟨fun _ _ => throw stop, fun _ _ => throw stop, fun _ => throw stop⟩
  | depth + 1 => ⟨runWithTraps (nested depth), expandPieces (nested depth), runShell (nested depth)⟩

/-- How deep commands may nest. -/
def depthLimit : Nat := 8000

end Interpreter

/-- Runs a program as the only one of its process. -/
def Program.run (program : Program) (arguments : List String) : Running Unit :=
  match program with
  | .utility body => do Interpreter.setStatus (← body arguments)
  | .changer => do
    throw (.ended (← (Interpreter.nested Interpreter.depthLimit).startChanged arguments))
  | .shell => (Interpreter.nested Interpreter.depthLimit).shell arguments

end CompileServer.Shell
