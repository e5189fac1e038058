import CompileServer.Shell.Program
import CompileServer.Shell.Redirecting

/-!
# Commands of the shell itself

These commands change the process that runs the script: its variables, its arguments, its
options, its folder, and where it goes on.  The special ones among them end the process when
they cannot be carried out.
-/

namespace CompileServer.Shell

/-- A command of the shell itself; `tested` says that its failure is expected. -/
abbrev Builtin := Interpreter → (tested : Bool) → List String → Running Nat

/-- The number that an argument has to be. -/
def numberArgument (text : String) : Running Nat := do
  match smallNumber? text with
  | some number => return number
  | none => failScript ("Illegal number: " ++ text)

/-- Refuses an option. -/
def refuseOption {β : Type} (letter : Char) : Running β :=
  failScript ("Illegal option -" ++ String.singleton letter)

/-- Takes options off the front of arguments: letters that stand alone, up to two dashes. -/
def takeOptions (known : String) : List String → Running (List Char × List String)
  | [] => return ([], [])
  | argument :: rest =>
    match argument.toList with
    | ['-', '-'] => return ([], rest)
    | '-' :: c :: letters => do
      match (c :: letters).find? fun letter => !known.toList.contains letter with
      | some letter => refuseOption letter
      | none =>
        let (others, rest) ← takeOptions known rest
        return (c :: letters ++ others, rest)
    | _ => return ([], argument :: rest)

/-- A text between apostrophes, of which none is left inside. -/
def singlyQuoted (text : String) : String :=
  "'" ++ "'\"'\"'".intercalate (text.splitOn "'") ++ "'"

/-- Sorted lines for some variables. -/
def bindingLines (start : String) (bindings : List (String × Option String)) : String :=
  let sorted := bindings.mergeSort fun a b => decide (a.1 ≤ b.1)
  "".intercalate (sorted.map fun (name, value) =>
    start ++ name ++ (value.map fun value => "=" ++ singlyQuoted value).getD "" ++ "\n")

/-- The name and the value in an argument that assigns a variable, or the name alone. -/
def splitAssignment (argument : String) : String × Option String :=
  match argument.splitOn "=" with
  | [name] => (name, none)
  | name :: value => (name, some ("=".intercalate value))
  | [] => (argument, none)

/-- The name that an argument has to be. -/
def nameArgument (name : String) : Running String := do
  if isName name then return name else failScript (name ++ ": bad variable name")

namespace Builtin

/-- Ends the process. -/
def exit : Builtin := fun _ _ arguments => do
  match arguments with
  | [] => throw (.ended (.status (← get).status))
  | text :: _ => throw (.ended (.status (← numberArgument text)))

/-- Ends the function or the script at hand. -/
def giveBack : Builtin := fun _ _ arguments => do
  match arguments with
  | [] => throw .returned
  | text :: _ =>
    let status ← numberArgument text
    modify ({ · with status := status })
    throw .returned

/-- Ends loops, or goes on with the next turn of the last of them. -/
def leaveLoops (interruption : Nat → Interruption) : Builtin := fun _ _ arguments => do
  let count ← match arguments with
    | [] => pure 1
    | text :: _ => numberArgument text
  if count = 0 then failScript ("Illegal number: " ++ arguments.headD "")
  else
    modify ({ · with status := 0 })
    match min count (← get).loops with
    | 0 => return 0
    | reached => throw (interruption reached)

/-- Runs texts as a script. -/
def eval : Builtin := fun interpreter tested arguments => do
  match arguments with
  | [] => return 0
  | texts =>
    modify ({ · with status := 0 })
    interpreter.runScript tested (.ofText (" ".intercalate texts))
    return (← get).status

/-- Runs the script in a file as if its text stood here.  A name without a slash is looked for
among the programs, where there are no scripts. -/
def source : Builtin := fun interpreter _ arguments => do
  match (← takeOptions "" arguments).2 with
  | [] => return 0
  | name :: _ =>
    if !name.toList.contains '/' then failScript (name ++ ": not found")
    else
      let text ← match (← get).files.read ⟨name⟩ with
        | .ok content => pure (Text.ofBytes content.toList)
        | .error fault =>
          if fault = .isFolder then pure ""
          else failScript ("cannot open " ++ name ++ ": " ++ openFault "No such file" fault)
      modify ({ · with status := 0, speaker := some name })
      match ← attempt (interpreter.runScript false (.ofText text)) with
      | none => pure ()
      | some .returned => pure ()
      | some interruption => throw interruption
      return (← get).status

/-- Sets variables and has something done with their names, or lists variables. -/
def declare (verb : String) (members : Process → List String) (mark : String → Process → Process) :
    Builtin := fun _ _ arguments => do
  let (options, arguments) ← takeOptions "p" arguments
  if arguments.isEmpty || options.contains 'p' then
    let process ← get
    let known := (members process).map fun name => (name, process.binding? name)
    writeText (bindingLines (verb ++ " ") known)
  else
    for argument in arguments do
      let (name, value) := splitAssignment argument
      let name ← nameArgument name
      match value with
      | some value => assignVariable name value
      | none => pure ()
      modify (mark name)
  return 0

/-- Makes variables known to the programs that are started. -/
def exportNames : Builtin :=
  declare "export" (·.exported) fun name process => process.publish name

/-- Makes variables keep their values. -/
def fixNames : Builtin :=
  declare "readonly" (·.fixed) fun name process =>
    { process with fixed := name :: process.fixed.filter (· != name) }

/-- Takes values from variables, or meanings from names. -/
def unset : Builtin := fun _ _ arguments => do
  let (options, names) ← takeOptions "vf" arguments
  for name in names do
    if options.getLast? = some 'f' then
      modify fun process =>
        { process with functions := process.functions.filter (·.1 != name) }
    else
      let name ← nameArgument name
      if (← get).fixed.contains name then failScript (name ++ ": is read only")
      else modify (·.unassign name)
  return 0

/-- Drops arguments of the script. -/
def shift : Builtin := fun _ _ arguments => do
  let count ← match arguments with
    | [] => pure 1
    | text :: _ => numberArgument text
  let process ← get
  if process.arguments.length < count then failScript "can't shift that many"
  else
    set { process with arguments := process.arguments.drop count }
    return 0

end Builtin

/-- The options of the shell and their letters, in the order in which they are listed. -/
def optionNames : List (String × Option Char) :=
  [("errexit", some 'e'), ("noglob", some 'f'), ("ignoreeof", some 'I'), ("interactive", some 'i'),
    ("monitor", some 'm'), ("noexec", some 'n'), ("stdin", some 's'), ("xtrace", some 'x'),
    ("verbose", some 'v'), ("vi", some 'V'), ("emacs", some 'E'), ("noclobber", some 'C'),
    ("allexport", some 'a'), ("notify", some 'b'), ("nounset", some 'u'),
    ("privileged", some 'p'), ("nolog", none), ("debug", none)]

/-- Turns an option on or off. -/
def turnOption (isOn : Bool) (letter : Char) : Running Unit := do
  if optionNames.any fun option => option.2 = some letter then
    modify fun process =>
      let others := process.options.filter (· != letter)
      { process with options := if isOn then letter :: others else others }
  else failScript ("Illegal option " ++ (if isOn then "-" else "+") ++ String.singleton letter)

/-- Turns an option on or off by its name. -/
def turnNamedOption (isOn : Bool) (name : String) : Running Unit := do
  match optionNames.lookup name with
  | some (some letter) => turnOption isOn letter
  | some none => return
  | none => failScript ("Illegal option -o " ++ name)

/-- The list of all options. -/
def optionList (process : Process) : String :=
  "Current option settings\n" ++ "".intercalate (optionNames.map fun (name, letter) =>
    let isOn := (letter.map process.has).getD false
    name ++ "".pushn ' ' (16 - name.length) ++ (if isOn then "on" else "off") ++ "\n")

/-- What options leave of arguments: whether two dashes or a dash ended them, whether one of them
asks for a text to run, and the rest. -/
structure OptionsRead where
  isClosed : Bool
  runsText : Bool
  others : List String

/-- Reads the options in front of arguments.  `starts` says that they are those of the shell
itself, of which one asks for a text to run. -/
def readOptions (starts : Bool) (runsText : Bool) : List String → Running OptionsRead
  | [] => return ⟨false, runsText, []⟩
  | argument :: rest =>
    match argument.toList with
    | ['-'] => return ⟨true, runsText, rest⟩
    | ['-', '-'] => return ⟨true, runsText, rest⟩
    | sign :: letters =>
      if sign = '-' || sign = '+' then do
        let takesName := letters.contains 'o'
        for letter in letters do
          if letter = 'c' && starts then pure ()
          else if letter = 'o' then
            match rest with
            | name :: _ => turnNamedOption (sign = '-') name
            | [] => writeText (optionList (← get))
          else turnOption (sign = '-') letter
        let runsText := runsText || starts && letters.contains 'c'
        match takesName, rest with
        | true, _ :: after => readOptions starts runsText after
        | _, rest => readOptions starts runsText rest
      else return ⟨false, runsText, argument :: rest⟩
    | [] => return ⟨false, runsText, argument :: rest⟩

namespace Builtin

/-- Changes options and the arguments of the script, or lists variables. -/
def setOptions : Builtin := fun _ _ arguments => do
  match arguments with
  | [] =>
    let known := (← get).bindings.map fun (name, value) => (name, some value)
    writeText (bindingLines "" known)
  | arguments =>
    let read ← readOptions false false arguments
    if read.isClosed || !read.others.isEmpty then
      modify ({ · with arguments := read.others })
  return 0

/-- Sets the commands for signals, or lists them. -/
def trap : Builtin := fun _ _ arguments => do
  let (_, arguments) ← takeOptions "" arguments
  match arguments with
  | [] =>
    let sorted := (← get).traps.mergeSort fun a b => decide (a.1 ≤ b.1)
    for (signal, text) in sorted do
      writeText ("trap -- " ++ singlyQuoted text ++ " " ++ signalText signal ++ "\n")
    return 0
  | first :: rest =>
    let isSignal := rest.isEmpty || (naturalOf? first.toList).isSome && (signalOf? first).isSome
    let (action, names) := if isSignal then (none, first :: rest) else (some first, rest)
    for name in names do
      match signalOf? name with
      | none =>
        complain ("trap: " ++ name ++ ": bad trap")
        return 1
      | some signal =>
        modify fun process =>
          let others := process.traps.filter (·.1 != signal)
          { process with
            traps := match action with
              | none => others
              | some "-" => others
              | some text => (signal, text) :: others }
    return 0

/-- Changes the folder that the process is in. -/
def changeFolder : Builtin := fun _ _ arguments => do
  let (_, arguments) ← takeOptions "LP" arguments
  let process ← get
  let target := arguments.headD ((process.binding? "HOME").getD "")
  let goal := if target = "-" then (process.binding? "OLDPWD").getD "" else target
  match process.files.find true ⟨if goal.isEmpty then "." else goal⟩ with
  | .ok (.folder place) =>
    let before := (FileSystem.pathOf process.files.current).text
    let now := (FileSystem.pathOf place).text
    set (({ process with files := { process.files with current := place } }.assign
      "OLDPWD" before).assign "PWD" now)
    modify fun process => (process.publish "OLDPWD").publish "PWD"
    if target = "-" then writeText (now ++ "\n")
    return 0
  | _ => failScript ("can't cd to " ++ target)

/-- Declares variables that get their values back when the function at hand ends. -/
def declareLocal : Builtin := fun _ _ arguments => do
  if (← get).calls = 0 then failScript "not in a function"
  else
    for argument in arguments do
      let (name, value) := splitAssignment argument
      let name ← nameArgument name
      let process ← get
      if !(process.saved.any (·.1 = name)) then
        set { process with saved := (name, process.binding? name) :: process.saved }
      match value with
      | some value => assignVariable name value
      | none => pure ()
    return 0

/-- The characters of a line that was read, where a backslash quotes the next character unless
`isRaw`, and what follows the line. -/
def lineGlyphs (isRaw : Bool) : List Char → List Glyph × Option (List Char)
  | [] => ([], none)
  | '\n' :: rest => ([], some rest)
  | '\x5c' :: '\n' :: rest =>
    if isRaw then ([.loose '\x5c'], some rest) else lineGlyphs isRaw rest
  | '\x5c' :: c :: rest =>
    if isRaw then
      let (glyphs, rest) := lineGlyphs isRaw (c :: rest)
      (.loose '\x5c' :: glyphs, rest)
    else
      let (glyphs, rest) := lineGlyphs isRaw rest
      (.fixed c :: glyphs, rest)
  | c :: rest =>
    let (glyphs, rest) := lineGlyphs isRaw rest
    (.loose c :: glyphs, rest)

/-- Reads a line of the input into variables. -/
def readLine : Builtin := fun _ _ arguments => do
  let (options, names) ← match arguments with
    | "-p" :: _ :: rest => takeOptions "r" rest
    | "-r" :: "-p" :: _ :: rest => pure (['r'], rest)
    | arguments => takeOptions "r" arguments
  if names.isEmpty then failScript "arg count"
  else
    let names ← names.mapM nameArgument
    let bytes := (← get).available 0
    let (glyphs, rest) := lineGlyphs (options.contains 'r') (Text.ofBytes bytes.toList).toList
    let process ← get
    set (process.keepUnread 0 (String.ofList (rest.getD [])).toUTF8)
    let fields := Glyph.splitUpTo process.separators names.length glyphs
    for (name, field) in names.zip fields do
      assignVariable name (Glyph.text field)
    return if rest.isSome then 0 else 1

/-- Waits for processes that were not waited for; all of them have ended. -/
def wait : Builtin := fun _ _ arguments => do
  let mut status := 0
  for text in (← takeOptions "" arguments).2 do
    let _ ← numberArgument text
    status := match (← get).background with
      | some ended => if text = Process.backgroundNumber then ended else signalBase - 1
      | none => signalBase - 1
  return status
where
  signalBase : Nat := Interpreter.signalBase

/-- What a name means. -/
inductive Meaning where
  | keyword
  | special
  | function
  | builtin
  | program (path : String)

/-- What a name means to a process. -/
def meaning? (builtins : List String) (process : Process) (name : String) : Option Meaning :=
  if Token.keywords.contains name then some .keyword
  else if reservedNames.contains name then some .special
  else if (process.functions.lookup name).isSome then some .function
  else if builtins.contains name then some .builtin
  else (Program.find? process name).map fun found => .program found.1

/-- Tells what names mean. -/
def describe (builtins : List String) (names : List String) : Running Nat := do
  let mut status := 0
  for name in names do
    let text := match meaning? builtins (← get) name with
      | some .keyword => " is a shell keyword"
      | some .special => " is a special shell builtin"
      | some .function => " is a shell function"
      | some .builtin => " is a shell builtin"
      | some (.program path) => " is " ++ path
      | none => ": not found"
    if text = ": not found" then status := Interpreter.signalBase - 1
    writeText (name ++ text ++ "\n")
  return status

/-- Writes how a name is found. -/
def locate (builtins : List String) (names : List String) : Running Nat := do
  match names with
  | [] => return 0
  | name :: _ =>
    match meaning? builtins (← get) name with
    | some (.program path) =>
      writeText (path ++ "\n")
      return 0
    | some _ =>
      writeText (name ++ "\n")
      return 0
    | none => return Interpreter.signalBase - 1

/-- A utility as a command of the shell. -/
def ofUtility (utility : Utility) : Builtin := fun _ _ arguments => utility arguments

/-- The special commands, by name. -/
def specials : List (String × Builtin) :=
  [(":", ofUtility (justStatus 0)), (".", source), ("break", leaveLoops .left),
    ("continue", leaveLoops .resumed), ("eval", eval), ("exit", exit), ("export", exportNames),
    ("readonly", fixNames), ("return", giveBack), ("set", setOptions), ("shift", shift),
    ("times", fun _ _ _ => do
      writeText "0m0.00s 0m0.00s\n0m0.00s 0m0.00s\n"
      return 0),
    ("trap", trap), ("unset", unset), ("local", declareLocal)]

/-- The commands that are not special, by name. -/
def regulars : List (String × Builtin) :=
  let same := [("echo", echo unescape), ("printf", printf), ("test", test "test"), ("[", bracket),
    ("kill", kill), ("pwd", writeFolder), ("true", justStatus 0), ("false", justStatus 1),
    ("hash", justStatus 0), ("jobs", justStatus 0), ("ulimit", justStatus 0),
    ("umask", fun arguments => do
      if arguments.isEmpty then writeText "0022\n"
      return 0)]
  same.map (fun utility => (utility.1, ofUtility utility.2))
    ++ [("cd", changeFolder), ("chdir", changeFolder), ("read", readLine), ("wait", wait)]

/-- The names of the commands that are not special, and those that only the shell itself
knows. -/
def regularNames : List String :=
  ["command", "type"] ++ regulars.map Prod.fst

/-- Tells what names mean. -/
def type : Builtin := fun _ _ arguments => describe regularNames arguments

end Builtin

end CompileServer.Shell
