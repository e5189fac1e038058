import CompileServer.Shell.Formula
import CompileServer.Shell.PathPattern
import CompileServer.Shell.Process
import CompileServer.Shell.Reader
import CompileServer.Text.Lossy

/-!
# Expanding words

A word becomes texts: parameters are replaced by their values, commands by what they write,
and formulas by their results.  Values outside of quotes are split, and patterns outside of
quotes become the paths that match them.
-/

namespace CompileServer.Shell

/-- How a word is expanded. -/
structure Manner where
  /-- Whether quotes are around. -/
  isQuoted : Bool
  /-- Whether the characters of the word separate texts as those of values do. -/
  isLoose : Bool
  /-- Whether several texts may come out. -/
  splits : Bool

/-- The interpreter of what stands in a command: commands, where `tested` says that their
failure is expected, and words. -/
structure Interpreter where
  run : (tested : Bool) → Command → Running Unit
  expand : Manner → Word → Running (List Glyph)
  /-- The shell itself as a program, given its arguments. -/
  shell : List String → Running Unit

namespace Manner

/-- The way of a word that may become several texts. -/
def several : Manner :=
  ⟨false, false, true⟩

/-- The way of a word that becomes one text. -/
def single : Manner :=
  ⟨false, false, false⟩

/-- The way of a text between quotes. -/
def quoted : Manner :=
  ⟨true, false, false⟩

/-- A character of a word. -/
def ofWord (manner : Manner) (c : Char) : Glyph :=
  if manner.isQuoted then .fixed c else if manner.isLoose then .loose c else .plain c

/-- A character of a value. -/
def ofValue (manner : Manner) (c : Char) : Glyph :=
  if manner.isQuoted then .fixed c else .loose c

/-- The glyphs of a value. -/
def value (manner : Manner) (text : String) : List Glyph :=
  text.toList.map manner.ofValue

/-- The glyphs of some values that remain apart. -/
def values (manner : Manner) (texts : List String) : List Glyph :=
  let glyphs := texts.map fun text =>
    if manner.isQuoted then .quotes :: manner.value text else manner.value text
  [if manner.isQuoted then .cut else .gap].intercalate glyphs

end Manner

/-- How a parameter is called in messages. -/
def Parameter.text : Parameter → String
  | .argument position => toString position
  | .arguments => "@"
  | .joinedArguments => "*"
  | .argumentCount => "#"
  | .status => "?"
  | .process => "$"
  | .background => "!"
  | .options => "-"
  | .named name => name

/-- Sets a variable unless it keeps its value. -/
def assignVariable (name value : String) : Running Unit := do
  if (← get).fixed.contains name then failScript (name ++ ": is read only")
  else modify (·.assign name value)

namespace Interpreter

/-- Runs the lines of a script up to its fault. -/
def runScript (interpreter : Interpreter) (tested : Bool) (script : Script) : Running Unit := do
  script.lines.forM fun (line, command) => do
    modify ({ · with reached := line })
    interpreter.run tested command
  match script.fault with
  | none => return
  | some (line, fault) =>
    modify ({ · with line := some line })
    failScript fault.message

/-- Runs the commands for the signals that came. -/
def runTraps (interpreter : Interpreter) : Running Unit := do
  let caught := (← get).caught
  modify ({ · with caught := [] })
  for signal in caught do
    let process ← get
    match process.traps.lookup signal with
    | some text =>
      interpreter.runScript false (.ofText text)
      modify ({ · with status := process.status })
    | none => pure ()

/-- Runs the command for the end of the process, if there is one, after the process was
interrupted or came to its end. -/
def finish (interpreter : Interpreter) (interruption : Option Interruption) :
    Running (Option Interruption) := do
  let process ← get
  match process.traps.lookup 0, interruption with
  | none, _ => return interruption
  | some _, some (.ended (.signal _)) => return interruption
  | some text, _ =>
    let exit := Interruption.exit process.status interruption
    let status := match exit with
      | .status code => code
      | .signal _ => process.status
    set { process with traps := process.traps.filter (·.1 != 0), status := status }
    match ← attempt (interpreter.runScript false (.ofText text)) with
    | some (.ended exit) => return some (.ended exit)
    | some .failed => return some .failed
    | _ => return some (.ended exit)

/-- Does some work in a process of its own, of which only what it does to files and to bytes on
their way remains, and gives its status.  A signal that ends this process is not caught. -/
def apart (interpreter : Interpreter) (work : Running Unit) : Running Nat := do
  let before ← get
  modify fun process =>
    { process with traps := process.traps.filter (·.2 = ""), caught := [] }
  let interruption ← interpreter.finish (← attempt work)
  let after ← get
  set { before with
    files := { after.files with current := before.files.current }
    sources := after.sources
    sinks := after.sinks }
  match Interruption.exit after.status interruption with
  | .signal number => throw (.ended (.signal number))
  | .status code => return code

/-- What some work of a process of its own writes, and its status. -/
def capture (interpreter : Interpreter) (work : Running Unit) : Running (ByteArray × Nat) := do
  let index := (← get).sinks.size
  modify fun process => { process with sinks := process.sinks.push .empty }
  let status ← interpreter.apart do
    modify (·.connect 1 (some (.sink index)))
    work
  let bytes := (← get).sinks.getD index .empty
  modify fun process => { process with sinks := process.sinks.take index }
  return (bytes, status)

/-- The text that a command writes, without the line ends at its end. -/
def output (interpreter : Interpreter) : Command → Running String
  | .sequence [] => return ""
  | command => do
    let (bytes, status) ← interpreter.capture (interpreter.run false command)
    modify ({ · with inner := status })
    let kept := (bytes.toList.filter (· ≠ 0)).reverse.dropWhile (· = 0x0a)
    return Text.ofBytes kept.reverse

/-- The value of a formula. -/
def formula (interpreter : Interpreter) (pieces : Word) : Running String := do
  let text := Glyph.text (← interpreter.expand .quoted pieces)
  let (result, assigned) := calculate (← get).bindings text
  for (name, value) in assigned.reverse do
    assignVariable name (toString value)
  match result with
  | .ok value => return toString value
  | .error fault => failScript (fault.message text)

/-- The value of a parameter; one that is missing is empty unless values are required. -/
def valueOf (parameter : Parameter) : Running String := do
  let process ← get
  match process.value? parameter with
  | some value => return value
  | none =>
    if process.has 'u' then failScript (parameter.text ++ ": parameter not set") else return ""

/-- Expands a value that is not adjusted. -/
def expandValue (manner : Manner) (parameter : Parameter) : Running (List Glyph) := do
  let process ← get
  match parameter with
  | .arguments =>
    if manner.splits then return manner.values process.arguments
    else return manner.value process.joinedArguments
  | .joinedArguments =>
    if manner.splits && !manner.isQuoted then return manner.values process.arguments
    else return manner.value process.joinedArguments
  | parameter => return manner.value (← valueOf parameter)

/-- Expands an adjusted value. -/
def expandAdjusted (interpreter : Interpreter) (manner : Manner) (parameter : Parameter)
    (adjustment : Adjustment) (emptyCounts : Bool) (word : Word) : Running (List Glyph) := do
  let value := (← get).value? parameter
  let isMissing := value.isNone || emptyCounts && value = some ""
  let other := interpreter.expand { manner with isLoose := !manner.isQuoted } word
  let cut := fun (apply : Pattern → List Char → List Char) => do
    let text ← valueOf parameter
    let pattern := Pattern.ofGlyphs (← interpreter.expand .single word)
    return manner.value (String.ofList (apply pattern text.toList))
  match adjustment with
  | .orElse => if isMissing then other else expandValue manner parameter
  | .ifThere => if isMissing then return [] else other
  | .orAssign =>
    if isMissing then
      let text := Glyph.text (← interpreter.expand { manner with splits := false } word)
      match parameter with
      | .named name =>
        assignVariable name text
        return manner.value text
      | parameter => failScript (parameter.text ++ ": bad variable name")
    else expandValue manner parameter
  | .orFail =>
    if isMissing then
      let text := Glyph.text (← interpreter.expand { manner with splits := false } word)
      let usual := if emptyCounts then "parameter not set or null" else "parameter not set"
      failScript (parameter.text ++ ": " ++ if word.isEmpty then usual else text)
    else expandValue manner parameter
  | .cutStart longest => cut fun pattern => pattern.cutStart longest
  | .cutEnd longest => cut fun pattern => pattern.cutEnd longest

/-- Expands a part of a word. -/
def expandPiece (interpreter : Interpreter) (manner : Manner) : Piece → Running (List Glyph)
  | .text chars => return chars.map manner.ofWord
  | .quoted [.value .arguments] => do
    if manner.splits && (← get).arguments.isEmpty then return []
    else return .quotes :: (← expandValue { manner with isQuoted := true } .arguments)
  | .quoted pieces => do
    return .quotes :: (← interpreter.expand { manner with isQuoted := true } pieces)
  | .value parameter => expandValue manner parameter
  | .adjusted parameter adjustment emptyCounts word =>
    interpreter.expandAdjusted manner parameter adjustment emptyCounts word
  | .size parameter => return manner.value (toString (← valueOf parameter).length)
  | .output command => return manner.value (← interpreter.output command)
  | .formula pieces => return manner.value (← interpreter.formula pieces)
  | .malformed => failScript "Bad substitution"

/-- Expands the parts of a word. -/
def expandPieces (interpreter : Interpreter) (manner : Manner) (word : Word) :
    Running (List Glyph) :=
  word.flatMapM (interpreter.expandPiece manner)

end Interpreter

namespace Word

/-- Puts a character in front of a word. -/
def push (c : Char) : Word → Word
  | .text chars :: rest => .text (c :: chars) :: rest
  | word => .text [c] :: word

/-- Replaces tildes that stand for a folder in characters before some pieces.  `isStart` says that
a tilde may stand here, and `afterColons` that it may after colons. -/
def homeInChars (home : String) (afterColons isStart : Bool) (rest : Word) : List Char → Word
  | [] => rest
  | c :: chars =>
    let ends := match chars with
      | [] => rest.isEmpty
      | next :: _ => next = '/' || afterColons && next = ':'
    if c = '~' && isStart && ends then
      .quoted [.text home.toList] :: homeInChars home afterColons false rest chars
    else push c (homeInChars home afterColons (afterColons && c = ':') rest chars)

/-- Replaces tildes that stand for a folder; where colons separate, they may stand after
colons. -/
def withHome (home : String) (afterColons : Bool) : Word → Word
  | .text chars :: rest =>
    homeInChars home afterColons true (if afterColons then later rest else rest) chars
  | .quoted pieces :: rest => .quoted pieces :: if afterColons then later rest else rest
  | word => word
where
  later : Word → Word
    | [] => []
    | .text chars :: rest => homeInChars home afterColons false (later rest) chars
    | piece :: rest => piece :: later rest

end Word

namespace Interpreter

/-- A word with the folder of the user in place of tildes. -/
def withHome (afterColons : Bool) (word : Word) : Running Word := do
  match (← get).binding? "HOME" with
  | some home => return Word.withHome home afterColons word
  | none => return word

/-- The one text that a word becomes where it is not split. -/
def expandText (interpreter : Interpreter) (word : Word) : Running String := do
  return Glyph.text (← interpreter.expand .single (← withHome false word))

/-- The value that a word assigns. -/
def expandAssigned (interpreter : Interpreter) (word : Word) : Running String := do
  return Glyph.text (← interpreter.expand .single (← withHome true word))

/-- The texts that a word becomes. -/
def expandWord (interpreter : Interpreter) (word : Word) : Running (List String) := do
  let glyphs ← interpreter.expand .several (← withHome false word)
  let process ← get
  let fields := Glyph.split process.separators glyphs
  if process.has 'f' then return fields.map Glyph.text
  else return fields.flatMap (PathPattern.expand process.files)

/-- The commands whose arguments may be assignments, which are not split. -/
def assigningCommands : List String :=
  ["export", "readonly", "local"]

/-- The texts that the words of a command become. -/
def expandWords (interpreter : Interpreter) (words : List Word) : Running (List String) :=
  words.foldlM
    (fun texts word => do
      match if (texts.head?.map assigningCommands.contains).getD false then
          Reading.assignment? word else none with
      | some (name, value) =>
        return texts ++ [name ++ "=" ++ (← interpreter.expandAssigned value)]
      | none => return texts ++ (← interpreter.expandWord word))
    []

end Interpreter

end CompileServer.Shell
