import CompileServer.Shell.Expansion

/-!
# Redirecting channels

While a command runs its channels may lead to files, to each other, or to documents.
-/

namespace CompileServer.Shell

/-- Why a file could not be opened, where `missing` is the word for one that is not there. -/
def openFault (missing : String) (fault : FileFault) : String :=
  if fault = .notFound || fault = .notFolder then missing else fault.words

/-- A redirection whose target is known. -/
abbrev Target := Redirection String

namespace Process

/-- The files that stand for channels, and one that stands for nothing. -/
def device? (process : Process) (name : String) : Option (Option Stream) :=
  match name with
  | "/dev/null" => some (some .nowhere)
  | "/dev/stdin" => some (process.channel? 0)
  | "/dev/stdout" => some (process.channel? 1)
  | "/dev/stderr" => some (process.channel? 2)
  | _ => none

/-- Makes a channel lead to a file that is read. -/
def openToRead (process : Process) (channel : Nat) (target : String) : Except String Process :=
  match process.device? target, process.files.read ⟨target⟩ with
  | some (some .nowhere), _ =>
    let (stream, process) := process.addSource true .empty
    .ok (process.connect channel (some stream))
  | some stream, _ => .ok (process.connect channel stream)
  | none, .ok content =>
    let (stream, process) := process.addSource true content
    .ok (process.connect channel (some stream))
  | none, .error fault =>
    if target = "/dev/zero" then
      let (stream, process) := process.addSource true ⟨Array.replicate endless 0⟩
      .ok (process.connect channel (some stream))
    else if fault = .isFolder then .ok (process.connect channel (some .folder))
    else .error ("cannot open " ++ target ++ ": " ++ openFault "No such file" fault)

/-- Makes a channel lead to a file that is written. -/
def openToWrite (process : Process) (channel : Nat) (appends : Bool) (target : String) :
    Except String Process :=
  match process.device? target with
  | some stream => .ok (process.connect channel stream)
  | none =>
    let emptied := if appends then .ok process.files else process.files.write ⟨target⟩ .empty
    match emptied.bind (·.openFile ⟨target⟩) with
    | .ok (place, files) =>
      .ok ({ process with files := files }.connect channel (some (.file place)))
    | .error fault =>
      .error ("cannot create " ++ target ++ ": " ++ openFault "Directory nonexistent" fault)

/-- Makes a channel lead to where another one leads, or closes it. -/
def share (process : Process) (channel : Nat) (target : String) : Except String Process :=
  match target.toList with
  | ['-'] => .ok (process.connect channel none)
  | [c] =>
    match process.channel? (c.toNat - 48) with
    | some stream => .ok (process.connect channel (some stream))
    | none => .error (target ++ ": Bad file descriptor")
  | _ => .error (target ++ ": Bad file descriptor")

/-- Applies a redirection. -/
def redirect (process : Process) (target : Target) : Except String Process :=
  match target.direction with
  | .read => process.openToRead target.channel target.target
  | .write => process.openToWrite target.channel false target.target
  | .append => process.openToWrite target.channel true target.target
  | .update => do
    let made ← process.openToWrite target.channel true target.target
    made.openToRead target.channel target.target
  | .share => process.share target.channel target.target
  | .document =>
    let (stream, process) := process.addSource false target.target.toUTF8
    .ok (process.connect target.channel (some stream))

end Process

/-- Whether a text names a channel or says that one is closed. -/
def isChannelName (text : String) : Bool :=
  match text.toList with
  | [c] => c.isDigit || c = '-'
  | _ => false

namespace Interpreter

/-- The targets of redirections. -/
def expandTargets (interpreter : Interpreter) (redirections : List (Redirection Word)) :
    Running (List Target) :=
  redirections.mapM fun redirection => do
    let text ← match redirection.direction with
      | .document => Glyph.text <$> interpreter.expand .quoted redirection.target
      | _ => interpreter.expandText redirection.target
    if redirection.direction = .share && !isChannelName text then
      modify fun process => { process with line := some process.reached }
      failScript "Syntax error: Bad fd number"
    else return { redirection with target := text }

/-- Applies redirections in order and tells whether all of them could be applied. -/
def applyTargets : List Target → Running Bool
  | [] => return true
  | target :: rest => do
    match (← get).redirect target with
    | .ok process =>
      set process
      applyTargets rest
    | .error text =>
      complainOfScript text
      return false

/-- Does some work with redirections applied, unless one of them cannot be applied; afterwards
the channels lead to where they led before. -/
def redirecting (targets : List Target) (failed work : Running Unit) : Running Unit := do
  let before := (← get).channels
  during id ({ · with channels := before }) do
    if ← applyTargets targets then work else failed

end Interpreter

end CompileServer.Shell
