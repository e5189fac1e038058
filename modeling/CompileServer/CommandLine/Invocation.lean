/-!
# Invocations

The arguments of the program name a command and maybe a file with settings.  The option for
the file may stand anywhere: the one nearest to the last word of the command counts, and no
word takes two.
-/

namespace CompileServer

/-- What the program is asked to do. -/
inductive Command where
  /-- Answer requests. -/
  | serve (foreground : Bool)
  /-- Show the settings that hold. -/
  | showConfig
  /-- Write a file with settings to start from. -/
  | initConfig
deriving DecidableEq, Repr

/-- A command and the file with settings that was named. -/
structure Invocation where
  config : Option String
  command : Command
deriving DecidableEq, Repr

/-- Why there is no command to carry out. -/
inductive Misuse where
  /-- Help is wanted. -/
  | help
  /-- The arguments make no sense. -/
  | wrong
deriving DecidableEq, Repr

namespace Invocation

/-- The words of the command so far. -/
inductive Position where
  | top
  | serve (foreground : Bool)
  | config
  | complete (command : Command)
deriving DecidableEq, Repr

/-- The command at a position, if the words so far name one. -/
def Position.command? : Position → Option Command
  | .top => none
  | .serve foreground => some (.serve foreground)
  | .config => none
  | .complete command => some command

/-- The position after one more word. -/
def Position.next? (position : Position) (word : String) : Option Position :=
  match position, word with
  | .top, "serve" => some (.serve false)
  | .top, "config" => some .config
  | .config, "show" => some (.complete .showConfig)
  | .config, "init" => some (.complete .initConfig)
  | _, _ => none

/-- What has been read of the arguments. -/
structure Progress where
  position : Position
  /-- The file with settings that counts so far. -/
  config : Option String
  /-- Whether the option for it was given since the last word. -/
  hasConfig : Bool
deriving DecidableEq, Repr

/-- Takes the option for a file with settings. -/
def Progress.takeConfig (progress : Progress) (file : String) : Except Misuse Progress :=
  if progress.hasConfig || file = "" then .error .wrong
  else .ok { progress with config := some file, hasConfig := true }

/-- Takes a word of the command. -/
def Progress.takeWord (progress : Progress) (word : String) : Except Misuse Progress :=
  match progress.position.next? word with
  | some position => .ok { progress with position := position, hasConfig := false }
  | none => .error .wrong

/-- The invocation after the last argument. -/
def Progress.finish (progress : Progress) : Except Misuse Invocation :=
  match progress.position.command? with
  | some command => .ok ⟨progress.config, command⟩
  | none => .error .wrong

/-- Whether help is wanted for words that name something; `help` itself may be the last of
them wherever it is a command. -/
def helpFor (position : Position) : List String → Misuse
  | [] => .help
  | ["help"] => if position = .top || position = .config then .help else .wrong
  | word :: rest =>
    match position.next? word with
    | some next => helpFor next rest
    | none => .wrong

/-- What follows the name of the option for a file with settings and an equals sign. -/
def attachedFile? (argument : String) : Option String :=
  let start := "--config=".toList
  if start.isPrefixOf argument.toList then some (String.ofList (argument.toList.drop start.length))
  else none

/-- Whether an argument can only be an option. -/
def looksLikeOption (argument : String) : Bool :=
  argument.toList.head? = some '-' && argument != "-"

/-- Reads arguments. -/
def read (progress : Progress) : List String → Except Misuse Invocation
  | [] => progress.finish
  | ["--"] => progress.finish
  | "--config" :: file :: rest =>
    if looksLikeOption file then .error .wrong
    else
      match progress.takeConfig file with
      | .ok progress => read progress rest
      | .error misuse => .error misuse
  | "--foreground" :: rest =>
    match progress.position with
    | .serve false => read { progress with position := .serve true } rest
    | _ => .error .wrong
  | "--help" :: _ => .error .help
  | "help" :: rest =>
    if progress.position = .top || progress.position = .config then
      .error (helpFor progress.position rest)
    else .error .wrong
  | argument :: rest =>
    match attachedFile? argument with
    | some file =>
      match progress.takeConfig file with
      | .ok progress => read progress rest
      | .error misuse => .error misuse
    | none =>
      if ['-', 'h'].isPrefixOf argument.toList then .error .help
      else if looksLikeOption argument then .error .wrong
      else
        match progress.takeWord argument with
        | .ok progress => read progress rest
        | .error misuse => .error misuse

/-- The invocation that some arguments stand for. -/
def ofArguments (arguments : List String) : Except Misuse Invocation :=
  read ⟨.top, none, false⟩ arguments

end Invocation

end CompileServer
