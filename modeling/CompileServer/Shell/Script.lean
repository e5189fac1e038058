/-!
# Scripts

A script is a list of lines, and a line is a command that is put together from simple
commands.  What a command works on is written as words, and a word becomes texts only
when the command is run.
-/

namespace CompileServer.Shell

/-- Something that stands for a value. -/
inductive Parameter where
  /-- The argument at a position; the name of the script is at position zero. -/
  | argument (position : Nat)
  /-- All arguments, each a word of its own. -/
  | arguments
  /-- All arguments in one word. -/
  | joinedArguments
  /-- The number of arguments. -/
  | argumentCount
  /-- The status of the last command. -/
  | status
  /-- The number of the process. -/
  | process
  /-- The number of the last process that was not waited for. -/
  | background
  /-- The letters of the options that are on. -/
  | options
  | named (name : String)
deriving DecidableEq, Repr

/-- What is done with a value before it is used. -/
inductive Adjustment where
  /-- Another text takes the place of a missing value. -/
  | orElse
  /-- Another text takes the place of a missing value and becomes the value. -/
  | orAssign
  /-- A missing value ends the process with a message. -/
  | orFail
  /-- Another text takes the place of a value that is there. -/
  | ifThere
  /-- A part that matches a pattern is cut off at the start. -/
  | cutStart (longest : Bool)
  /-- A part that matches a pattern is cut off at the end. -/
  | cutEnd (longest : Bool)
deriving DecidableEq, Repr

/-- What a redirection does with its channel. -/
inductive Direction where
  /-- Read from a file. -/
  | read
  /-- Write to a file in place of what it holds. -/
  | write
  /-- Write to a file after what it holds. -/
  | append
  /-- Read from a file and write to it. -/
  | update
  /-- Lead to where another channel leads. -/
  | share
  /-- Read the text that is given. -/
  | document
deriving DecidableEq, Repr

/-- A change of where a channel leads to, for one command.  The target is a word that names a
file or a channel, or the text itself. -/
structure Redirection (ω : Type) where
  channel : Nat
  direction : Direction
  target : ω

mutual

/-- A part of a word. -/
inductive Piece where
  | text (chars : List Char)
  /-- Pieces whose texts are neither split nor taken for patterns. -/
  | quoted (pieces : List Piece)
  | value (parameter : Parameter)
  /-- A value that is adjusted with the help of a word; `emptyCounts` says that an empty value
  counts as missing. -/
  | adjusted (parameter : Parameter) (adjustment : Adjustment) (emptyCounts : Bool)
      (word : List Piece)
  /-- The number of characters of a value. -/
  | size (parameter : Parameter)
  /-- What a command writes. -/
  | output (command : Command)
  /-- The value of a formula. -/
  | formula (pieces : List Piece)
  /-- Something that is written like a value but is none. -/
  | malformed

/-- A command; a line number says where it starts. -/
inductive Command where
  /-- Assignments, and a name with arguments, each of which may be missing. -/
  | simple (line : Nat) (assignments : List (String × List Piece)) (words : List (List Piece))
      (redirections : List (Redirection (List Piece)))
  /-- Some commands one after the other. -/
  | sequence (commands : List Command)
  /-- Some commands, each of which reads what the one before it writes. -/
  | pipeline (commands : List Command)
  /-- A command whose success is failure. -/
  | negated (command : Command)
  /-- A command and another one for the case that it succeeds. -/
  | both (first second : Command)
  /-- A command and another one for the case that it fails. -/
  | either (first second : Command)
  /-- A command that is not waited for. -/
  | background (command : Command)
  /-- A command in a process of its own. -/
  | apart (line : Nat) (body : Command) (redirections : List (Redirection (List Piece)))
  /-- A command whose channels lead somewhere else. -/
  | redirected (line : Nat) (body : Command) (redirections : List (Redirection (List Piece)))
  /-- A command that is run if a condition succeeds, and one for the other case. -/
  | branch (condition body : Command) (otherwise : Option Command)
  /-- A command that is repeated as long as a condition ends the right way. -/
  | loop (onSuccess : Bool) (condition body : Command)
  /-- A command that is run for each of some texts. -/
  | each (line : Nat) (name : String) (words : List (List Piece)) (body : Command)
  /-- The first of some commands with a pattern that a text matches. -/
  | choice (line : Nat) (word : List Piece) (cases : List (List (List Piece) × Command))
  /-- The meaning of a name. -/
  | definition (name : String) (body : Command)

end

/-- What becomes some texts when the command is run. -/
abbrev Word := List Piece

/-- The text of a word without anything special. -/
def plainText? : Word → Option String
  | [.text chars] => some (String.ofList chars)
  | _ => none

/-- Why a text is no script. -/
inductive ScriptFault where
  /-- Something stands where it cannot stand, and perhaps something else was expected. -/
  | unexpected (what : String) (expected : Option String)
  /-- A quote is never closed. -/
  | openQuote
  /-- A brace after a dollar sign is never closed. -/
  | openBrace
  /-- A formula is never closed. -/
  | openFormula
  /-- A command between backquotes is never closed. -/
  | openBackquote
  /-- A loop has no name for what it runs over. -/
  | badLoopName
  /-- What is to be given a meaning has no name that can have one. -/
  | badFunctionName
deriving DecidableEq, Repr

/-- The message of a fault. -/
def ScriptFault.message (fault : ScriptFault) : String :=
  "Syntax error: " ++ match fault with
    | .unexpected what none => what ++ " unexpected"
    | .unexpected what (some expected) => what ++ " unexpected (expecting " ++ expected ++ ")"
    | .openQuote => "Unterminated quoted string"
    | .openBrace => "Missing '\x7d'"
    | .openFormula => "Missing '))'"
    | .openBackquote => "EOF in backquote substitution"
    | .badLoopName => "Bad for loop variable"
    | .badFunctionName => "Bad function name"

/-- A script: the lines before the first fault, and the fault with its line.  A line comes with
the number of the line up to which the text was read for it. -/
structure Script where
  lines : List (Nat × Command)
  fault : Option (Nat × ScriptFault)

end CompileServer.Shell
