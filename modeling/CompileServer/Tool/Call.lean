import CompileServer.Compile.Error
import CompileServer.Json.Printer
import CompileServer.Program.Machine
import CompileServer.Text.Blank

/-!
# Calling tools

A tool is a program that does one operation each time it is started.  The operation is
its last argument, it reads a request from its input, and its output is the reply.
-/

namespace CompileServer

/-- Why a call of a tool failed. -/
inductive ToolError where
  /-- The program could not be started. -/
  | notStarted (program : String) (fault : FileFault)
  /-- The program did not report success. -/
  | failed (program operation : String) (exit : Exit) (messages : String)
  /-- The program did not take its request. -/
  | notRead (program operation : String)
  /-- The reply has the wrong shape. -/
  | badReply (program operation : String) (failure : Json.Failure)
deriving DecidableEq, Repr

namespace ToolError

/-- An operation of a program. -/
def invocation (program operation : String) : String :=
  "\x60" ++ program ++ " " ++ operation ++ "\x60"

/-- The causes of the error. -/
def causes : ToolError → Causes
  | .notStarted program fault => ["failed to start \x60" ++ program ++ "\x60", fault.message]
  | .failed program operation exit messages =>
    [invocation program operation ++ " exited with " ++ exit.text ++ ": " ++ messages]
  | .notRead program operation =>
    ["failed to write request to " ++ invocation program operation,
      (FileFault.system 32).message]
  | .badReply program operation failure =>
    ["invalid reply from " ++ invocation program operation, failure.message]

end ToolError

/-- The most bytes that can be handed to a program that does not read them. -/
def pipeCapacity : Nat := 65536

namespace ToolCommand

/-- What a finished program says in reply. -/
def reply {β : Type} (command : ToolCommand) (operation : String) (decoder : Json.Decoder β)
    (requestSize : Nat) (finished : Finished) : Except ToolError β :=
  if !finished.exit.isSuccess then
    .error (.failed command.program operation finished.exit
      (Text.trim (Text.ofBytes finished.messages.toList)))
  else if !finished.unread.isEmpty && pipeCapacity < requestSize then
    .error (.notRead command.program operation)
  else
    (Json.decodeDocument decoder (.ofBytes finished.output.toList)).mapError
      (.badReply command.program operation)

/-- Does an operation on a machine. -/
def call {β : Type} (command : ToolCommand) (operation : String) (request : Json)
    (decoder : Json.Decoder β) (machine : Machine) : Except ToolError β × Machine :=
  let input := request.compact.toUTF8
  let (outcome, machine) :=
    machine.run command.program (command.arguments ++ [operation]) input
  match outcome with
  | .error fault => (.error (.notStarted command.program fault), machine)
  | .ok finished => (command.reply operation decoder input.size finished, machine)

end ToolCommand

end CompileServer
