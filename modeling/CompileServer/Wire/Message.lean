import CompileServer.Json.Basic
import CompileServer.Log

/-!
# Messages

What clients and the server say to each other: a request asks for one file to be
compiled, and its response carries the same identifier and either a compiled
program or an error.
-/

namespace CompileServer

/-- What a client wants compiled. -/
structure CompileRequest where
  path : Path
  /-- Options for the code generator. -/
  compilerOptions : Json.Members
  /-- Options for this request alone. -/
  extraOptions : Json.Members
  /-- Libraries of plugins. -/
  plugins : List Path
  /-- Symbols for the preprocessor. -/
  defines : List String

/-- A file after the front half of code generation. -/
structure IntermediateProgram where
  file : Path
  body : Json
  /-- The files that this one depends on. -/
  dependencies : List Path

/-- A program of the target language. -/
structure TargetProgram where
  body : List Json

/-- The program without contents. -/
def TargetProgram.empty : TargetProgram :=
  ⟨[]⟩

/-- Whether a program has no contents. -/
def TargetProgram.isEmpty (program : TargetProgram) : Bool :=
  program.body.isEmpty

/-- The result of a request that succeeded. -/
structure CompileOutput where
  program : TargetProgram
  diagnostics : List LogEntry
  dependencies : List Path

/-- The result of a request that failed. -/
structure ErrorReply where
  code : Int
  message : String
deriving DecidableEq, Repr

/-- The words for a failed request. -/
def ErrorReply.text (reply : ErrorReply) : String :=
  "Compile error " ++ toString reply.code ++ ": " ++ reply.message

/-- How a request ended. -/
inductive Reply where
  | done (output : CompileOutput)
  | failed (error : ErrorReply)

namespace Reply

/-- Whether the request failed. -/
def isError : Reply → Bool
  | .done _ => false
  | .failed _ => true

/-- The result of a request that succeeded. -/
def output? : Reply → Option CompileOutput
  | .done output => some output
  | .failed _ => none

/-- The result of a request that failed. -/
def error? : Reply → Option ErrorReply
  | .done _ => none
  | .failed error => some error

end Reply

/-- A request as it arrives; an identifier is made up for a request without one. -/
structure Request where
  id : Option String
  /-- What is to be done, not yet decoded. -/
  params : Json

/-- The answer to the request with the same identifier. -/
structure Response where
  id : String
  reply : Reply

/-- The answer that says that a request failed. -/
def Response.error (id : String) (code : Int) (message : String) : Response :=
  ⟨id, .failed ⟨code, message⟩⟩

end CompileServer
