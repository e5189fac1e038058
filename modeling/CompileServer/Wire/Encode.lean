import CompileServer.Json.Printer
import CompileServer.Project.Basic
import CompileServer.Wire.Message

/-!
# Encoding messages

The structured values in which messages travel.  Members are written in a fixed
order; what a diagnostic lacks is written as `null`, what a log entry lacks is
left out.
-/

namespace CompileServer

open Json

/-- The word for a severity. -/
def Severity.text : Severity → String
  | .error => "error"
  | .warning => "warning"
  | .info => "info"

/-- The word for an origin. -/
def LogOrigin.text : LogOrigin → String
  | .frontEnd => "front_end"
  | .codeGen => "code_gen"
  | .plugin => "plugin"
  | .service => "service"

/-- The spelling of a path. -/
def Path.toJson (path : Path) : Json :=
  .str path.text

/-- The spellings of paths. -/
def pathsToJson (paths : List Path) : Json :=
  .arr (paths.map Path.toJson)

def SourceRange.toJson (range : SourceRange) : Json :=
  .obj [("startLine", .nat range.startLine), ("startColumn", .nat range.startColumn),
    ("endLine", .nat range.endLine), ("endColumn", .nat range.endColumn)]

def Diagnostic.toJson (diagnostic : Diagnostic) : Json :=
  .obj [("message", .str diagnostic.message), ("severity", .str diagnostic.severity.text),
    ("range", .ofOption SourceRange.toJson diagnostic.range),
    ("file", .ofOption Path.toJson diagnostic.file)]

/-- A member that is left out when it has no value. -/
def memberIfSome {α : Type} (name : String) (encode : α → Json) (value : Option α) : Members :=
  (value.map fun found => (name, encode found)).toList

def LogEntry.toJson (entry : LogEntry) : Json :=
  .obj ([("message", .str entry.message), ("severity", .str entry.severity.text)]
    ++ memberIfSome "range" SourceRange.toJson entry.range
    ++ memberIfSome "file" Path.toJson entry.file
    ++ [("origin", .str entry.origin.text)])

def ProjectOptions.toJson (options : ProjectOptions) : Json :=
  .obj [("projectFile", options.projectFile.toJson),
    ("sourceFiles", pathsToJson options.sourceFiles),
    ("defines", .strings options.defines), ("raw", options.raw)]

def IntermediateProgram.toJson (program : IntermediateProgram) : Json :=
  .obj [("file", program.file.toJson), ("body", program.body),
    ("dependencies", pathsToJson program.dependencies)]

def TargetProgram.toJson (program : TargetProgram) : Json :=
  .obj [("body", .arr program.body)]

def CompileRequest.toJson (request : CompileRequest) : Json :=
  .obj [("path", request.path.toJson), ("compilerOptions", .obj request.compilerOptions),
    ("extraOptions", .obj request.extraOptions), ("plugins", pathsToJson request.plugins),
    ("defines", .strings request.defines)]

def CompileOutput.toJson (output : CompileOutput) : Json :=
  .obj [("program", output.program.toJson),
    ("diagnostics", .arr (output.diagnostics.map LogEntry.toJson)),
    ("dependencies", pathsToJson output.dependencies)]

def ErrorReply.toJson (reply : ErrorReply) : Json :=
  .obj [("code", .int reply.code), ("message", .str reply.message)]

def Request.toJson (request : Request) : Json :=
  .obj [("id", .ofOption .str request.id), ("params", request.params)]

/-- The one member that says how a request ended. -/
def Reply.toMember : Reply → String × Json
  | .done output => ("result", output.toJson)
  | .failed error => ("error", error.toJson)

def Response.toJson (response : Response) : Json :=
  .obj [("id", .str response.id), response.reply.toMember]

/-- The line that carries a response. -/
def Response.line (response : Response) : String :=
  response.toJson.compact

end CompileServer
