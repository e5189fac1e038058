import CompileServer.Json.Record
import CompileServer.Project.Basic
import CompileServer.Wire.Message

/-!
# Decoding messages

The members of every message, which of them may be missing, and what stands in
for the missing ones.
-/

namespace CompileServer

open Json Decoder Record

/-- Reads a path. -/
def Path.decoder : Decoder Path :=
  Decoder.map Path.mk (Decoder.text "path string")

/-- Reads a list of paths. -/
def pathsDecoder : Decoder (List Path) :=
  list Path.decoder

def Severity.decoder : Decoder Severity :=
  choice [("error", .error), ("warning", .warning), ("info", .info)]

def LogOrigin.decoder : Decoder LogOrigin :=
  choice [("front_end", .frontEnd), ("code_gen", .codeGen), ("plugin", .plugin),
    ("service", .service)]

def SourceRange.record : Record SourceRange :=
  SourceRange.mk <$> required "startLine" natural32 <*> required "startColumn" natural32
    <*> required "endLine" natural32 <*> required "endColumn" natural32

def SourceRange.decoder : Decoder SourceRange :=
  SourceRange.record.decoder "SourceRange"

def Diagnostic.record : Record Diagnostic :=
  Diagnostic.mk <$> required "message" string <*> required "severity" Severity.decoder
    <*> nullable "range" SourceRange.decoder <*> nullable "file" Path.decoder

def Diagnostic.decoder : Decoder Diagnostic :=
  Diagnostic.record.decoder "Diagnostic"

def LogEntry.record : Record LogEntry :=
  LogEntry.mk <$> required "message" string <*> required "severity" Severity.decoder
    <*> nullable "range" SourceRange.decoder <*> nullable "file" Path.decoder
    <*> required "origin" LogOrigin.decoder

def LogEntry.decoder : Decoder LogEntry :=
  LogEntry.record.decoder "LogEntry"

def ProjectOptions.record : Record ProjectOptions :=
  ProjectOptions.mk <$> required "projectFile" Path.decoder
    <*> required "sourceFiles" pathsDecoder <*> defaulted "defines" [] (list string)
    <*> defaulted "raw" .null any

def ProjectOptions.decoder : Decoder ProjectOptions :=
  ProjectOptions.record.decoder "ProjectOptions"

def IntermediateProgram.record : Record IntermediateProgram :=
  IntermediateProgram.mk <$> required "file" Path.decoder <*> required "body" any
    <*> defaulted "dependencies" [] pathsDecoder

def IntermediateProgram.decoder : Decoder IntermediateProgram :=
  IntermediateProgram.record.decoder "IntermediateProgram"

def TargetProgram.record : Record TargetProgram :=
  TargetProgram.mk <$> required "body" (list any)

def TargetProgram.decoder : Decoder TargetProgram :=
  TargetProgram.record.decoder "TargetProgram"

def CompileRequest.record : Record CompileRequest :=
  CompileRequest.mk <$> required "path" Path.decoder
    <*> defaulted "compilerOptions" [] members <*> defaulted "extraOptions" [] members
    <*> defaulted "plugins" [] pathsDecoder <*> defaulted "defines" [] (list string)

def CompileRequest.decoder : Decoder CompileRequest :=
  CompileRequest.record.decoder "CompileRequest"

def CompileOutput.record : Record CompileOutput :=
  CompileOutput.mk <$> required "program" TargetProgram.decoder
    <*> required "diagnostics" (list LogEntry.decoder) <*> required "dependencies" pathsDecoder

def CompileOutput.decoder : Decoder CompileOutput :=
  CompileOutput.record.decoder "CompileOutput"

def ErrorReply.record : Record ErrorReply :=
  ErrorReply.mk <$> required "code" integer32 <*> required "message" string

def ErrorReply.decoder : Decoder ErrorReply :=
  ErrorReply.record.decoder "ErrorReply"

def Request.record : Record Request :=
  Request.mk <$> defaulted "id" none (Decoder.nullable string) <*> required "params" any

def Request.decoder : Decoder Request :=
  Request.record.decoder "Request"

/-- Checks the members of a response in document order: the identifier is read, the others
are set aside. -/
def Response.checkMembers (reading : Reading) :
    Option String → List (Option String × Draft) → Except Failure (Option String)
  | id, [] => .ok id
  | _, (none, _) :: _ => .error .malformed
  | id, (some key, draft) :: rest =>
    if key = "id" then
      if id.isSome then .error (.mismatch (.duplicateField "id"))
      else do
        let found ← string reading draft
        checkMembers reading (some found) rest
    else if (draft.toJson? reading.room).isSome then checkMembers reading id rest
    else .error .malformed

/-- Reads how a request ended from the first member that says so. -/
def Reply.ofMembers : List (Option String × Draft) → Except Failure Reply
  | [] => .error (.noVariant "ResponseScenario")
  | (key, draft) :: rest =>
    if key = some "result" then (CompileOutput.decoder ⟨.setAside, none⟩ draft).map .done
    else if key = some "error" then (ErrorReply.decoder ⟨.setAside, none⟩ draft).map .failed
    else ofMembers rest

/-- Reads a response. -/
def Response.decoder : Decoder Response
  | reading, .obj members closed => do
    let inside ← enter reading
    let id ← Response.checkMembers inside none members
    if closed then
      match id with
      | none => .error (.mismatch (.missingField "id"))
      | some id => (Reply.ofMembers members).map (Response.mk id)
    else .error .malformed
  | _, other => unexpected "struct Response" other

end CompileServer
