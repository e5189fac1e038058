import CompileServer.Wire.Message

/-!
# Tasks

A task is what a request asks for, with its file and plugins resolved.  It does
not change while the request is worked on.
-/

namespace CompileServer

/-- A plugin and the library it comes from. -/
structure Plugin where
  name : String
  path : Path
deriving DecidableEq, Repr

/-- What a request asks for. -/
structure CompileTask where
  file : Path
  compilerOptions : Json.Members
  extraOptions : Json.Members
  defines : List String
  plugins : List Plugin

namespace CompileTask

/-- The task of a request, given its file and its plugins. -/
def ofRequest (file : Path) (request : CompileRequest) (plugins : List Plugin) : CompileTask :=
  ⟨file, request.compilerOptions, request.extraOptions, request.defines, plugins⟩

/-- The extra option that names a folder for dumps of the analysis. -/
def dumpOption : String := "dumpAnalysisDir"

/-- The folder for dumps of the analysis, if the request names one. -/
def dumpFolder (task : CompileTask) : Option Path :=
  match Json.Members.find? task.extraOptions dumpOption with
  | some (.str folder) => if folder = "" then none else some ⟨folder⟩
  | _ => none

end CompileTask

end CompileServer
