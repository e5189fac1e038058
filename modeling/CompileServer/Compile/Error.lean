import CompileServer.FileSystem.Fault
import CompileServer.Json.Decode
import CompileServer.Wire.Message

/-!
# Errors of requests

An error fails the one request that met it and becomes its reply.  What the
front-end reports about the sources is no error: it goes into the log.
-/

namespace CompileServer

/-- The causes of a failure, from the outermost to the root. -/
abbrev Causes := List String

/-- The words for a list of causes. -/
def Causes.text (causes : Causes) : String :=
  ": ".intercalate causes

/-- The name under which a library offers to register its plugins. -/
def pluginEntry : String := "compilerd_register_plugins"

/-- Why a library of plugins could not be loaded. -/
inductive PluginError where
  | open (path : Path) (reason : String)
  | missingEntry (path : Path) (reason : String)
  | other (path : Path) (message : String)
deriving DecidableEq, Repr

namespace PluginError

/-- The library that could not be loaded. -/
def path : PluginError → Path
  | .open path _ => path
  | .missingEntry path _ => path
  | .other path _ => path

/-- The message of the error. -/
def message : PluginError → String
  | .open path reason => "Failed to load plugin " ++ path.text ++ ": " ++ reason
  | .missingEntry path reason =>
    "Plugin " ++ path.text ++ " does not export \x60" ++ pluginEntry ++ "\x60: " ++ reason
  | .other path message => "Failed to load plugin " ++ path.text ++ ": " ++ message

/-- The message of what caused the error. -/
def causes : PluginError → Causes
  | .open _ reason => [reason]
  | .missingEntry _ reason => [reason]
  | .other _ _ => []

end PluginError

/-- Why a request failed. -/
inductive CompileError where
  /-- A library of plugins could not be loaded. -/
  | pluginLoad (error : PluginError)
  /-- Nobody knows where the runtime of the project is. -/
  | runtimeFolderNotFound (project : Path)
  /-- The file belongs to no project in the store. -/
  | notInProject (path : Path) (projects : List Path)
  /-- No code is generated for signatures. -/
  | signatureFile (path : Path)
  /-- The extension belongs to no kind of source. -/
  | unsupportedFile (path : Path)
  /-- The request has the wrong shape. -/
  | decode (failure : Json.Failure)
  /-- The build tool failed. -/
  | buildOptions (project : Path) (causes : Causes)
  /-- The front-end failed. -/
  | frontEnd (project : Path) (causes : Causes)
  /-- The code generator failed. -/
  | codeGen (file : Path) (causes : Causes)
  /-- The analysis could not be written. -/
  | dump (folder : Path) (fault : FileFault)
  /-- Something happened that should not have. -/
  | internal (message : String)
deriving DecidableEq, Repr

namespace CompileError

/-- The words for a list of projects. -/
def listProjects (projects : List Path) : String :=
  if projects.isEmpty then "(none)" else ", ".intercalate (projects.map Path.text)

/-- The message of the error. -/
def message : CompileError → String
  | .pluginLoad error => error.message
  | .runtimeFolderNotFound project =>
    "Cannot find the shared runtime directory for project " ++ project.text
  | .notInProject path projects =>
    path.text ++ " doesn't belong to any of the loaded projects: " ++ listProjects projects
  | .signatureFile path => "Signature files cannot be compiled: " ++ path.text
  | .unsupportedFile path => "Not a recognised source file: " ++ path.text
  | .decode failure => "Invalid compile request: " ++ failure.message
  | .buildOptions project causes =>
    "Failed to derive options for " ++ project.text ++ ": " ++ causes.text
  | .frontEnd project causes =>
    "Front-end failed to check " ++ project.text ++ ": " ++ causes.text
  | .codeGen file causes => "Code generation failed for " ++ file.text ++ ": " ++ causes.text
  | .dump folder fault =>
    "Failed to write analysis dump to " ++ folder.text ++ ": " ++ fault.message
  | .internal message => "Internal error: " ++ message

/-- The code of the reply: `-32700` if the request could not be decoded, `-32602` if its
file cannot be compiled, `-32000` otherwise. -/
def code : CompileError → Int
  | .decode _ => -32700
  | .notInProject _ _ => -32602
  | .signatureFile _ => -32602
  | .unsupportedFile _ => -32602
  | _ => -32000

/-- Whether plugins or the runtime folder are set up wrongly. -/
def isConfiguration : CompileError → Bool
  | .pluginLoad _ => true
  | .runtimeFolderNotFound _ => true
  | _ => false

/-- The messages of what caused the error, as far as they stand on their own. -/
def causes : CompileError → Causes
  | .pluginLoad error => error.causes
  | .decode failure => [failure.message]
  | .dump _ fault => [fault.message]
  | _ => []

/-- Whether the characters of `part` stand next to each other in `whole`. -/
def occursIn (part : List Char) : List Char → Bool
  | [] => part.isEmpty
  | c :: rest => part.isPrefixOf (c :: rest) || occursIn part rest

/-- The message, followed by every cause that it does not mention. -/
def chain (error : CompileError) : String :=
  error.causes.foldl
    (fun text cause =>
      if occursIn cause.toList text.toList then text else text ++ ": " ++ cause)
    error.message

/-- The reply that says that the request failed. -/
def reply (error : CompileError) : Reply :=
  .failed ⟨error.code, error.message⟩

end CompileError

end CompileServer
