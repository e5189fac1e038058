import CompileServer.Compile.Error
import CompileServer.Compile.Task
import CompileServer.Project.Basic

/-!
# Hosts

The server parses, checks and generates nothing itself.  A host does: it stands for
the build tool, the front-end, the code generator, the loader of plugins and the
files.  Every call may change the host, and a call of a collaborator may end in a
panic in place of an answer.
-/

namespace CompileServer

/-- How a collaborator broke off, with its last words if it had any. -/
structure Panic where
  words : Option String
deriving DecidableEq, Repr

/-- The text of a panic. -/
def Panic.text (panic : Panic) : String :=
  panic.words.getD "unknown panic"

/-- A call of a collaborator whose state is `σ`. -/
abbrev Call (σ α : Type) := ExceptT Panic (StateM σ) α

/-- Everything the server relies on.  The state of the host is `σ`; `α` is what the
front-end knows about a checked project. -/
structure Host (σ α : Type) where
  /-- The options of a project, under the given defines. -/
  deriveOptions : List String → Path → Call σ (Except Causes ProjectOptions)
  /-- The folder with the runtime of a project, if it can be found. -/
  findRuntime : Path → Call σ (Except Causes (Option Path))
  /-- Checks a whole project. -/
  check : ProjectOptions → Call σ (Except Causes (List Diagnostic × α))
  /-- What a dump shows of an analysis. -/
  describe : Analysis α → Call σ Json
  /-- The front half of code generation for the file of a task, given the log so far, with the
  entries it adds. -/
  transform : Analysis α → CompileTask → Log →
    Call σ (Except Causes (IntermediateProgram × List LogEntry))
  /-- The back half of code generation, given the log so far, with the entries it adds. -/
  generate : IntermediateProgram → CompileTask → Log →
    Call σ (Except Causes (TargetProgram × List LogEntry))
  /-- The plugins in a library. -/
  loadPlugins : Path → Call σ (Except PluginError (List Plugin))
  /-- The form of a path that serves as its key. -/
  normalize : σ → Path → Path
  /-- Writes a text to a file after making the folder for it. -/
  save : (folder file : Path) → String → StateM σ (Except FileFault Unit)

end CompileServer
