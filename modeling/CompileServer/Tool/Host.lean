import CompileServer.Compile.Host
import CompileServer.FileSystem.Save
import CompileServer.Tool.Call
import CompileServer.Tool.Library
import CompileServer.Wire.Decode
import CompileServer.Wire.Encode

/-!
# Hosts made of tools

The collaborators of a server that are tools on a machine.  What the front-end says about
a project is kept as it is and handed to the code generator.
-/

namespace CompileServer

/-- The tools of a server. -/
structure Toolchain where
  buildOptions : ToolCommand
  frontEnd : ToolCommand
  codeGen : ToolCommand
deriving DecidableEq, Repr

/-- No tool is configured for a purpose. -/
structure MissingTool where
  name : String
deriving DecidableEq, Repr

/-- The message of the error. -/
def MissingTool.message (missing : MissingTool) : String :=
  "No \x60" ++ missing.name ++ "\x60 command configured in [toolchain]"

/-- The tools that are configured, or the first that is missing. -/
def Toolchain.ofSettings (settings : ToolSettings) : Except MissingTool Toolchain :=
  match settings.buildOptions, settings.frontEnd, settings.codeGen with
  | none, _, _ => .error ⟨"build_options"⟩
  | _, none, _ => .error ⟨"frontend"⟩
  | _, _, none => .error ⟨"codegen"⟩
  | some buildOptions, some frontEnd, some codeGen => .ok ⟨buildOptions, frontEnd, codeGen⟩

/-- What a front-end says about a project. -/
structure CheckReply where
  diagnostics : List Diagnostic
  analysis : Json

/-- What a code generator says about a program. -/
structure TargetReply where
  program : TargetProgram
  diagnostics : List Diagnostic

open Json Decoder Record

def CheckReply.record : Record CheckReply :=
  CheckReply.mk <$> defaulted "diagnostics" [] (list Diagnostic.decoder)
    <*> defaulted "analysis" .null any

def CheckReply.decoder : Decoder CheckReply :=
  CheckReply.record.decoder "CheckReply"

def TargetReply.record : Record TargetReply :=
  TargetReply.mk <$> required "program" TargetProgram.decoder
    <*> defaulted "diagnostics" [] (list Diagnostic.decoder)

def TargetReply.decoder : Decoder TargetReply :=
  TargetReply.record.decoder "TargetReply"

/-- What a tool knows of a project; none if no tool ever checked it. -/
abbrev ToolAnalysis := Option Json

namespace Toolchain

/-- The outcome of a call. -/
abbrev Outcome (β : Type) := Except Panic (Except Causes β) × Machine

/-- Calls a tool. -/
def call {β : Type} (command : ToolCommand) (operation : String) (request : Json)
    (decoder : Decoder β) (machine : Machine) : Outcome β :=
  let (outcome, machine) := command.call operation request decoder machine
  (.ok (outcome.mapError ToolError.causes), machine)

/-- The options of a project. -/
def deriveOptions (tools : Toolchain) (defines : List String) (project : Path) :
    Machine → Outcome ProjectOptions :=
  call tools.buildOptions "options"
    (.obj [("projectFile", project.toJson), ("defines", .strings defines)]) ProjectOptions.decoder

/-- The runtime folder of a project. -/
def findRuntime (tools : Toolchain) (project : Path) : Machine → Outcome (Option Path) :=
  call tools.buildOptions "runtime-dir" (.obj [("projectFile", project.toJson)])
    (Decoder.nullable Path.decoder)

/-- Checks a project. -/
def check (tools : Toolchain) (options : ProjectOptions) :
    Machine → Outcome (List Diagnostic × ToolAnalysis) :=
  call tools.frontEnd "check" options.toJson
    (CheckReply.decoder.map fun reply => (reply.diagnostics, some reply.analysis))

/-- The front half of code generation for the file of a task. -/
def transform (tools : Toolchain) (analysis : Analysis ToolAnalysis) (task : CompileTask)
    (_ : Log) (machine : Machine) : Outcome (IntermediateProgram × List LogEntry) :=
  match analysis.value with
  | none => (.ok (.error ["analysis was not produced by an external front-end"]), machine)
  | some value =>
    call tools.codeGen "transform"
      (.obj [("file", task.file.toJson), ("analysis", value),
        ("compilerOptions", .obj task.compilerOptions),
        ("plugins", .strings (task.plugins.map Plugin.name))])
      (IntermediateProgram.decoder.map fun program => (program, [])) machine

/-- The back half of code generation for the file of a task. -/
def generate (tools : Toolchain) (program : IntermediateProgram) (task : CompileTask) (_ : Log) :
    Machine → Outcome (TargetProgram × List LogEntry) :=
  call tools.codeGen "target"
    (.obj [("program", program.toJson), ("compilerOptions", .obj task.compilerOptions)])
    (TargetReply.decoder.map fun reply =>
      (reply.program, reply.diagnostics.map (Diagnostic.entry .codeGen)))

/-- Saves a text among the files of the machine. -/
def save (folder file : Path) (text : String) (machine : Machine) :
    Except FileFault Unit × Machine :=
  let (outcome, files) := machine.files.save folder file text
  (outcome, { machine with files := files })

/-- The collaborators that the tools make up. -/
def host (tools : Toolchain) : Host Machine ToolAnalysis where
  deriveOptions := tools.deriveOptions
  findRuntime := tools.findRuntime
  check := tools.check
  describe analysis machine := (.ok (analysis.value.getD .null), machine)
  transform := tools.transform
  generate := tools.generate
  loadPlugins library machine :=
    (.ok (.error (Library.openError machine.files library)), machine)
  normalize machine path := machine.files.normalize path
  save := save

end Toolchain

end CompileServer
