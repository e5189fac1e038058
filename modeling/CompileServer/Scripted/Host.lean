import CompileServer.Compile.Job
import CompileServer.Scripted.World
import CompileServer.Wire.Decode
import CompileServer.Wire.Encode

/-!
# Hosts of scripted worlds

The collaborators that answer from the tables of a scripted world.
-/

namespace CompileServer.Scripted

/-- What a scripted front-end knows of a project. -/
structure Checked where
  projectFile : Path
  sourceFiles : List Path

/-- The outcome of a call in a scripted world. -/
abbrev Outcome (β : Type) := Except Panic β × World

/-- The panic that an entry asks for. -/
def panicOf : Json → Panic
  | .str words => ⟨some words⟩
  | .obj members =>
    if (Json.Members.find? members "static").isSome then ⟨some "static text"⟩ else ⟨none⟩
  | _ => ⟨none⟩

/-- The items of an entry that a decoder accepts. -/
def decoded {β : Type} (world : World) (table : String) (key : Path)
    (decoder : Json.Decoder β) : List β :=
  match world.entry? table key.text with
  | some found =>
    match Json.decode (Json.Decoder.list decoder) found with
    | .ok values => values
    | .error _ => []
  | none => []

/-- Derives the options of a project, counting how often. -/
def deriveOptions (defines : List String) (project : Path) (world : World) :
    Outcome (Except Causes ProjectOptions) :=
  let world := world.record (.obj [("call", .str "derive"), ("project", project.toJson),
    ("defines", .strings defines)])
  let world := { world with derivations := world.derivations + 1 }
  let optionsFor := fun (projectFile : Path) (files : List Path) (given : Json) =>
    ProjectOptions.mk projectFile files defines
      (.obj [("derive", .nat world.derivations), ("given", given)])
  match world.causes? "deriveFail" project.text with
  | some causes => (.ok (.error causes), world)
  | none =>
    match world.entry? "projects" project.text with
    | some spec =>
      let projectFile := match spec.member? "projectFile" with
        | some (.str other) => ⟨other⟩
        | _ => project
      let files := World.textsOf ((spec.member? "files").getD .null)
      (.ok (.ok (optionsFor projectFile (files.map Path.mk) ((spec.member? "raw").getD .null))),
        world)
    | none =>
      if project.text.endsWith ".fsx" then (.ok (.ok (optionsFor project [project] .null)), world)
      else (.ok (.error ["unknown project " ++ project.text]), world)

/-- Finds the runtime folder of a project. -/
def findRuntime (project : Path) (world : World) : Outcome (Except Causes (Option Path)) :=
  let world := world.record (.obj [("call", .str "runtime"), ("project", project.toJson)])
  match world.entry? "runtime" project.text with
  | none => (.ok (.ok (some ⟨"/runtime/assets"⟩)), world)
  | some (.str folder) => (.ok (.ok (some ⟨folder⟩)), world)
  | some other =>
    match other.member? "fail" with
    | some causes => (.ok (.error (World.textsOf causes)), world)
    | none => (.ok (.ok none), world)

/-- Checks a project. -/
def check (options : ProjectOptions) (world : World) :
    Outcome (Except Causes (List Diagnostic × Checked)) :=
  let world := world.record (.obj [("call", .str "check"), ("options", options.toJson)])
  let key := options.projectFile
  match world.entry? "checkPanic" key.text with
  | some words => (.error (panicOf words), world)
  | none =>
    match world.causes? "checkFail" key.text with
    | some causes => (.ok (.error causes), world)
    | none =>
      (.ok (.ok (decoded world "diagnostics" key Diagnostic.decoder,
        ⟨options.projectFile, options.sourceFiles⟩)), world)

/-- Shows an analysis. -/
def describe (analysis : Analysis Checked) (world : World) : Outcome Json :=
  (.ok ((world.entry? "describe" analysis.value.projectFile.text).getD
    (.obj [("files", .nat analysis.value.sourceFiles.length)])), world)

/-- The source files up to and including the first with the given spelling. -/
def filesUpTo (file : Path) : List Path → Option (List Path)
  | [] => none
  | first :: rest => if first = file then some [first] else (filesUpTo file rest).map (first :: ·)

/-- The record of the call that starts to emit the program of a job. -/
def transformCall (job : Job Checked) : Json :=
  .obj [("call", .str "transform"), ("file", job.task.file.toJson),
    ("generation", .nat job.project.generation)]

/-- The front half of code generation; the call itself was written down when the job
started. -/
def transform (analysis : Analysis Checked) (task : CompileTask) (_ : Log) (world : World) :
    Outcome (Except Causes (IntermediateProgram × List LogEntry)) :=
  let file := task.file
  match world.entry? "transformPanic" file.text with
  | some words => (.error (panicOf words), world)
  | none =>
    match world.causes? "transformFail" file.text with
    | some causes => (.ok (.error causes), world)
    | none =>
      let warnings := task.plugins.map fun plugin =>
        LogEntry.mk ("plugin " ++ plugin.name ++ " ran") .warning none none .plugin
      let dependencies := match world.entry? "deps" file.text with
        | some found => (World.textsOf found).map Path.mk
        | none => (filesUpTo file analysis.value.sourceFiles).getD [file]
      let body := Json.obj [("file", file.toJson), ("generation", .nat analysis.generation),
        ("options", .obj task.compilerOptions),
        ("plugins", .strings (task.plugins.map Plugin.name))]
      (.ok (.ok (⟨file, body, dependencies⟩,
        warnings ++ decoded world "transformLog" file LogEntry.decoder)), world)

/-- The back half of code generation. -/
def generate (program : IntermediateProgram) (_ : CompileTask) (_ : Log) (world : World) :
    Outcome (Except Causes (TargetProgram × List LogEntry)) :=
  let file := program.file
  let world := world.recordEmission (.obj [("call", .str "target"), ("file", file.toJson)])
  match world.entry? "targetPanic" file.text with
  | some words => (.error (panicOf words), world)
  | none =>
    match world.causes? "targetFail" file.text with
    | some causes => (.ok (.error causes), world)
    | none => (.ok (.ok (⟨[program.body]⟩, decoded world "targetLog" file LogEntry.decoder)), world)

/-- What follows the last slash of a text. -/
def afterLastSlash (text : String) : String :=
  match (Path.pieces text.toList).getLast? with
  | some piece => String.ofList piece
  | none => text

/-- Loads a library of plugins. -/
def loadPlugins (library : Path) (world : World) :
    Outcome (Except PluginError (List Plugin)) :=
  let world := world.record (.obj [("call", .str "load"), ("path", library.toJson)])
  match world.entry? "plugins" library.text with
  | none => (.ok (.ok [⟨afterLastSlash library.text, library⟩]), world)
  | some (.arr names) =>
    (.ok (.ok ((World.textsOf (.arr names)).map fun name => ⟨name, library⟩)), world)
  | some other =>
    match other.member? "fail" with
    | some (.str message) => (.ok (.error (.other library message)), world)
    | _ => (.ok (.error (.other library "")), world)

/-- Saves a text among the files of the world. -/
def save (folder file : Path) (text : String) (world : World) :
    Except FileFault Unit × World :=
  let (outcome, files) := world.files.save folder file text
  (outcome, { world with files := files })

/-- The collaborators of a scripted world. -/
def host : Host World Checked where
  deriveOptions := deriveOptions
  findRuntime := findRuntime
  check := check
  describe := describe
  transform := transform
  generate := generate
  loadPlugins := loadPlugins
  normalize world path := world.files.normalize path
  save := save

end CompileServer.Scripted
