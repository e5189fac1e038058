import CompileServer.Compile.AnalysisFile
import CompileServer.Compile.Decision
import CompileServer.Compile.Session

/-!
# Serving requests

Carries a decision out: the project that serves a request is made or taken from the
store, and the file of the request is marked there as compiled.
-/

namespace CompileServer

namespace Work

variable {σ α : Type}

/-- The options of a project as its build tool gives them, source files normalised. -/
def deriveOptions (host : Host σ α) (task : CompileTask) (project : Path) :
    Work σ α ProjectOptions := do
  let options ← attempt (.buildOptions project) (host.deriveOptions task.defines project)
  let world := (← get).world
  return { options with sourceFiles := options.sourceFiles.map (host.normalize world) }

/-- The runtime folder of a project as its build tool gives it. -/
def findRuntime (host : Host σ α) (project : Path) : Work σ α Path := do
  match ← attempt (.buildOptions project) (host.findRuntime project) with
  | some folder => return folder
  | none => reject (.runtimeFolderNotFound project)

/-- Checks a project; the analysis gets a number of its own. -/
def check (host : Host σ α) (project : Path) (options : ProjectOptions) :
    Work σ α (List Diagnostic × Analysis α) := do
  let (diagnostics, value) ← attempt (.frontEnd project) (host.check options)
  let generation ← nextGeneration
  return (diagnostics, ⟨generation, value⟩)

/-- Saves a text in a folder. -/
def save (host : Host σ α) (folder file : Path) (text : String) :
    Work σ α (Except FileFault Unit) := fun session =>
  let (outcome, world) := host.save folder file text session.world
  (.ok outcome, { session with world := world })

/-- Writes the dump of an analysis; a dump that fails costs no more than a warning. -/
def dump (host : Host σ α) (folder project : Path) (options : ProjectOptions)
    (diagnostics : List Diagnostic) (analysis : Analysis α) : Work σ α Unit := do
  let shown ← call (host.describe analysis)
  let text := AnalysisFile.text options analysis.generation diagnostics shown
  match ← save host folder (AnalysisFile.path folder options.projectFile) text with
  | .ok () => return ()
  | .error fault =>
    writeLog fun log => log.warn .service (CompileError.dump folder fault).message (some project)

/-- Makes a project: options and runtime folder come from the seed or the build tool, the
analysis from the front-end, whose diagnostics go to the log. -/
def createProject (host : Host σ α) (task : CompileTask) (project : Path) (seed : Seed) :
    Work σ α (Project α) := do
  let options ← match seed.options with
    | some options => pure options
    | none => deriveOptions host task project
  let runtimeFolder ← match seed.runtimeFolder with
    | some folder => pure folder
    | none => findRuntime host project
  let (diagnostics, analysis) ← check host project options
  match task.dumpFolder with
  | some folder => dump host folder project options diagnostics analysis
  | none => pure ()
  writeLog fun log => diagnostics.foldl Log.diagnostic log
  return .fresh project options runtimeFolder analysis

/-- Marks the file of a request as compiled in the project that serves it. -/
def markCompiled (project file : Path) : Work σ α (Project α) := do
  match (← get).store.markCompiled project file with
  | some (marked, store) =>
    modify fun session => { session with store := store }
    return marked
  | none => reject (.internal ("project " ++ project.text ++ " vanished from the store"))

/-- Brings the store up to date for the file of a task and gives the project that
serves it. -/
def resolve (host : Host σ α) (kinds : SourceKinds) (task : CompileTask) :
    Work σ α (Project α) := do
  match (← get).store.decide kinds task.file with
  | .rebuild project seed =>
    let made ← createProject host task project seed
    modify fun session => { session with store := session.store.insert made }
    markCompiled project task.file
  | .reuse project => markCompiled project task.file
  | .refuse error => reject error

end Work

end CompileServer
