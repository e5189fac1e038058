import CompileServer.Json.Basic
import CompileServer.Path.Set

/-!
# Projects

A project is a value: marking a file as compiled or checking the project again
makes a new one, so whoever holds a project keeps what it was given.
-/

namespace CompileServer

/-- What a build tool says about a project.  The source files, in compilation order,
decide which files belong to it; `raw` is passed on untouched. -/
structure ProjectOptions where
  projectFile : Path
  sourceFiles : List Path
  defines : List String
  raw : Json

/-- The result of checking a project, with a number that no other check has. -/
structure Analysis (α : Type) where
  generation : Nat
  value : α

/-- A source file of a project, and whether it was compiled. -/
structure ProjectFile where
  path : Path
  isCompiled : Bool
deriving DecidableEq, Repr

/-- A project that has been checked. -/
structure Project (α : Type) where
  projectFile : Path
  options : ProjectOptions
  runtimeFolder : Path
  analysis : Analysis α
  /-- The files that belong to the project. -/
  members : List Path
  /-- The files compiled against this analysis. -/
  compiled : List Path
  /-- The source files of the options decide which files belong to the project. -/
  isIn_members : ∀ path : Path, path.isIn members = path.isIn options.sourceFiles

namespace Project

variable {α : Type}

/-- A project of which no file has been compiled. -/
def fresh (projectFile : Path) (options : ProjectOptions) (runtimeFolder : Path)
    (analysis : Analysis α) : Project α where
  projectFile := projectFile
  options := options
  runtimeFolder := runtimeFolder
  analysis := analysis
  members := Path.distinct options.sourceFiles
  compiled := []
  isIn_members path := path.isIn_distinct options.sourceFiles

/-- The number of the check that the project rests on. -/
def generation (project : Project α) : Nat :=
  project.analysis.generation

/-- The source files, in compilation order. -/
def sourceFiles (project : Project α) : List Path :=
  project.options.sourceFiles

/-- Whether a file belongs to the project. -/
def contains (project : Project α) (path : Path) : Bool :=
  path.isIn project.members

theorem contains_eq (project : Project α) (path : Path) :
    project.contains path = path.isIn project.sourceFiles :=
  project.isIn_members path

/-- Projects with the same source files have the same files. -/
theorem contains_congr {project other : Project α}
    (hfiles : project.sourceFiles = other.sourceFiles) (path : Path) :
    project.contains path = other.contains path := by
  rw [contains_eq, contains_eq, hfiles]

/-- Whether a file was compiled. -/
def isCompiled (project : Project α) (path : Path) : Bool :=
  path.isIn project.compiled

/-- A file that belongs to the project, as it is spelled here. -/
def file? (project : Project α) (path : Path) : Option ProjectFile :=
  if project.contains path then some ⟨path, project.isCompiled path⟩ else none

/-- The source files, in compilation order. -/
def files (project : Project α) : List ProjectFile :=
  project.sourceFiles.map fun path => ⟨path, project.isCompiled path⟩

/-- The project after a file was compiled. -/
def markCompiled (project : Project α) (path : Path) : Project α :=
  if project.isCompiled path then project
  else { project with compiled := path :: project.compiled }

end Project

end CompileServer
