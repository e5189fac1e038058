import CompileServer.Wire.Encode

/-!
# Dumps of analyses

A dump is a file that shows what the front-end found out about a project.  Its name
is made from the last component of the project alone, so it never leaves the
folder that was asked for.
-/

namespace CompileServer.AnalysisFile

/-- The name of the dump of a project. -/
def fileName (project : Path) : String :=
  project.stem.getD "project" ++ ".analysis.json"

/-- The dump of a project inside a folder. -/
def path (folder project : Path) : Path :=
  folder.join ⟨fileName project⟩

/-- The contents of a dump. -/
def toJson (options : ProjectOptions) (generation : Nat) (diagnostics : List Diagnostic)
    (analysis : Json) : Json :=
  .obj [("projectFile", options.projectFile.toJson), ("generation", .nat generation),
    ("sourceFiles", pathsToJson options.sourceFiles),
    ("diagnostics", .arr (diagnostics.map Diagnostic.toJson)), ("analysis", analysis)]

/-- The text of a dump. -/
def text (options : ProjectOptions) (generation : Nat) (diagnostics : List Diagnostic)
    (analysis : Json) : String :=
  (toJson options generation diagnostics analysis).spread

end CompileServer.AnalysisFile
