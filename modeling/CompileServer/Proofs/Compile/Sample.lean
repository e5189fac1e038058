import CompileServer.Proofs.Compile.Ledger
import CompileServer.Proofs.Compile.Sequence

/-!
# A small host

Fixed answers on which runs can be evaluated.  Every project lists the same two files,
an analysis is the number of files that it covers, and translating the second file
breaks off.
-/

namespace CompileServer.Sample

/-- The file that is translated. -/
def firstFile : Path := ⟨"/p/A.fs"⟩

/-- The file whose translation breaks off. -/
def secondFile : Path := ⟨"/p/B.fs"⟩

/-- The manifest of a project. -/
def manifest : Path := ⟨"/p/App.fsproj"⟩

/-- A script, which is a project of its own. -/
def script : Path := ⟨"/p/run.fsx"⟩

/-- The answers of the small host. -/
def answers : Answers Nat where
  deriveOptions defines project := .ok (.ok ⟨project, [firstFile, secondFile], defines, .null⟩)
  findRuntime _ := .ok (.ok (some ⟨"/p/runtime"⟩))
  check options := .ok (.ok ([], options.sourceFiles.length))
  describe _ := .ok .null
  transform analysis task _ :=
    if task.file = secondFile then .error ⟨some "out of memory"⟩
    else .ok (.ok (⟨task.file, .nat analysis.value, [firstFile]⟩, []))
  generate program _ _ := .ok (.ok (⟨[program.body]⟩, []))
  loadPlugins _ := .ok (.ok [])
  normalize := id

/-- The small host, whose disk keeps nothing. -/
def host : Host Unit Nat :=
  answers.host fun _ _ _ => pure (.ok ())

/-- A request for a file. -/
def request (path : Path) : Json :=
  .obj [("path", .str path.text)]

/-- A request for a file with some defines, as it arrives in a ledger. -/
def arrival (path : Path) (defines : List String) : Arrival Unit :=
  ⟨⟨path, [], [], defines, []⟩, ()⟩

end CompileServer.Sample
