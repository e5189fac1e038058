import CompileServer.Compile.Host
import CompileServer.Wire.Message

/-!
# Jobs

A request whose project is known becomes a job: the project as it was at that time,
the task and the log so far.  A job depends on nothing that happens
later, so jobs may be finished in any order.
-/

namespace CompileServer

/-- A request that is ready for the code generator. -/
structure Job (α : Type) where
  project : Project α
  task : CompileTask
  log : Log

namespace Job

variable {σ α : Type}

/-- Whether there is nothing to emit: the file is the manifest of a project with
errors. -/
def isSkipped (job : Job α) : Bool :=
  decide (job.task.file ≈ job.project.projectFile) && job.log.hasErrors

/-- Emits the program of a job.  If there is nothing to emit, the output depends on every
source file of the project. -/
def emit (host : Host σ α) (job : Job α) : Call σ (Except CompileError CompileOutput) := do
  if job.isSkipped then
    return .ok ⟨.empty, job.log, job.project.sourceFiles⟩
  match ← host.transform job.project.analysis job.task job.log with
  | .error causes => return .error (.codeGen job.task.file causes)
  | .ok (intermediate, transformed) =>
    let log := job.log ++ transformed
    match ← host.generate intermediate job.task log with
    | .error causes => return .error (.codeGen job.task.file causes)
    | .ok (program, generated) =>
      return .ok ⟨program, log ++ generated, intermediate.dependencies⟩

/-- Emits the program of a job and makes a reply of the outcome, whatever it is. -/
def run (host : Host σ α) (job : Job α) : StateM σ Reply := fun world =>
  match job.emit host world with
  | (.ok (.ok output), world) => (.done output, world)
  | (.ok (.error error), world) => (error.reply, world)
  | (.error panic, world) =>
    ((CompileError.internal ("translation panicked: " ++ panic.text)).reply, world)

end Job

end CompileServer
