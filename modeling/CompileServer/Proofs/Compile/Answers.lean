import CompileServer.Proofs.Compile.Resolution
import CompileServer.Compile.Prepare

/-!
# Fixed answers

A host with fixed answers gives the same answer to the same question at any time.  Only
the files change, and only where the server saves a dump.  What is asked of such a host
does not matter for later answers, so a job has one outcome, whenever it is done.
-/

namespace CompileServer

/-- Answers that depend on the question alone. -/
structure Answers (α : Type) where
  deriveOptions : List String → Path → Except Panic (Except Causes ProjectOptions)
  findRuntime : Path → Except Panic (Except Causes (Option Path))
  check : ProjectOptions → Except Panic (Except Causes (List Diagnostic × α))
  describe : Analysis α → Except Panic Json
  transform : Analysis α → CompileTask → Log →
    Except Panic (Except Causes (IntermediateProgram × List LogEntry))
  generate : IntermediateProgram → CompileTask → Log →
    Except Panic (Except Causes (TargetProgram × List LogEntry))
  loadPlugins : Path → Except Panic (Except PluginError (List Plugin))
  normalize : Path → Path

/-- How a text is saved in a folder of a disk. -/
abbrev Saving (δ : Type) := Path → Path → String → StateM δ (Except FileFault Unit)

variable {α δ : Type}

/-- The host that gives these answers. -/
def Answers.host (answers : Answers α) (saving : Saving δ) : Host δ α where
  deriveOptions defines project := fun disk => (answers.deriveOptions defines project, disk)
  findRuntime project := fun disk => (answers.findRuntime project, disk)
  check options := fun disk => (answers.check options, disk)
  describe analysis := fun disk => (answers.describe analysis, disk)
  transform analysis task log := fun disk => (answers.transform analysis task log, disk)
  generate program task log := fun disk => (answers.generate program task log, disk)
  loadPlugins library := fun disk => (answers.loadPlugins library, disk)
  normalize _ := answers.normalize
  save := saving

/-- A question with a fixed answer leaves the session as it is. -/
theorem Work.attempt_answer {β ε : Type} (refuse : ε → CompileError)
    (answer : Except Panic (Except ε β)) (session : Session δ α) :
    attempt refuse (fun disk => (answer, disk)) session = (verdict refuse answer, session) :=
  attempt_apply refuse (fun disk => (answer, disk)) session

theorem Work.attempt_answer_ok {β ε : Type} (refuse : ε → CompileError)
    {answer : Except Panic (Except ε β)} {value : β} (hanswer : answer = .ok (.ok value))
    (session : Session δ α) :
    attempt refuse (fun disk => (answer, disk)) session = (.ok value, session) := by
  rw [attempt_answer, hanswer]
  rfl

/-- What a job comes to. -/
def Answers.emit (answers : Answers α) (job : Job α) :
    Except Panic (Except CompileError CompileOutput) := do
  if job.isSkipped then
    return .ok ⟨.empty, job.log, job.project.sourceFiles⟩
  match ← answers.transform job.project.analysis job.task job.log with
  | .error causes => return .error (.codeGen job.task.file causes)
  | .ok (intermediate, transformed) =>
    let log := job.log ++ transformed
    match ← answers.generate intermediate job.task log with
    | .error causes => return .error (.codeGen job.task.file causes)
    | .ok (program, generated) =>
      return .ok ⟨program, log ++ generated, intermediate.dependencies⟩

/-- A job comes to the same whatever is on the disk, and leaves the disk alone. -/
theorem Answers.emit_host (answers : Answers α) (saving : Saving δ) (job : Job α) (disk : δ) :
    job.emit (answers.host saving) disk = (answers.emit job, disk) := by
  unfold Job.emit Answers.emit
  cases job.isSkipped with
  | true => rfl
  | false =>
      simp only [Bool.false_eq_true, if_false]
      have htransform : (answers.host saving).transform job.project.analysis job.task job.log
          disk = (answers.transform job.project.analysis job.task job.log, disk) := rfl
      generalize answers.transform job.project.analysis job.task job.log = answer
        at htransform ⊢
      rcases answer with panic | (causes | ⟨intermediate, transformed⟩)
      · rw [Work.bind_of_error htransform]
        rfl
      · rw [Work.bind_of_ok htransform]
        rfl
      · rw [Work.bind_of_ok htransform]
        have hgenerate : (answers.host saving).generate intermediate job.task
            (job.log ++ transformed) disk =
              (answers.generate intermediate job.task (job.log ++ transformed), disk) := rfl
        simp only [bind, Except.bind]
        generalize answers.generate intermediate job.task (job.log ++ transformed) = answer
          at hgenerate ⊢
        rcases answer with panic | (causes | ⟨program, generated⟩)
        · exact Work.bind_of_error hgenerate
        · exact Work.bind_of_ok hgenerate
        · exact Work.bind_of_ok hgenerate

/-- The reply that a job gives. -/
def Answers.reply (answers : Answers α) (job : Job α) : Reply :=
  (job.run (answers.host fun _ _ _ => pure (.ok ())) ()).1

theorem Answers.run_host (answers : Answers α) (saving : Saving δ) (job : Job α) (disk : δ) :
    job.run (answers.host saving) disk = (answers.reply job, disk) := by
  unfold Answers.reply Job.run
  rw [answers.emit_host, answers.emit_host]
  rcases answers.emit job with panic | (error | output) <;> rfl

end CompileServer
