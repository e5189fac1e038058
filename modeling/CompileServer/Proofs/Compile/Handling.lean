import CompileServer.Proofs.Compile.Answers
import CompileServer.Proofs.Compile.Overheard
import CompileServer.Proofs.Compile.Ownership

/-!
# Handling a request

A request is handled when it was resolved and, if that gave a job, the job was done.  The
account of it says all that came of it.  With fixed answers and without dumps, the account of a
request for an owned file follows from its owner and from the number of the next analysis, and
the session changes as the account says.
-/

namespace CompileServer

variable {σ α δ : Type}

namespace Work

/-- Does a job at once. -/
def finish (host : Host σ α) (job : Job α) : Work σ α Reply := fun session =>
  let (reply, world) := job.run host session.world
  (.ok reply, { session with world := world })

/-- Works on a request whose libraries are loaded until there is a reply. -/
def handle (host : Host σ α) (kinds : SourceKinds) (task : CompileTask) :
    Work σ α (Job α × Reply) := do
  let project ← resolve host kinds task
  let job : Job α := ⟨project, task, (← get).log⟩
  let reply ← finish host job
  return (job, reply)

/-- A request is prepared and its job is done by receiving it and handling its task. -/
theorem prepare_finish (host : Host σ α) (kinds : SourceKinds) (payload : Json) :
    (do
      let job ← prepare host kinds payload
      let reply ← finish host job
      return (job, reply)) =
    (do
      let task ← receive host payload
      handle host kinds task) := by
  rw [prepare_eq_receive]
  simp only [handle, bind_assoc, pure_bind]

theorem through_finish {τ : Type} {view : τ → σ} {fine : Host τ α} {plain : Host σ α}
    (hhost : fine.Through view plain) (job : Job α) :
    Through (Session.view view) (finish fine job) (finish plain job) := by
  intro session
  have hrun : job.run plain (session.view view).world = _ := Job.through_run hhost job session.world
  simp only [finish, hrun]
  rfl

/-- Handling a request behind the view is handling it. -/
theorem through_handle {τ : Type} {view : τ → σ} {fine : Host τ α} {plain : Host σ α}
    (hhost : fine.Through view plain) (kinds : SourceKinds) (task : CompileTask) :
    Through (Session.view view) (handle fine kinds task) (handle plain kinds task) := by
  apply Through.bind (through_resolve hhost kinds task)
  intro project session
  rw [bind_of_ok (get_apply session), bind_of_ok (get_apply (session.view view))]
  exact Through.bind (through_finish hhost _) (fun _ => Through.pure _ _) session

end Work

/-- What comes of a request: the decision about its file, the job that it becomes with the reply
to it, the log by then, and everything that is said. -/
structure Account (α : Type) where
  decision : Decision
  outcome : Except Fault (Job α × Reply)
  log : Log
  said : List (Exchange α)

/-- The session that a request finds, with nothing logged and nothing said. -/
def Session.opened (session : Session σ α) : Session (Overheard σ α) α :=
  overhear { session with log := [] }

/-- Handles a request; what comes of it and the session after it. -/
def Session.handled (host : Host σ α) (kinds : SourceKinds) (task : CompileTask)
    (session : Session σ α) : Account α × Session σ α :=
  let (outcome, after) := Work.handle host.overheard kinds task session.opened
  (⟨session.store.decide kinds task.file, outcome, after.log, after.world.exchanges⟩,
    after.unheard)

/-- The account is that of the request as it is handled when nobody listens. -/
theorem Work.handle_eq_handled (host : Host σ α) (kinds : SourceKinds) (task : CompileTask)
    (session : Session σ α) :
    handle host kinds task { session with log := [] } =
      ((session.handled host kinds task).1.outcome, (session.handled host kinds task).2) :=
  through_handle host.through_overheard kinds task session.opened

/-! ## Jobs of a host with fixed answers -/

namespace Answers

/-- What is said while a job is done. -/
def emitting (answers : Answers α) (job : Job α) : List (Exchange α) :=
  if job.isSkipped then []
  else
    let transformed := answers.transform job.project.analysis job.task job.log
    .transform job.project.analysis job.task job.log transformed ::
      match transformed with
      | .ok (.ok (intermediate, entries)) =>
        [.generate intermediate job.task (job.log ++ entries)
          (answers.generate intermediate job.task (job.log ++ entries))]
      | _ => []

theorem emit_overheard (answers : Answers α) (saving : Saving δ) (job : Job α)
    (overheard : Overheard δ α) :
    job.emit (answers.host saving).overheard overheard =
      (answers.emit job,
        ⟨overheard.world, overheard.exchanges ++ answers.emitting job⟩) := by
  unfold Job.emit Answers.emit emitting
  cases job.isSkipped with
  | true =>
      simp only [if_true, List.append_nil]
      rfl
  | false =>
      simp only [Bool.false_eq_true, if_false]
      have htransform : (answers.host saving).overheard.transform job.project.analysis job.task
          job.log overheard =
        (answers.transform job.project.analysis job.task job.log,
          ⟨overheard.world, overheard.exchanges ++ [.transform job.project.analysis job.task
            job.log (answers.transform job.project.analysis job.task job.log)]⟩) := rfl
      generalize answers.transform job.project.analysis job.task job.log = answer
        at htransform ⊢
      rcases answer with panic | (causes | ⟨intermediate, transformed⟩)
      · rw [Work.bind_of_error htransform]
        rfl
      · rw [Work.bind_of_ok htransform]
        rfl
      · rw [Work.bind_of_ok htransform]
        have hgenerate : ∀ said : Exchange α,
            (answers.host saving).overheard.generate intermediate job.task
              (job.log ++ transformed) ⟨overheard.world, overheard.exchanges ++ [said]⟩ =
            (answers.generate intermediate job.task (job.log ++ transformed),
              ⟨overheard.world, overheard.exchanges ++ [said, .generate intermediate job.task
                (job.log ++ transformed)
                (answers.generate intermediate job.task (job.log ++ transformed))]⟩) :=
          fun _ => Prod.ext rfl (congrArg (Overheard.mk _) (List.append_assoc _ _ _))
        simp only [bind, Except.bind]
        generalize answers.generate intermediate job.task (job.log ++ transformed) = answer
          at hgenerate ⊢
        rcases answer with panic | (causes | ⟨program, generated⟩)
        · exact Work.bind_of_error (hgenerate _)
        · exact Work.bind_of_ok (hgenerate _)
        · exact Work.bind_of_ok (hgenerate _)

theorem run_overheard (answers : Answers α) (saving : Saving δ) (job : Job α)
    (overheard : Overheard δ α) :
    job.run (answers.host saving).overheard overheard =
      (answers.reply job,
        ⟨overheard.world, overheard.exchanges ++ answers.emitting job⟩) := by
  unfold Answers.reply Job.run
  rw [answers.emit_host, answers.emit_overheard]
  rcases answers.emit job with panic | (error | output) <;> rfl

end Answers

/-! ## Owned files -/

/-- A project that is checked again without a dump is asked about once. -/
theorem Work.createProject_watch (host : Host σ α) {task : CompileTask}
    (hdump : task.dumpFolder = none) (owner : Project α) (session : Session σ α) :
    createProject host task owner.projectFile (.watch owner) session =
      match verdict (.frontEnd owner.projectFile) (host.check owner.options session.world).1 with
      | .ok checked =>
        (.ok (.fresh owner.projectFile owner.options owner.runtimeFolder
            ⟨session.analyses + 1, checked.2⟩),
          { session with
            analyses := session.analyses + 1
            log := checked.1.foldl Log.diagnostic session.log
            world := (host.check owner.options session.world).2 })
      | .error fault =>
        (.error fault, { session with world := (host.check owner.options session.world).2 }) := by
  have hattempt := attempt_apply (.frontEnd owner.projectFile) (host.check owner.options) session
  rw [createProject_eq]
  change ((check host owner.projectFile owner.options >>= _) session) = _
  cases hverdict : verdict (.frontEnd owner.projectFile)
      (host.check owner.options session.world).1 with
  | error fault =>
      rw [hverdict] at hattempt
      have hcheck : check host owner.projectFile owner.options session =
          (.error fault, { session with world := (host.check owner.options session.world).2 }) :=
        bind_of_error hattempt
      rw [bind_of_error hcheck]
  | ok checked =>
      rw [hverdict] at hattempt
      have hcheck : check host owner.projectFile owner.options session =
          (.ok (checked.1, ⟨session.analyses + 1, checked.2⟩),
            { session with
              analyses := session.analyses + 1
              world := (host.check owner.options session.world).2 }) :=
        bind_of_ok hattempt
      rw [bind_of_ok hcheck]
      simp only [dumpIfAsked, hdump]
      rfl

namespace Answers

/-- What comes of a request that becomes a job. -/
def done (answers : Answers α) (decision : Decision) (job : Job α) (said : List (Exchange α)) :
    Account α :=
  ⟨decision, .ok (job, answers.reply job), job.log, said ++ answers.emitting job⟩

/-- What comes of a request for an owned file, given the number of analyses before it. -/
def account (answers : Answers α) (kinds : SourceKinds) (task : CompileTask)
    (owner : Project α) (number : Nat) : Account α :=
  if owner.isStale kinds task.file then
    let answer := answers.check owner.options
    let decision := Decision.rebuild owner.projectFile (.watch owner)
    match Work.verdict (.frontEnd owner.projectFile) answer with
    | .ok checked =>
      let made := Project.fresh owner.projectFile owner.options owner.runtimeFolder
        ⟨number + 1, checked.2⟩
      answers.done decision
        ⟨made.markCompiled task.file, task, checked.1.foldl Log.diagnostic []⟩
        [.check owner.options answer]
    | .error fault => ⟨decision, .error fault, [], [.check owner.options answer]⟩
  else answers.done (.reuse owner.projectFile) ⟨owner.markCompiled task.file, task, []⟩ []

/-- The number of analyses that a request for an owned file makes. -/
def analysesFor (answers : Answers α) (kinds : SourceKinds) (task : CompileTask)
    (owner : Project α) : Nat :=
  if owner.isStale kinds task.file &&
      (Work.verdict (.frontEnd owner.projectFile) (answers.check owner.options)).isOk then 1
  else 0

end Answers

/-- The project of an account takes the place of the one before. -/
def Store.accept (store : Store α) (account : Account α) : Store α :=
  match account.outcome with
  | .ok done => store.replace done.1.project
  | .error _ => store

/-- The job of a request is done when it is resolved. -/
theorem Session.handled_of_ok {answers : Answers α} {saving : Saving δ} {kinds : SourceKinds}
    {task : CompileTask} {session : Session δ α} {project : Project α}
    {resolved : Session (Overheard δ α) α}
    (hresolve : Work.resolve (answers.host saving).overheard kinds task session.opened =
      (.ok project, resolved)) :
    session.handled (answers.host saving) kinds task =
      (answers.done (session.store.decide kinds task.file) ⟨project, task, resolved.log⟩
          resolved.world.exchanges, resolved.unheard) := by
  have hfinish :
      Work.finish (answers.host saving).overheard ⟨project, task, resolved.log⟩ resolved =
        (.ok (answers.reply ⟨project, task, resolved.log⟩),
          { resolved with world := ⟨resolved.world.world,
            resolved.world.exchanges ++ answers.emitting ⟨project, task, resolved.log⟩⟩ }) := by
    simp only [Work.finish, answers.run_overheard]
  simp only [handled, Work.handle, Work.bind_of_ok hresolve,
    Work.bind_of_ok (Work.get_apply resolved), Work.bind_of_ok hfinish]
  rfl

theorem Session.handled_of_error {host : Host σ α} {kinds : SourceKinds}
    {task : CompileTask} {session : Session σ α} {fault : Fault}
    {resolved : Session (Overheard σ α) α}
    (hresolve : Work.resolve host.overheard kinds task session.opened =
      (.error fault, resolved)) :
    session.handled host kinds task =
      (⟨session.store.decide kinds task.file, .error fault, resolved.log,
        resolved.world.exchanges⟩, resolved.unheard) := by
  simp only [handled, Work.handle, Work.bind_of_error hresolve]

/-- A request for an owned file comes to what its owner makes of it, and the session changes
accordingly. -/
theorem Session.handled_of_assigns {answers : Answers α} {saving : Saving δ} {kinds : SourceKinds}
    {task : CompileTask} {session : Session δ α} {owner : Project α}
    (hkeyed : session.store.Keyed) (hassigned : session.store.Assigns kinds task.file owner)
    (hdump : task.dumpFolder = none) :
    session.handled (answers.host saving) kinds task =
      (answers.account kinds task owner session.analyses,
        { session with
          store := session.store.accept (answers.account kinds task owner session.analyses)
          analyses := session.analyses + answers.analysesFor kinds task owner
          log := (answers.account kinds task owner session.analyses).log }) := by
  have hopened : session.opened.store.Keyed := hkeyed
  have hasked : session.opened.store.Assigns kinds task.file owner := hassigned
  have hdecision := hassigned.decide
  unfold Answers.account Answers.analysesFor
  cases hstale : owner.isStale kinds task.file with
  | false =>
      have hresolve := Work.resolve_of_assigns (answers.host saving).overheard hopened hasked hstale
      rw [handled_of_ok hresolve, hdecision, hstale]
      rfl
  | true =>
      have hcreate := Work.createProject_watch (answers.host saving).overheard hdump owner
        session.opened
      have hanswer : (answers.host saving).overheard.check owner.options session.opened.world =
          (answers.check owner.options,
            ⟨session.world, [.check owner.options (answers.check owner.options)]⟩) := rfl
      rw [hanswer] at hcreate
      rw [hstale, if_pos rfl] at hdecision
      simp only [if_true, Bool.true_and]
      rcases hverdict : Work.verdict (.frontEnd owner.projectFile) (answers.check owner.options)
        with fault | checked
      · simp only [hverdict] at hcreate
        rw [handled_of_error (Work.resolve_of_stale_fault hasked hstale hcreate), hdecision]
        rfl
      · simp only [hverdict] at hcreate
        obtain ⟨-, hresolve⟩ := Work.resolve_of_stale hopened hasked hstale hcreate
        rw [handled_of_ok hresolve, hdecision]
        rfl

end CompileServer
