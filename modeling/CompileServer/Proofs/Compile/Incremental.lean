import CompileServer.Proofs.Compile.Provenance
import CompileServer.Proofs.Compile.Sample

/-!
# Incremental work

A source file is translated in the middle of a long run as it is right after the one
request that its project goes back to.  The two runs differ in the numbers of their
analyses and in their logs, and code generation depends on neither.
-/

namespace CompileServer

variable {σ α δ : Type}

/-- What a job comes to apart from the log: the program with its dependencies, or why there
is none. -/
def Job.translation (host : Host σ α) (job : Job α) (world : σ) :
    Except Panic (Except CompileError (TargetProgram × List Path)) :=
  (job.emit host world).1.map fun outcome =>
    outcome.map fun output => (output.program, output.dependencies)

namespace Answers.Steady

variable {answers : Answers α}

/-- Jobs for one task whose analyses say the same come to the same. -/
theorem translation_eq (hsteady : answers.Steady) (saving : Saving δ) {first second : Job α}
    (hvalue : first.project.analysis.value = second.project.analysis.value)
    (htask : first.task = second.task) (hfirst : first.isSkipped = false)
    (hsecond : second.isSkipped = false) (before after : δ) :
    first.translation (answers.host saving) before =
      second.translation (answers.host saving) after := by
  unfold Job.translation
  rw [answers.emit_host, answers.emit_host]
  unfold Answers.emit
  simp only [hfirst, hsecond, Bool.false_eq_true, if_false, htask]
  rw [hsteady.transform _ _ second.task first.log second.log hvalue]
  rcases answers.transform second.project.analysis second.task second.log with
    panic | (causes | ⟨intermediate, transformed⟩)
  · rfl
  · rfl
  · simp only [bind, Except.bind]
    rw [hsteady.generate intermediate second.task (first.log ++ transformed)
      (second.log ++ transformed)]
    rcases answers.generate intermediate second.task (second.log ++ transformed) with
      panic | (causes | ⟨program, generated⟩) <;> rfl

end Answers.Steady

section Fresh

variable {answers : Answers α} {kinds : SourceKinds} {task : CompileTask}
  {project : Project α}

theorem dumpIfAsked_host (hsteady : answers.Steady) (saving : Saving δ) (task : CompileTask)
    (project : Path) (options : ProjectOptions) (diagnostics : List Diagnostic)
    (analysis : Analysis α) (session : Session δ α) :
    ∃ after, Work.dumpIfAsked (answers.host saving) task project options diagnostics analysis
      session = (.ok (), after) := by
  unfold Work.dumpIfAsked
  cases task.dumpFolder with
  | none => exact ⟨session, rfl⟩
  | some folder =>
      obtain ⟨shown, hshown⟩ := hsteady.describe analysis
      have hcall : Work.call ((answers.host saving).describe analysis) session =
          (.ok shown, session) := by
        simp only [Work.call, Answers.host, hshown]
      simp only [Work.dump, Work.bind_of_ok hcall]
      rcases hsaved : Work.save (answers.host saving) folder
          (AnalysisFile.path folder options.projectFile)
          (AnalysisFile.text options analysis.generation diagnostics shown) session with
        ⟨fault | (fault | done), middle⟩
      · cases hsaved
      · rw [Work.bind_of_ok hsaved]
        exact ⟨_, rfl⟩
      · rw [Work.bind_of_ok hsaved]
        exact ⟨_, rfl⟩

/-- What a task made of its own file once, it makes of it again. -/
theorem createProject_of_founded (hsteady : answers.Steady) (saving : Saving δ)
    (hfounded : Founded answers kinds task project) (session : Session δ α) :
    ∃ made after, Work.createProject (answers.host saving) task task.file .none session =
      (.ok made, after) := by
  obtain ⟨derived, hderived, hoptions⟩ := hfounded.options
  obtain ⟨diagnostics, hchecked⟩ := hfounded.checked
  have hderive : Work.attempt (.buildOptions task.file)
      ((answers.host saving).deriveOptions task.defines task.file) session =
        (.ok derived, session) :=
    Work.attempt_answer_ok _ hderived session
  have hoptionsOf : Work.seededOptions (answers.host saving) task task.file .none session =
      (.ok project.options, session) := by
    rw [hoptions]
    exact Work.bind_of_ok hderive
  have hfind : Work.attempt (.buildOptions task.file)
      ((answers.host saving).findRuntime task.file) session =
        (.ok (some project.runtimeFolder), session) :=
    Work.attempt_answer_ok _ hfounded.runtimeFolder session
  have hfolderOf : Work.seededFolder (answers.host saving) task.file .none session =
      (.ok project.runtimeFolder, session) :=
    Work.bind_of_ok hfind
  have hask : Work.attempt (.frontEnd task.file)
      ((answers.host saving).check project.options) session =
        (.ok (diagnostics, project.analysis.value), session) :=
    Work.attempt_answer_ok _ hchecked session
  have hcheckOf : Work.check (answers.host saving) task.file project.options session =
      (.ok (diagnostics, ⟨session.analyses + 1, project.analysis.value⟩),
        { session with analyses := session.analyses + 1 }) :=
    Work.bind_of_ok hask
  obtain ⟨after, hdumped⟩ := dumpIfAsked_host hsteady saving task task.file project.options
    diagnostics ⟨session.analyses + 1, project.analysis.value⟩
    { session with analyses := session.analyses + 1 }
  rw [Work.createProject_eq, Work.bind_of_ok hoptionsOf, Work.bind_of_ok hfolderOf,
    Work.bind_of_ok hcheckOf, Work.bind_of_ok hdumped, Work.bind_of_ok (Work.writeLog_apply _ _)]
  exact ⟨_, _, rfl⟩

/-- The store after the first request of all, one for the own file of a project. -/
structure First (answers : Answers α) (kinds : SourceKinds) (task : CompileTask)
    (store : Store α) (project : Project α) : Prop where
  founded : Founded answers kinds task project
  published : (Store.empty : Store α).Publishes store project
  compiled : ∀ file, project.isCompiled file = true ↔ file ≈ task.file

theorem first_of_founded (hsteady : answers.Steady) (saving : Saving δ)
    (hfounded : Founded answers kinds task project) {origin : Json}
    (htask : answers.task? origin = some task) (disk : δ) :
    ∃ made, First answers kinds task
      (Session.afterAll (answers.host saving) kinds disk [origin]).store made := by
  have hafter : Session.afterAll (answers.host saving) kinds disk [origin] =
      ((Session.start disk).prepare (answers.host saving) kinds origin).2 :=
    Session.answer_session answers saving kinds origin (.start disk)
  have hfaithful : answers.Faithful (Session.start disk : Session δ α).plugins :=
    answers.faithful_empty
  obtain ⟨cache, -, hprepare⟩ :=
    Answers.prepare_host saving kinds hsteady.loadPlugins origin hfaithful
  simp only [htask] at hprepare
  have hextends := (Work.respects_extends (answers.host saving) task task.file .none).createProject
    { Session.start disk with plugins := cache, log := [] }
  obtain ⟨made, middle, hcreate⟩ := createProject_of_founded hsteady saving hfounded
    { Session.start disk with plugins := cache, log := [] }
  have hmade := Work.createProject_eq_ok hcreate
  rw [hcreate] at hextends
  have hempty : middle.store = .empty := hextends.store
  rw [Work.resolve_of_rebuild (Store.decide_empty hfounded.kind) hcreate] at hprepare
  have hknown : ∀ known : Project α, none = some known →
      ∃ other, Founded answers kinds other known ∧ other.file ≈ task.file :=
    fun _ hnone => by cases hnone
  have hpublished := middle.store.publishes_insert made task.file
  rw [hmade.projectFile] at hpublished
  rw [hafter, hprepare]
  refine ⟨made.markCompiled task.file, ?_, ?_, hmade.isCompiled_markCompiled task.file⟩
  · exact (founded_of_own hsteady hfounded.kind hknown hmade).markCompiled _
  · rw [← hempty]
    exact hpublished

theorem First.stored {store : Store α} (hfirst : First answers kinds task store project) :
    store.get? project.projectFile = some project := by
  rw [hfirst.published, if_pos (Setoid.refl _)]

/-- The one project of a store owns the files that it lists. -/
theorem First.findOwner {store : Store α} (hfirst : First answers kinds task store project)
    {file : Path} (hcontains : project.contains file = true) :
    store.findOwner file = some project := by
  obtain ⟨owner, howner⟩ := Store.exists_findOwner hfirst.stored hcontains
  obtain ⟨-, key, hfound⟩ := Store.findOwner_eq_some howner
  rw [hfirst.published key] at hfound
  split at hfound
  · cases hfound
    exact howner
  · cases hfound

/-- A source file of the one project is served by it, as it is. -/
theorem First.resolve {store : Store α} (hfirst : First answers kinds task store project)
    (saving : Saving δ) (session : Session δ α) (hstore : session.store = store)
    {asked : CompileTask}
    (hsource : kinds.classify asked.file = .source)
    (hcontains : project.contains asked.file = true) :
    ∃ after, Work.resolve (answers.host saving) kinds asked session =
      (.ok (project.markCompiled asked.file), after) := by
  subst hstore
  have hfresh : project.isCompiled asked.file ≠ true :=
    mt (hfirst.compiled _).1 (hfirst.founded.not_equiv_source hsource)
  have hdecision := Store.decide_source hsource (hfirst.findOwner hcontains)
  rw [if_neg hfresh] at hdecision
  exact ⟨_, Work.resolve_of_reuse hdecision hfirst.stored⟩

end Fresh

/-- A source file that was served belongs to the project that serves it. -/
theorem Resolved.contains {host : Host σ α} {kinds : SourceKinds} {task : CompileTask}
    {before after : Session σ α} {project : Project α}
    (hresolved : Resolved host kinds task before (.ok project) after)
    (hsource : kinds.classify task.file = .source) : project.contains task.file = true := by
  cases hresolved with
  | rebuilt hdecided hmade =>
      rw [Project.markCompiled_contains]
      cases hdecided with
      | own hkind =>
          rw [hsource] at hkind
          rcases hkind with hkind | hkind <;> cases hkind
      | watch howner =>
          rw [Project.contains_congr (congrArg ProjectOptions.sourceFiles hmade.of_watch.1)]
          exact (Store.findOwner_eq_some howner).1
  | reused howner =>
      rw [Project.markCompiled_contains]
      exact (Store.findOwner_eq_some howner).1

/-- A job for a source file is never skipped. -/
theorem Founded.isSkipped {answers : Answers α} {kinds : SourceKinds} {task : CompileTask}
    {job : Job α} (hfounded : Founded answers kinds task job.project)
    (hsource : kinds.classify job.task.file = .source) : job.isSkipped = false := by
  have hother := hfounded.not_equiv_source hsource
  rw [← hfounded.projectFile] at hother
  simp only [Job.isSkipped, hother, decide_false, Bool.false_and]

section Run

variable {answers : Answers α} {saving : Saving δ} {kinds : SourceKinds} {disk : δ}
  {payloads : List Json} {payload : Json} {job : Job α}

theorem Grounded.task?_of_prepare (hsteady : answers.Steady)
    (hgrounded : Grounded answers saving kinds disk payloads)
    (hjob : ((Session.afterAll (answers.host saving) kinds disk payloads).prepare
      (answers.host saving) kinds payload).1 = .ok job) :
    answers.task? payload = some job.task :=
  (Answers.prepare_eq_ok saving kinds hsteady.loadPlugins hgrounded.faithful hgrounded.keyed
    (Prod.ext hjob rfl)).1

/-- The project that serves a source file lists it and goes back to an earlier request. -/
theorem Grounded.origin_of_source (hsteady : answers.Steady)
    (hgrounded : Grounded answers saving kinds disk payloads)
    (hjob : ((Session.afterAll (answers.host saving) kinds disk payloads).prepare
      (answers.host saving) kinds payload).1 = .ok job)
    (hsource : kinds.classify job.task.file = .source) :
    job.project.contains job.task.file = true ∧
      ∃ position, Originates answers saving kinds disk payloads position job.project := by
  obtain ⟨-, -, cache, hresolved⟩ := Answers.prepare_eq_ok saving kinds hsteady.loadPlugins
    hgrounded.faithful hgrounded.keyed (Prod.ext hjob rfl)
  refine ⟨hresolved.contains hsource, ?_⟩
  rcases hresolved.own_or_owned with ⟨-, -, -, hkind, -⟩ | ⟨owner, howner, -, htakes⟩
  · rw [hsource] at hkind
    rcases hkind with hkind | hkind <;> cases hkind
  · obtain ⟨-, key, hstored⟩ := Store.findOwner_eq_some howner
    obtain ⟨position, horigin⟩ := hgrounded.stored key owner hstored
    exact ⟨position, horigin.change htakes⟩

end Run

/-- A job for a request after a run comes to what the request comes to after one request
alone: the last one of the run that was for the own file of the project and was resolved. -/
def AgreesWithScratch (host : Host σ α) (kinds : SourceKinds) (world : σ)
    (payloads : List Json) (payload : Json) (job : Job α) : Prop :=
  ∃ position origin creator,
    payloads[position]? = some origin ∧
    Session.jobAt? host kinds world payloads position = some creator ∧
    creator.task.file ≈ job.project.projectFile ∧
    (∀ later other, position < later →
      Session.jobAt? host kinds world payloads later = some other →
      ¬ other.task.file ≈ job.project.projectFile) ∧
    ∃ fresh,
      ((Session.afterAll host kinds world [origin]).prepare host kinds payload).1 = .ok fresh ∧
      ∀ before after, fresh.translation host before = job.translation host after

/-- Incremental work comes to what work from scratch comes to.  A source file that is
served in the middle of any run is translated as it is in the run of two requests. -/
theorem agreesWithScratch {answers : Answers α} (hsteady : answers.Steady)
    (saving : Saving δ) (kinds : SourceKinds) (disk : δ) (payloads : List Json)
    (payload : Json) (job : Job α)
    (hjob : ((Session.afterAll (answers.host saving) kinds disk payloads).prepare
      (answers.host saving) kinds payload).1 = .ok job)
    (hsource : kinds.classify job.task.file = .source) :
    AgreesWithScratch (answers.host saving) kinds disk payloads payload job := by
  have hgrounded := grounded_run hsteady saving kinds disk payloads
  have hasked := hgrounded.task?_of_prepare hsteady hjob
  obtain ⟨hcontains, position, creator, hcreator, hfounded, hlast⟩ :=
    hgrounded.origin_of_source hsteady hjob hsource
  obtain ⟨origin, horigin, hprepared⟩ := (Session.jobAt?_eq_some _ _ _ _).1 hcreator
  have hearlier := grounded_run hsteady saving kinds disk (payloads.take position)
  have htask := hearlier.task?_of_prepare hsteady hprepared
  -- The run of two requests: the first makes the one project, the second is served by it.
  obtain ⟨made, hfirst⟩ := first_of_founded hsteady saving hfounded htask disk
  obtain ⟨hoptions, hvalue⟩ := hfounded.value_eq hfirst.founded
  have hlisted : made.contains job.task.file = true := by
    rw [Project.contains_congr (congrArg ProjectOptions.sourceFiles hoptions)]
    exact hcontains
  have hscratch := grounded_run hsteady saving kinds disk [origin]
  obtain ⟨cache, -, hprepare⟩ :=
    Answers.prepare_host saving kinds hsteady.loadPlugins payload hscratch.faithful
  simp only [hasked] at hprepare
  obtain ⟨after, hresolve⟩ := hfirst.resolve saving
    { Session.afterAll (answers.host saving) kinds disk [origin] with
      plugins := cache, log := [] } rfl hsource hlisted
  rw [hresolve] at hprepare
  have hsame : creator.task.file ≈ job.project.projectFile :=
    hfounded.projectFile ▸ Setoid.refl _
  refine ⟨position, origin, creator, horigin, hcreator, hsame, hlast, _,
    congrArg Prod.fst hprepare, ?_⟩
  refine hsteady.translation_eq saving ?_ rfl ?_ (hfounded.isSkipped hsource)
  · rw [Project.markCompiled_analysis]
    exact hvalue
  · exact (hfirst.founded.markCompiled job.task.file).isSkipped hsource

theorem Sample.steady : Sample.answers.Steady where
  findRuntime _ _ _ := rfl
  loadPlugins _ _ _ := rfl
  describe _ := ⟨.null, rfl⟩
  transform left right task _ _ hvalue := by
    simp only [Sample.answers, hvalue]
  generate _ _ _ _ := rfl

/-- Two requests for a manifest, with one for a source file and one that is refused between
them, and another for the source file. -/
def Sample.requests : List Json :=
  [request manifest, request firstFile, request ⟨"/q/C.fs"⟩, request manifest,
    request firstFile]

/-- The third request for the source file is the first one to have its project checked
again. -/
theorem agreesWithScratch_requests :
    ∃ job, job.project.generation = 3 ∧
      AgreesWithScratch Sample.host .standard () Sample.requests
        (Sample.request Sample.firstFile) job := by
  have hresolved : (Session.jobAt? Sample.host .standard ()
      (Sample.requests ++ [Sample.request Sample.firstFile]) Sample.requests.length).isSome =
        true := by
    decide +kernel
  obtain ⟨job, hjob⟩ := Option.isSome_iff_exists.1 hresolved
  have hseen : (Session.jobAt? Sample.host .standard ()
      (Sample.requests ++ [Sample.request Sample.firstFile]) Sample.requests.length).all
        (fun job => job.project.generation == 3 &&
          SourceKinds.standard.classify job.task.file == .source) = true := by
    decide +kernel
  rw [hjob, Option.all_some] at hseen
  simp only [Bool.and_eq_true, beq_iff_eq] at hseen
  exact ⟨job, hseen.1, agreesWithScratch Sample.steady _ .standard () Sample.requests
    (Sample.request Sample.firstFile) job ((Session.jobAt?_concat _ _ _ _).1 hjob) hseen.2⟩

end CompileServer
