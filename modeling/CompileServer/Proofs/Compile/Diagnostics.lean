import CompileServer.Proofs.Compile.Conversation

/-!
# Diagnostics of an output

The diagnostics of an output are what the server heard while it worked on that one request: a
warning if the dump failed, the findings of its check and the entries of the code
generator, in this order.  Whether there is anything to generate is decided by the findings.
-/

namespace CompileServer

variable {σ α : Type}

namespace Exchange

/-- What a check found. -/
def findings : Exchange α → List Diagnostic
  | .check _ (.ok (.ok (diagnostics, _))) => diagnostics
  | _ => []

/-- What the code generator added to the log. -/
def added : Exchange α → Log
  | .transform _ _ _ (.ok (.ok (_, entries))) => entries
  | .generate _ _ _ (.ok (.ok (_, entries))) => entries
  | _ => []

def isCheck : Exchange α → Bool
  | .check _ _ => true
  | _ => false

def isSave : Exchange α → Bool
  | .save _ _ _ _ => true
  | _ => false

/-- Whether the code generator was called. -/
def isEmission : Exchange α → Bool
  | .transform _ _ _ _ => true
  | .generate _ _ _ _ => true
  | _ => false

/-- Whether the question comes before any check. -/
def isSetup : Exchange α → Bool
  | .deriveOptions _ _ _ => true
  | .findRuntime _ _ => true
  | .loadPlugins _ _ => true
  | _ => false

end Exchange

/-- Whether a project is made. -/
def Decision.rebuilds : Decision → Bool
  | .rebuild _ _ => true
  | _ => false

/-- The warnings of a request: there is one if the dump that it asked for could not be saved. -/
inductive DumpWarns (task : CompileTask) (project : Path) (said : List (Exchange α)) :
    Log → Prop where
  | fine (hsaved : ∀ folder file text fault, .save folder file text (.error fault) ∉ said) :
      DumpWarns task project said []
  | failed {folder file : Path} {text : String} {fault : FileFault}
      (hfolder : task.dumpFolder = some folder)
      (hfailed : .save folder file text (.error fault) ∈ said) :
      DumpWarns task project said [dumpWarning project folder fault]

/-- What an output says, given what was said while its job was prepared and while it was
done. -/
structure Job.Reports (job : Job α) (rebuilt : Bool) (preparing emitting : List (Exchange α))
    (output : CompileOutput) : Prop where
  diagnostics : ∃ warnings, DumpWarns job.task job.project.projectFile preparing warnings ∧
    output.diagnostics = warnings ++
      (preparing.flatMap Exchange.findings).map (Diagnostic.entry .frontEnd) ++
      emitting.flatMap Exchange.added
  /-- The project is checked once if it is made, and not at all otherwise. -/
  checked : if rebuilt then ∃ findings, preparing.filter Exchange.isCheck =
      [.check job.project.options (.ok (.ok (findings, job.project.analysis.value)))]
    else preparing.filter Exchange.isCheck = []
  dumped : preparing.countP Exchange.isSave =
    if rebuilt && job.task.dumpFolder.isSome then 1 else 0
  unemitted : preparing.countP Exchange.isEmission = 0
  /-- The code generator is not called if the project has errors and its own file is asked
  for. -/
  skipped : emitting = [] ↔ job.task.file ≈ job.project.projectFile ∧
    ∃ found ∈ preparing.flatMap Exchange.findings, found.severity = .error
  empty : emitting = [] →
    output.program = .empty ∧ output.dependencies = job.project.sourceFiles
  emitted : emitting ≠ [] → ∃ intermediate transformed generated,
    emitting = [.transform job.project.analysis job.task job.log
        (.ok (.ok (intermediate, transformed))),
      .generate intermediate job.task (job.log ++ transformed)
        (.ok (.ok (output.program, generated)))] ∧
    output.dependencies = intermediate.dependencies

/-! ## What is said while a job is done -/

/-- What is said while a job is done. -/
def Job.heard (host : Host σ α) (job : Job α) (world : σ) : List (Exchange α) :=
  (job.run host.overheard ⟨world, []⟩).2.exchanges

/-- What is said while the program of a job is emitted. -/
inductive EmittingSaid (job : Job α) : List (Exchange α) → CompileOutput → Prop where
  | skipped (hskipped : job.isSkipped = true) :
      EmittingSaid job [] ⟨.empty, job.log, job.project.sourceFiles⟩
  | emitted {intermediate : IntermediateProgram} {program : TargetProgram}
      {transformed generated : Log} (hneeded : job.isSkipped = false) :
      EmittingSaid job
        [.transform job.project.analysis job.task job.log
            (.ok (.ok (intermediate, transformed))),
          .generate intermediate job.task (job.log ++ transformed)
            (.ok (.ok (program, generated)))]
        ⟨program, job.log ++ transformed ++ generated, intermediate.dependencies⟩

/-- A question that gets an answer adds one exchange. -/
theorem Overheard.note_eq_ok {β : Type} {exchange : Except Panic β → Exchange α}
    {answer : Call σ β} {before after : Overheard σ α} {value : β}
    (hnote : note exchange answer before = (.ok value, after)) :
    after.exchanges = before.exchanges ++ [exchange (.ok value)] := by
  obtain ⟨hanswer, rfl⟩ := Prod.mk.inj hnote
  rw [hanswer]

namespace Job

variable {host : Host σ α} {job : Job α} {output : CompileOutput}

theorem emittingSaid_of_emit {world : σ} {last : Overheard σ α}
    (hemit : job.emit host.overheard ⟨world, []⟩ = (.ok (.ok output), last)) :
    EmittingSaid job last.exchanges output := by
  unfold emit at hemit
  cases hskipped : job.isSkipped with
  | true =>
      rw [hskipped, if_pos rfl] at hemit
      cases hemit
      exact .skipped hskipped
  | false =>
      simp only [hskipped, Bool.false_eq_true, if_false] at hemit
      obtain ⟨answer, middle, htransform, hemit⟩ := Work.bind_eq_ok hemit
      cases answer with
      | error causes => cases hemit
      | ok found =>
          obtain ⟨intermediate, transformed⟩ := found
          obtain ⟨answer, final, hgenerate, hemit⟩ := Work.bind_eq_ok hemit
          cases answer with
          | error causes => cases hemit
          | ok found =>
              obtain ⟨program, generated⟩ := found
              cases hemit
              rw [Overheard.note_eq_ok hgenerate, Overheard.note_eq_ok htransform]
              exact .emitted hskipped

/-- A job with an output was emitted. -/
theorem emittingSaid_of_done {world : σ} (hrun : (job.run host world).1 = .done output) :
    EmittingSaid job (job.heard host world) output := by
  have hplain : job.run host world = _ :=
    through_run host.through_overheard job ⟨world, []⟩
  rw [hplain] at hrun
  unfold heard
  unfold run at hrun ⊢
  rcases hemit : job.emit host.overheard ⟨world, []⟩ with ⟨panic | (error | emitted), last⟩
  all_goals
    rw [hemit] at hrun
    cases hrun
  exact emittingSaid_of_emit hemit

end Job

/-! ## Reading what was said -/

/-- What a request that is prepared hears and logs. -/
structure Job.Prepares (job : Job α) (rebuilt : Bool) (said : List (Exchange α)) : Prop where
  log : ∃ warnings, DumpWarns job.task job.project.projectFile said warnings ∧
    job.log = warnings ++ (said.flatMap Exchange.findings).map (Diagnostic.entry .frontEnd)
  checked : if rebuilt then ∃ findings, said.filter Exchange.isCheck =
      [.check job.project.options (.ok (.ok (findings, job.project.analysis.value)))]
    else said.filter Exchange.isCheck = []
  dumped : said.countP Exchange.isSave =
    if rebuilt && job.task.dumpFolder.isSome then 1 else 0
  unemitted : said.countP Exchange.isEmission = 0

theorem OptionsSaid.isSetup {host : Host σ α} {task : CompileTask} {project : Path} {seed : Seed}
    {options : ProjectOptions} {said : List (Exchange α)}
    (hsaid : OptionsSaid host task project seed options said) :
    ∀ exchange ∈ said, exchange.isSetup = true := by
  cases hsaid <;> simp [Exchange.isSetup]

theorem FolderSaid.isSetup {project folder : Path} {seed : Seed} {said : List (Exchange α)}
    (hsaid : FolderSaid project seed folder said) :
    ∀ exchange ∈ said, exchange.isSetup = true := by
  cases hsaid <;> simp [Exchange.isSetup]

theorem Load.isSetup (loads : List Load) :
    ∀ exchange ∈ loads.map (Load.exchange (α := α)), exchange.isSetup = true := by
  intro exchange hexchange
  obtain ⟨load, -, rfl⟩ := List.mem_map.1 hexchange
  rfl

/-- A project is made by questions to the build tool, one check and a dump if one was
asked for. -/
theorem MakingSaid.split {host : Host σ α} {task : CompileTask} {seed : Seed}
    {made : Project α} {said : List (Exchange α)} {logged : Log}
    (hmaking : MakingSaid host task seed made said logged) :
    ∃ setup dumped findings warnings, (∀ exchange ∈ setup, exchange.isSetup = true) ∧
      DumpSaid task made.projectFile dumped warnings ∧
      said = setup ++
        .check made.options (.ok (.ok (findings, made.analysis.value))) :: dumped ∧
      logged = warnings ++ findings.map (Diagnostic.entry .frontEnd) := by
  cases hmaking with
  | course diagnostics hoptions hfolder hdump =>
      refine ⟨_, _, _, _, ?_, hdump, rfl, rfl⟩
      exact List.forall_mem_append.2 ⟨hoptions.isSetup, hfolder.isSetup⟩

theorem Exchange.plain_of_isSetup {exchange : Exchange α} (hsetup : exchange.isSetup = true) :
    exchange.findings = [] ∧ exchange.isCheck = false ∧ exchange.isSave = false ∧
      exchange.isEmission = false := by
  cases exchange with
  | deriveOptions | findRuntime | loadPlugins => exact ⟨rfl, rfl, rfl, rfl⟩
  | check | describe | transform | generate | save => cases hsetup

namespace Job.Prepares

variable {job : Job α} {rebuilt : Bool} {setup said : List (Exchange α)}

/-- Questions that come before any check report nothing. -/
theorem after_setup (hsetup : ∀ exchange ∈ setup, exchange.isSetup = true)
    (hprepares : job.Prepares rebuilt said) : job.Prepares rebuilt (setup ++ said) := by
  have hplain := fun exchange hmem => Exchange.plain_of_isSetup (hsetup exchange hmem)
  have hfindings : setup.flatMap Exchange.findings = [] :=
    List.flatMap_eq_nil_iff.2 fun exchange hmem => (hplain exchange hmem).1
  have hchecks : setup.filter Exchange.isCheck = [] :=
    List.filter_eq_nil_iff.2 fun exchange hmem => by simp [(hplain exchange hmem).2.1]
  have hsaves : setup.countP Exchange.isSave = 0 :=
    List.countP_eq_zero.2 fun exchange hmem => by simp [(hplain exchange hmem).2.2.1]
  have hemissions : setup.countP Exchange.isEmission = 0 :=
    List.countP_eq_zero.2 fun exchange hmem => by simp [(hplain exchange hmem).2.2.2]
  constructor
  · obtain ⟨warnings, hwarns, hlog⟩ := hprepares.log
    refine ⟨warnings, ?_, by rw [List.flatMap_append, hfindings, List.nil_append, hlog]⟩
    cases hwarns with
    | fine hsaved =>
        apply DumpWarns.fine
        intro folder file text fault hmem
        rcases List.mem_append.1 hmem with hmem | hmem
        · cases hsetup _ hmem
        · exact hsaved folder file text fault hmem
    | failed hfolder hfailed => exact .failed hfolder (List.mem_append_right _ hfailed)
  · rw [List.filter_append, hchecks, List.nil_append]
    exact hprepares.checked
  · rw [List.countP_append, hsaves, Nat.zero_add]
    exact hprepares.dumped
  · rw [List.countP_append, hemissions, Nat.zero_add]
    exact hprepares.unemitted

/-- A job with an analysis that is used again was prepared in silence. -/
theorem of_reuse (hlog : job.log = []) : job.Prepares false [] where
  log := ⟨[], .fine fun _ _ _ _ => List.not_mem_nil, hlog⟩
  checked := rfl
  dumped := rfl
  unemitted := rfl

/-- A check reports what it finds, after the warning if its dump failed. -/
theorem of_check {findings : List Diagnostic} {dumped : List (Exchange α)} {warnings : Log}
    (hdump : DumpSaid job.task job.project.projectFile dumped warnings)
    (hlog : job.log = warnings ++ findings.map (Diagnostic.entry .frontEnd)) :
    job.Prepares true
      (.check job.project.options (.ok (.ok (findings, job.project.analysis.value))) ::
        dumped) := by
  cases hdump with
  | unasked hfolder =>
      exact {
        log := ⟨[], .fine (by simp), by simpa [Exchange.findings] using hlog⟩
        checked := ⟨findings, rfl⟩
        dumped := by rw [hfolder]; rfl
        unemitted := rfl }
  | saved hfolder =>
      exact {
        log := ⟨[], .fine (by simp), by simpa [Exchange.findings] using hlog⟩
        checked := ⟨findings, rfl⟩
        dumped := by rw [hfolder]; rfl
        unemitted := rfl }
  | failed hfolder =>
      exact {
        log := ⟨_, .failed hfolder
          (List.mem_cons_of_mem _ (List.mem_cons_of_mem _ List.mem_cons_self)),
          by simpa [Exchange.findings] using hlog⟩
        checked := ⟨findings, rfl⟩
        dumped := by rw [hfolder]; rfl
        unemitted := rfl }

end Job.Prepares

/-- The log of a job is what was reported while it was prepared. -/
theorem ResolvingSaid.prepares {host : Host σ α} {store : Store α} {task : CompileTask}
    {decision : Decision} {project : Project α} {said : List (Exchange α)} {logged : Log}
    (hsaid : ResolvingSaid host store task decision project said logged) :
    Job.Prepares ⟨project, task, logged⟩ decision.rebuilds said := by
  cases hsaid with
  | reused => exact .of_reuse rfl
  | @rebuilt seed made _ _ hmaking =>
      obtain ⟨setup, dumped, findings, warnings, hsetup, hdump, rfl, hlog⟩ := hmaking.split
      apply Job.Prepares.after_setup hsetup
      rw [← made.markCompiled_projectFile task.file] at hdump
      have hprepares : Job.Prepares ⟨made.markCompiled task.file, task, logged⟩ true _ :=
        .of_check hdump hlog
      rwa [made.markCompiled_options, made.markCompiled_analysis] at hprepares

theorem DumpWarns.severity {task : CompileTask} {project : Path} {said : List (Exchange α)}
    {warnings : Log} (hwarns : DumpWarns task project said warnings) :
    ∀ entry ∈ warnings, entry.severity = .warning := by
  cases hwarns with
  | fine => exact fun _ hentry => absurd hentry List.not_mem_nil
  | failed =>
      intro entry hentry
      rw [List.mem_singleton.1 hentry]
      rfl

/-- A job has errors if its check found some. -/
theorem Job.Prepares.hasErrors_iff {job : Job α} {rebuilt : Bool} {said : List (Exchange α)}
    (hprepares : job.Prepares rebuilt said) :
    job.log.hasErrors = true ↔
      ∃ found ∈ said.flatMap Exchange.findings, found.severity = .error := by
  obtain ⟨warnings, hwarns, hlog⟩ := hprepares.log
  have hnone : warnings.any (fun entry => entry.severity = .error) = false := by
    apply List.any_eq_false.2
    intro entry hentry
    simp [hwarns.severity entry hentry]
  rw [hlog, Log.hasErrors, List.any_append, hnone, Bool.false_or, List.any_map,
    List.any_eq_true]
  exact exists_congr fun found => and_congr_right fun _ => decide_eq_true_iff

/-- What an output says can be read off what was said. -/
theorem Job.Prepares.reports {job : Job α} {rebuilt : Bool}
    {preparing emitting : List (Exchange α)} {output : CompileOutput}
    (hprepares : job.Prepares rebuilt preparing) (hemitting : EmittingSaid job emitting output) :
    job.Reports rebuilt preparing emitting output := by
  obtain ⟨warnings, hwarns, hlog⟩ := hprepares.log
  have hskipped : job.isSkipped = true ↔ job.task.file ≈ job.project.projectFile ∧
      ∃ found ∈ preparing.flatMap Exchange.findings, found.severity = .error := by
    rw [← hprepares.hasErrors_iff, isSkipped, Bool.and_eq_true, decide_eq_true_eq]
  cases hemitting with
  | skipped hskip =>
      exact {
        diagnostics := ⟨warnings, hwarns, by simpa using hlog⟩
        checked := hprepares.checked
        dumped := hprepares.dumped
        unemitted := hprepares.unemitted
        skipped := ⟨fun _ => hskipped.1 hskip, fun _ => rfl⟩
        empty := fun _ => ⟨rfl, rfl⟩
        emitted := fun hsome => absurd rfl hsome }
  | emitted hneeded =>
      exact {
        diagnostics := ⟨warnings, hwarns, by simp [Exchange.added, hlog]⟩
        checked := hprepares.checked
        dumped := hprepares.dumped
        unemitted := hprepares.unemitted
        skipped := by
          rw [← hskipped, hneeded]
          constructor <;> intro habsurd <;> cases habsurd
        empty := fun hnone => by cases hnone
        emitted := fun _ => ⟨_, _, _, rfl, rfl⟩ }

end CompileServer
