import CompileServer.Proofs.Compile.Libraries
import CompileServer.Proofs.Compile.Preparation

/-!
# The conversation about a request

What is said about a request that becomes a job follows from how its project is found.  If the
project is made, the build tool is asked for what the seed does not have, the front-end for one
check, and a dump is written if the request asks for one; an analysis that is used again needs
no word.  The log of the job says what was reported on the way and nothing else.
-/

namespace CompileServer

variable {σ α : Type}

/-- What is said to get the options of a project. -/
inductive OptionsSaid (host : Host σ α) (task : CompileTask) (project : Path) (seed : Seed)
    (options : ProjectOptions) : List (Exchange α) → Prop where
  | kept (hseed : seed.options = some options) :
      OptionsSaid host task project seed options []
  | derived {derived : ProjectOptions} {world : σ} (hseed : seed.options = none)
      (hoptions : options =
        { derived with sourceFiles := derived.sourceFiles.map (host.normalize world) }) :
      OptionsSaid host task project seed options
        [.deriveOptions task.defines project (.ok (.ok derived))]

/-- What is said to get the runtime folder of a project. -/
inductive FolderSaid (project : Path) (seed : Seed) (folder : Path) :
    List (Exchange α) → Prop where
  | kept (hseed : seed.runtimeFolder = some folder) : FolderSaid project seed folder []
  | found (hseed : seed.runtimeFolder = none) :
      FolderSaid project seed folder [.findRuntime project (.ok (.ok (some folder)))]

/-- The warning that a dump could not be written. -/
def dumpWarning (project folder : Path) (fault : FileFault) : LogEntry :=
  ⟨(CompileError.dump folder fault).message, .warning, none, some project, .service⟩

/-- What is said about a dump, and the warnings for it. -/
inductive DumpSaid (task : CompileTask) (project : Path) :
    List (Exchange α) → Log → Prop where
  | unasked (hfolder : task.dumpFolder = none) : DumpSaid task project [] []
  | saved {folder file : Path} {text : String} {analysis : Analysis α} {shown : Json}
      (hfolder : task.dumpFolder = some folder) :
      DumpSaid task project
        [.describe analysis (.ok shown), .save folder file text (.ok ())] []
  | failed {folder file : Path} {text : String} {analysis : Analysis α} {shown : Json}
      {fault : FileFault} (hfolder : task.dumpFolder = some folder) :
      DumpSaid task project
        [.describe analysis (.ok shown), .save folder file text (.error fault)]
        [dumpWarning project folder fault]

/-- What is said when a project is made, and what is logged then. -/
inductive MakingSaid (host : Host σ α) (task : CompileTask) (seed : Seed) (made : Project α) :
    List (Exchange α) → Log → Prop where
  | course {derived found dumped : List (Exchange α)} {warnings : Log}
      (diagnostics : List Diagnostic)
      (hoptions : OptionsSaid host task made.projectFile seed made.options derived)
      (hfolder : FolderSaid made.projectFile seed made.runtimeFolder found)
      (hdump : DumpSaid task made.projectFile dumped warnings) :
      MakingSaid host task seed made
        (derived ++ found ++
          .check made.options (.ok (.ok (diagnostics, made.analysis.value))) :: dumped)
        (warnings ++ diagnostics.map (Diagnostic.entry .frontEnd))

/-- What is said until a request has its project, and what is logged then. -/
inductive ResolvingSaid (host : Host σ α) (store : Store α) (task : CompileTask) :
    Decision → Project α → List (Exchange α) → Log → Prop where
  | rebuilt {seed : Seed} {made : Project α} {said : List (Exchange α)} {logged : Log}
      (hmaking : MakingSaid host task seed made said logged) :
      ResolvingSaid host store task (.rebuild made.projectFile seed)
        (made.markCompiled task.file) said logged
  | reused {path : Path} {known : Project α} (hstored : store.get? path = some known) :
      ResolvingSaid host store task (.reuse path) (known.markCompiled task.file) [] []

namespace Work

variable {host : Host σ α} {task : CompileTask} {project : Path} {seed : Seed}
  {before after : Session (Overheard σ α) α}

theorem optionsSaid_of_ok {options : ProjectOptions}
    (hrun : seededOptions host.overheard task project seed before = (.ok options, after)) :
    ∃ said, OptionsSaid host task project seed options said ∧ Adds before after said [] := by
  cases hseed : seed.options with
  | some kept =>
      simp only [seededOptions, hseed] at hrun
      cases hrun
      exact ⟨[], .kept hseed, .refl before⟩
  | none =>
      simp only [seededOptions, hseed] at hrun
      obtain ⟨derived, middle, hderived, hrest⟩ := bind_eq_ok hrun
      have hadds := (attempt_note_eq_ok hderived).2
      cases hrest
      exact ⟨_, .derived hseed rfl, hadds⟩

theorem folderSaid_of_ok {folder : Path}
    (hrun : seededFolder host.overheard project seed before = (.ok folder, after)) :
    ∃ said, FolderSaid project seed folder said ∧ Adds before after said [] := by
  cases hseed : seed.runtimeFolder with
  | some kept =>
      simp only [seededFolder, hseed] at hrun
      cases hrun
      exact ⟨[], .kept hseed, .refl before⟩
  | none =>
      simp only [seededFolder, hseed] at hrun
      obtain ⟨found, middle, hfound, hrest⟩ := bind_eq_ok hrun
      have hadds := (attempt_note_eq_ok hfound).2
      cases found with
      | none => cases hrest
      | some found =>
          cases hrest
          exact ⟨_, .found hseed, hadds⟩

theorem checkSaid_of_ok {options : ProjectOptions} {checked : List Diagnostic × Analysis α}
    (hrun : check host.overheard project options before = (.ok checked, after)) :
    Adds before after [.check options (.ok (.ok (checked.1, checked.2.value)))] [] := by
  unfold check at hrun
  obtain ⟨found, middle, hfound, hrest⟩ := bind_eq_ok hrun
  have hadds := (attempt_note_eq_ok hfound).2
  cases hrest
  exact hadds

theorem dumpSaid_of_ok {options : ProjectOptions} {diagnostics : List Diagnostic}
    {analysis : Analysis α}
    (hrun : dumpIfAsked host.overheard task project options diagnostics analysis before =
      (.ok (), after)) :
    ∃ said warnings, DumpSaid task project said warnings ∧ Adds before after said warnings := by
  cases hfolder : task.dumpFolder with
  | none =>
      simp only [dumpIfAsked, hfolder] at hrun
      cases hrun
      exact ⟨[], [], .unasked hfolder, .refl before⟩
  | some folder =>
      simp only [dumpIfAsked, hfolder, dump] at hrun
      obtain ⟨shown, described, hshown, hrun⟩ := bind_eq_ok hrun
      obtain ⟨saved, middle, hsaved, hrun⟩ := bind_eq_ok hrun
      have hsaid := (call_note_eq_ok hshown).trans (save_overheard_eq_ok hsaved)
      cases saved with
      | ok written =>
          cases hrun
          exact ⟨_, _, .saved hfolder, hsaid⟩
      | error fault =>
          have hlogged : Adds middle after [] [dumpWarning project folder fault] := by
            cases hrun
            exact ⟨(List.append_nil _).symm, rfl⟩
          exact ⟨_, _, .failed hfolder, hsaid.trans hlogged⟩

theorem foldl_diagnostic (log : Log) (diagnostics : List Diagnostic) :
    diagnostics.foldl Log.diagnostic log = log ++ diagnostics.map (Diagnostic.entry .frontEnd) := by
  induction diagnostics generalizing log with
  | nil => exact (List.append_nil log).symm
  | cons first rest ih =>
      rw [List.foldl_cons, ih, List.map_cons, Log.diagnostic, Log.push, List.append_assoc,
        List.singleton_append]

/-- Making a project takes its course. -/
theorem makingSaid_of_ok {made : Project α}
    (hrun : createProject host.overheard task project seed before = (.ok made, after)) :
    made.projectFile = project ∧
      ∃ said logged, MakingSaid host task seed made said logged ∧
        Adds before after said logged := by
  rw [createProject_eq] at hrun
  obtain ⟨options, afterOptions, hoptions, hrun⟩ := bind_eq_ok hrun
  obtain ⟨folder, afterFolder, hfolder, hrun⟩ := bind_eq_ok hrun
  obtain ⟨checked, afterCheck, hchecked, hrun⟩ := bind_eq_ok hrun
  obtain ⟨_, afterDump, hdumped, hrun⟩ := bind_eq_ok hrun
  obtain ⟨derived, hderived, haddsOptions⟩ := optionsSaid_of_ok hoptions
  obtain ⟨found, hfound, haddsFolder⟩ := folderSaid_of_ok hfolder
  obtain ⟨dumped, warnings, hdump, haddsDump⟩ := dumpSaid_of_ok hdumped
  have hlogged : Adds afterDump after []
      (checked.1.map (Diagnostic.entry .frontEnd)) := by
    cases hrun
    exact ⟨(List.append_nil _).symm, foldl_diagnostic _ _⟩
  have hadds := (((haddsOptions.trans haddsFolder).trans (checkSaid_of_ok hchecked)).trans
    haddsDump).trans hlogged
  cases hrun
  refine ⟨rfl, _, _, .course checked.1 hderived hfound hdump, ?_⟩
  simpa [Project.fresh] using hadds

/-- A request gets its project in the course that the decision about its file takes. -/
theorem resolvingSaid_of_ok {kinds : SourceKinds} {project : Project α}
    (hrun : resolve host.overheard kinds task before = (.ok project, after)) :
    ∃ said logged,
      ResolvingSaid host before.store task (before.store.decide kinds task.file) project said
        logged ∧ Adds before after said logged := by
  cases hdecision : before.store.decide kinds task.file with
  | rebuild path seed =>
      rcases hcreate : createProject host.overheard task path seed before with
        ⟨fault | made, middle⟩
      · rw [resolve_of_fault hdecision hcreate] at hrun
        cases hrun
      · obtain ⟨rfl, said, logged, hmaking, hadds⟩ := makingSaid_of_ok hcreate
        rw [resolve_of_rebuild hdecision hcreate] at hrun
        cases hrun
        exact ⟨said, logged, .rebuilt hmaking, hadds⟩
  | reuse path =>
      unfold resolve at hrun
      simp only [bind_of_ok (get_apply before), hdecision] at hrun
      cases hstored : before.store.get? path with
      | none =>
          unfold markCompiled at hrun
          simp only [bind_of_ok (get_apply before), Store.markCompiled, hstored] at hrun
          cases hrun
      | some known =>
          rw [markCompiled_apply hstored] at hrun
          cases hrun
          exact ⟨[], [], .reused hstored, .refl before⟩
  | refuse error =>
      rw [resolve_of_refuse hdecision] at hrun
      cases hrun

/-- Only libraries are asked for until a request is received. -/
theorem receive_overheard (host : Host σ α) (payload : Json)
    (before : Session (Overheard σ α) α) :
    ∃ loads : List Load, (receive host.overheard payload before).2.world.exchanges =
      before.world.exchanges ++ loads.map Load.exchange := by
  unfold receive
  cases Json.decode CompileRequest.decoder payload with
  | error failure => exact ⟨[], (List.append_nil _).symm⟩
  | ok request =>
      simp only [bind_of_ok (get_apply before)]
      obtain ⟨_, loads, hfetches⟩ := fetch_loadPlugins host [] request.plugins before
      have hadds := hfetches.adds
      refine ⟨loads, ?_⟩
      rcases hload : loadPlugins host.overheard [] request.plugins before with
        ⟨fault | plugins, loaded⟩
      all_goals rw [hload] at hadds
      · rw [bind_of_error hload]
        exact hadds.1
      · rw [bind_of_ok hload]
        exact hadds.1

/-- A request becomes a job after some libraries were asked for, and its log is what was
logged from then on. -/
theorem preparingSaid_of_ok {kinds : SourceKinds} {payload : Json} {session : Session σ α}
    {job : Job α} (hrun : (prepare host kinds payload session).1 = .ok job) :
    ∃ (loads : List Load) (said : List (Exchange α)),
      ResolvingSaid host session.store job.task (session.store.decide kinds job.task.file)
        job.project said job.log ∧
      heard (prepare host.overheard kinds payload) session =
        loads.map Load.exchange ++ said := by
  rw [prepare_eq_overheard] at hrun
  rcases hprepare : prepare host.overheard kinds payload session.overhear with
    ⟨fault | prepared, last⟩
  all_goals
    rw [hprepare] at hrun
    cases hrun
  unfold heard
  rw [hprepare]
  rw [prepare_eq_receive] at hprepare
  obtain ⟨task, received, hreceive, hprepare⟩ := bind_eq_ok hprepare
  obtain ⟨project, resolved, hresolve, hprepare⟩ := bind_eq_ok hprepare
  cases hprepare
  obtain ⟨loads, hloads⟩ := receive_overheard host payload session.overhear
  obtain ⟨hstore, hlog, -⟩ := receive_eq_ok hreceive
  obtain ⟨said, logged, hsaid, hadds⟩ := resolvingSaid_of_ok hresolve
  rw [hreceive] at hloads
  rw [hstore] at hsaid
  have hlogged : last.log = logged := by rw [hadds.2, hlog, List.nil_append]
  have hheard : last.world.exchanges = loads.map Load.exchange ++ said := by
    rw [hadds.1, hloads]
    rfl
  exact ⟨loads, said, hlogged ▸ hsaid, hheard⟩

end Work

end CompileServer
