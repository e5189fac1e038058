import CompileServer.Proofs.Compile.Diagnostics
import CompileServer.Proofs.Compile.Sample

/-!
# Requests for a dump

A request that asks for a dump comes to the same as the request would without asking.  The two
runs are compared side by side: up to the check they are one and the same, then the one that
asks describes its analysis and saves the dump, which touches no books of the server and adds
at most a warning to the log.
-/

namespace CompileServer

variable {σ α β : Type}

/-- The second task is the first one without what that says about dumps. -/
structure CompileTask.SameButDump (asked plain : CompileTask) : Prop where
  file : asked.file = plain.file
  compilerOptions : asked.compilerOptions = plain.compilerOptions
  defines : asked.defines = plain.defines
  plugins : asked.plugins = plain.plugins
  extraOptions : ∀ name, name ≠ CompileTask.dumpOption →
    Json.Members.find? asked.extraOptions name = Json.Members.find? plain.extraOptions name
  silent : Json.Members.find? plain.extraOptions CompileTask.dumpOption = none

theorem CompileTask.SameButDump.dumpFolder {asked plain : CompileTask}
    (hsame : asked.SameButDump plain) : plain.dumpFolder = none := by
  unfold CompileTask.dumpFolder
  rw [hsame.silent]

namespace Exchange

/-- Whether the question is part of writing a dump. -/
def isDump : Exchange α → Bool
  | .describe _ _ => true
  | .save _ _ _ _ => true
  | _ => false

/-- Whether the host broke off when it was to describe an analysis. -/
def isUndescribed : Exchange α → Bool
  | .describe _ (.error _) => true
  | _ => false

end Exchange

theorem DumpSaid.isDump {task : CompileTask} {project : Path} {said : List (Exchange α)}
    {warnings : Log} (hsaid : DumpSaid task project said warnings) :
    ∀ exchange ∈ said, exchange.isDump = true := by
  cases hsaid <;> simp [Exchange.isDump]

theorem DumpSaid.warns {task : CompileTask} {project : Path} {said : List (Exchange α)}
    {warnings : Log} (hsaid : DumpSaid task project said warnings) :
    DumpWarns task project said warnings := by
  cases hsaid with
  | unasked => exact .fine fun _ _ _ _ => List.not_mem_nil
  | saved => exact .fine (by simp)
  | failed hfolder => exact .failed hfolder (List.mem_cons_of_mem _ List.mem_cons_self)

/-- A dump warns of the same after more talk of other things. -/
theorem DumpWarns.append_left {task : CompileTask} {project : Path}
    {said dumped : List (Exchange α)} {warnings : Log}
    (hwarns : DumpWarns task project dumped warnings)
    (hsaid : ∀ exchange ∈ said, exchange.isDump = false) :
    DumpWarns task project (said ++ dumped) warnings := by
  cases hwarns with
  | fine hsaved =>
      apply DumpWarns.fine
      intro folder file text fault hmem
      rcases List.mem_append.1 hmem with hmem | hmem
      · cases hsaid _ hmem
      · exact hsaved folder file text fault hmem
  | failed hfolder hfailed => exact .failed hfolder (List.mem_append_right _ hfailed)

theorem Exchange.filter_isDump {said dumped : List (Exchange α)}
    (hsaid : ∀ exchange ∈ said, exchange.isDump = false)
    (hdumped : ∀ exchange ∈ dumped, exchange.isDump = true) :
    (said ++ dumped).filter (fun exchange => !exchange.isDump) = said := by
  have hkept : said.filter (fun exchange => !exchange.isDump) = said :=
    List.filter_eq_self.2 fun exchange hmem => by rw [hsaid exchange hmem]; rfl
  have hgone : dumped.filter (fun exchange => !exchange.isDump) = [] :=
    List.filter_eq_nil_iff.2 fun exchange hmem => by rw [hdumped exchange hmem]; decide
  rw [List.filter_append, hkept, hgone, List.append_nil]

namespace Job

/-- Making a reply of the outcome takes no question. -/
theorem run_world {τ : Type} (host : Host τ α) (job : Job α) (world : τ) :
    (job.run host world).2 = (job.emit host world).2 := by
  unfold run
  rcases job.emit host world with ⟨_ | (_ | _), _⟩ <;> rfl

/-- The code generator hears nothing of a job that is skipped. -/
theorem heard_of_skipped (host : Host σ α) {job : Job α} (hskipped : job.isSkipped = true)
    (world : σ) : job.heard host world = [] := by
  rw [heard, run_world]
  unfold emit
  rw [hskipped, if_pos rfl]
  rfl

/-- The code generator first hears of the analysis, the task and the log of a job that is
not skipped. -/
theorem heard_of_needed (host : Host σ α) {job : Job α} (hneeded : job.isSkipped = false)
    (world : σ) :
    ∃ answer rest, job.heard host world =
      .transform job.project.analysis job.task job.log answer :: rest := by
  rw [heard, run_world]
  unfold emit
  simp only [hneeded, Bool.false_eq_true, if_false]
  obtain ⟨answer, after, hanswer⟩ : ∃ answer after,
      host.overheard.transform job.project.analysis job.task job.log ⟨world, []⟩ =
        (answer, after) := ⟨_, _, rfl⟩
  have hnoted : after.exchanges =
      [.transform job.project.analysis job.task job.log answer] := by
    cases hanswer
    rfl
  rcases answer with panic | (causes | ⟨intermediate, transformed⟩)
  · rw [Work.bind_of_error hanswer]
    exact ⟨_, _, hnoted⟩
  · rw [Work.bind_of_ok hanswer]
    exact ⟨_, _, hnoted⟩
  · rw [Work.bind_of_ok hanswer]
    dsimp only
    obtain ⟨reply, last, hreply⟩ : ∃ reply last,
        host.overheard.generate intermediate job.task (job.log ++ transformed) after =
          (reply, last) := ⟨_, _, rfl⟩
    have hadded : last.exchanges = after.exchanges ++
        [.generate intermediate job.task (job.log ++ transformed) reply] := by
      cases hreply
      rfl
    rw [hnoted] at hadded
    rcases reply with panic | (causes | ⟨program, generated⟩)
    · rw [Work.bind_of_error hreply]
      exact ⟨_, _, hadded⟩
    · rw [Work.bind_of_ok hreply]
      exact ⟨_, _, hadded⟩
    · rw [Work.bind_of_ok hreply]
      exact ⟨_, _, hadded⟩

/-- Of two jobs that are skipped in the same cases, the code generator hears of both or of
none. -/
theorem heard_together (host : Host σ α) {first second : Job α}
    (hskipped : first.isSkipped = second.isSkipped) (world other : σ) :
    first.heard host world = [] ∧ second.heard host other = [] ∨
      ∃ answer rest otherAnswer otherRest,
        first.heard host world =
          .transform first.project.analysis first.task first.log answer :: rest ∧
        second.heard host other =
          .transform second.project.analysis second.task second.log otherAnswer :: otherRest := by
  cases hsecond : second.isSkipped with
  | true =>
      have hfirst := hskipped.trans hsecond
      exact Or.inl ⟨heard_of_skipped host hfirst world, heard_of_skipped host hsecond other⟩
  | false =>
      obtain ⟨answer, rest, hheard⟩ := heard_of_needed host (hskipped.trans hsecond) world
      obtain ⟨otherAnswer, otherRest, hother⟩ := heard_of_needed host hsecond other
      exact Or.inr ⟨answer, rest, otherAnswer, otherRest, hheard, hother⟩

/-- Warnings do not keep a job from the code generator. -/
theorem isSkipped_of_warnings {asked plain : CompileTask} (hfile : asked.file = plain.file)
    {warnings : Log} (hwarnings : ∀ entry ∈ warnings, entry.severity = .warning)
    (made : Project α) (earlier later : Log) :
    (Job.mk made asked (earlier ++ warnings ++ later)).isSkipped =
      (Job.mk made plain (earlier ++ later)).isSkipped := by
  have hnone : warnings.any (fun entry => entry.severity = .error) = false := by
    apply List.any_eq_false.2
    intro entry hentry
    simp [hwarnings entry hentry]
  simp only [isSkipped, hfile, Log.hasErrors, List.any_append, hnone, Bool.or_false]

end Job

namespace Work

/-- The request with a dump comes to what the request without one comes to: the same outcome,
the same books, the same questions and answers apart from the dump, and the same log apart
from the warning for a dump that failed.  So the code generator is left alone in the same
cases, and is asked about the same analysis otherwise. -/
structure DumpUnseen (host : Host σ α) (kinds : SourceKinds) (asked plain : CompileTask)
    (session : Session σ α) : Prop where
  outcome : (resolve host kinds asked session).1 = (resolve host kinds plain session).1
  store : (resolve host kinds asked session).2.store = (resolve host kinds plain session).2.store
  plugins :
    (resolve host kinds asked session).2.plugins = (resolve host kinds plain session).2.plugins
  analyses :
    (resolve host kinds asked session).2.analyses = (resolve host kinds plain session).2.analyses
  said : (heard (resolve host.overheard kinds asked) session).filter (fun said => !said.isDump) =
    heard (resolve host.overheard kinds plain) session
  log : ∃ (project : Path) (warnings : Log) (findings : List Diagnostic),
    DumpWarns asked project (heard (resolve host.overheard kinds asked) session) warnings ∧
      (∀ made, (resolve host kinds plain session).1 = .ok made → made.projectFile = project) ∧
      (resolve host kinds asked session).2.log =
        session.log ++ warnings ++ findings.map (Diagnostic.entry .frontEnd) ∧
      (resolve host kinds plain session).2.log =
        session.log ++ findings.map (Diagnostic.entry .frontEnd)
  skipped : ∀ made, (resolve host kinds plain session).1 = .ok made →
    (Job.mk made asked (resolve host kinds asked session).2.log).isSkipped =
      (Job.mk made plain (resolve host kinds plain session).2.log).isSkipped
  emission : ∀ made, (resolve host kinds plain session).1 = .ok made → ∀ world other,
    let askedJob := Job.mk made asked (resolve host kinds asked session).2.log
    let plainJob := Job.mk made plain (resolve host kinds plain session).2.log
    askedJob.heard host world = [] ∧ plainJob.heard host other = [] ∨
      ∃ answer rest otherAnswer otherRest,
        askedJob.heard host world =
          .transform made.analysis asked askedJob.log answer :: rest ∧
        plainJob.heard host other =
          .transform made.analysis plain plainJob.log otherAnswer :: otherRest

/-! ## Up to the check -/

/-- Everything that a project is made of, up to its check. -/
def examine (host : Host σ α) (task : CompileTask) (project : Path) (seed : Seed) :
    Work σ α (ProjectOptions × Path × List Diagnostic × Analysis α) := do
  let options ← seededOptions host task project seed
  let folder ← seededFolder host project seed
  let checked ← check host project options
  return (options, folder, checked)

theorem createProject_eq_examine (host : Host σ α) (task : CompileTask) (project : Path)
    (seed : Seed) :
    createProject host task project seed =
      (do
        let found ← examine host task project seed
        dumpIfAsked host task project found.1 found.2.2.1 found.2.2.2
        writeLog fun log => found.2.2.1.foldl Log.diagnostic log
        return .fresh project found.1 found.2.1 found.2.2.2) := by
  rw [createProject_eq]
  simp only [examine, bind_assoc, pure_bind]

/-- Up to the check, only the defines of a task matter. -/
theorem examine_congr (host : Host σ α) {asked plain : CompileTask}
    (hdefines : asked.defines = plain.defines) (project : Path) (seed : Seed) :
    examine host asked project seed = examine host plain project seed := by
  unfold examine seededOptions deriveOptions
  rw [hdefines]

/-- Nothing was logged, and nothing was said about a dump. -/
def Quiet (before after : Session (Overheard σ α) α) : Prop :=
  ∃ said, (∀ exchange ∈ said, exchange.isDump = false) ∧ Adds before after said []

theorem Quiet.refl (session : Session (Overheard σ α) α) : Quiet session session :=
  ⟨[], fun _ hmem => absurd hmem List.not_mem_nil, .refl session⟩

theorem Quiet.trans {first middle last : Session (Overheard σ α) α} (hfirst : Quiet first middle)
    (hlast : Quiet middle last) : Quiet first last := by
  obtain ⟨said, hsaid, hadds⟩ := hfirst
  obtain ⟨more, hmore, haddsMore⟩ := hlast
  exact ⟨said ++ more, List.forall_mem_append.2 ⟨hsaid, hmore⟩, hadds.trans haddsMore⟩

theorem quiet_attempt {ε : Type} (refuse : ε → CompileError)
    {exchange : Except Panic (Except ε β) → Exchange α}
    (hexchange : ∀ answer, (exchange answer).isDump = false)
    (answer : CompileServer.Call σ (Except ε β)) :
    Keeps Quiet (attempt refuse (Overheard.note exchange answer) : Work _ α β) := by
  intro session
  refine ⟨_, ?_, (attempt_note refuse exchange answer session).2⟩
  intro said hsaid
  rw [List.mem_singleton.1 hsaid]
  exact hexchange _

theorem quiet_examine (host : Host σ α) (task : CompileTask) (project : Path) (seed : Seed) :
    Keeps Quiet (examine host.overheard task project seed) := by
  have hsilent : ∀ {γ : Type} (value : γ), Keeps Quiet (pure value : Work (Overheard σ α) α γ) :=
    fun _ => Quiet.refl
  have hoptions : Keeps Quiet (seededOptions host.overheard task project seed) := by
    unfold seededOptions
    cases seed.options with
    | some options => exact hsilent options
    | none => exact Keeps.bind Quiet.trans (quiet_attempt _ (fun _ => rfl) _) fun _ => Quiet.refl
  have hfolder : Keeps Quiet (seededFolder host.overheard project seed) := by
    unfold seededFolder
    cases seed.runtimeFolder with
    | some folder => exact hsilent folder
    | none =>
        refine Keeps.bind Quiet.trans (quiet_attempt _ (fun _ => rfl) _) fun found => ?_
        cases found <;> exact Quiet.refl
  have hcheck : ∀ options, Keeps Quiet (check host.overheard project options) := fun _ =>
    Keeps.bind Quiet.trans (quiet_attempt _ (fun _ => rfl) _) fun _ session =>
      ⟨[], fun _ hmem => absurd hmem List.not_mem_nil,
        (List.append_nil _).symm, (List.append_nil _).symm⟩
  refine Keeps.bind Quiet.trans hoptions fun options => ?_
  refine Keeps.bind Quiet.trans hfolder fun folder => ?_
  exact Keeps.bind Quiet.trans (hcheck options) fun checked => hsilent _

/-! ## The dump -/

/-- The books of the server are as before. -/
structure SameBooks (before after : Session σ α) : Prop where
  store : after.store = before.store
  plugins : after.plugins = before.plugins
  analyses : after.analyses = before.analyses

theorem respectsDump_sameBooks (host : Host σ α) : RespectsDump host SameBooks where
  refl _ := ⟨rfl, rfl, rfl⟩
  trans hab hbc := ⟨hbc.store.trans hab.store, hbc.plugins.trans hab.plugins,
    hbc.analyses.trans hab.analyses⟩
  describe _ _ := ⟨rfl, rfl, rfl⟩
  save _ _ _ _ := ⟨rfl, rfl, rfl⟩
  writeLog _ _ := ⟨rfl, rfl, rfl⟩

/-- Writing a dump breaks off only where the analysis is described. -/
theorem dumpIfAsked_broken {host : Host σ α} {task : CompileTask} {project : Path}
    {options : ProjectOptions} {diagnostics : List Diagnostic} {analysis : Analysis α}
    {before after : Session (Overheard σ α) α} {fault : Fault}
    (hrun : dumpIfAsked host.overheard task project options diagnostics analysis before =
      (.error fault, after)) :
    ∃ exchange ∈ after.world.exchanges, exchange.isUndescribed = true := by
  cases hfolder : task.dumpFolder with
  | none =>
      simp only [dumpIfAsked, hfolder] at hrun
      cases hrun
  | some folder =>
      simp only [dumpIfAsked, hfolder, dump] at hrun
      rcases hanswer : (host.describe analysis before.world.world).1 with panic | shown
      · have hcall : call (host.overheard.describe analysis) before =
            (.error (.panicked panic),
              { before with world := (host.overheard.describe analysis before.world).2 }) := by
          simp only [call, Host.overheard, Overheard.note, hanswer]
        rw [bind_of_error hcall] at hrun
        cases hrun
        refine ⟨_, List.mem_append_right _ List.mem_cons_self, ?_⟩
        rw [hanswer]
        rfl
      · have hcall : call (host.overheard.describe analysis) before =
            (.ok shown,
              { before with world := (host.overheard.describe analysis before.world).2 }) := by
          simp only [call, Host.overheard, Overheard.note, hanswer]
        rw [bind_of_ok hcall] at hrun
        obtain ⟨saved, middle, hsaved⟩ : ∃ saved middle,
            save host.overheard folder (AnalysisFile.path folder options.projectFile)
              (AnalysisFile.text options analysis.generation diagnostics shown)
              { before with world := (host.overheard.describe analysis before.world).2 } =
            (.ok saved, middle) := ⟨_, _, rfl⟩
        rw [bind_of_ok hsaved] at hrun
        cases saved <;> cases hrun

/-! ## Side by side -/

/-- Two runs from one session, of which the first differs only by a dump. -/
structure Alike (asked : CompileTask) (project : Path) (before : Session (Overheard σ α) α)
    (askedRun plainRun : Except Fault β × Session (Overheard σ α) α) : Prop where
  outcome : askedRun.1 = plainRun.1
  books : SameBooks plainRun.2 askedRun.2
  course : ∃ (said dumped : List (Exchange α)) (warnings : Log) (findings : List Diagnostic),
    (∀ exchange ∈ said, exchange.isDump = false) ∧
      (∀ exchange ∈ dumped, exchange.isDump = true) ∧
      DumpWarns asked project dumped warnings ∧
      Adds before askedRun.2 (said ++ dumped)
        (warnings ++ findings.map (Diagnostic.entry .frontEnd)) ∧
      Adds before plainRun.2 said (findings.map (Diagnostic.entry .frontEnd))

/-- A run that is quiet is like itself. -/
theorem Alike.of_quiet {asked : CompileTask} {project : Path}
    {before : Session (Overheard σ α) α} {run : Except Fault β × Session (Overheard σ α) α}
    (hquiet : Quiet before run.2) : Alike asked project before run run := by
  obtain ⟨said, hsaid, hadds⟩ := hquiet
  refine ⟨rfl, ⟨rfl, rfl, rfl⟩, said, [], [], [], hsaid, ?_, ?_, ?_, hadds⟩
  · exact fun _ hmem => absurd hmem List.not_mem_nil
  · exact .fine fun _ _ _ _ => List.not_mem_nil
  · rwa [List.append_nil]

section Runs

variable {host : Host σ α} {asked plain : CompileTask} {project : Path} {seed : Seed}
  {before : Session (Overheard σ α) α}

/-- Making a project with a dump is like making it without one. -/
theorem alike_createProject (hsame : asked.SameButDump plain)
    (hdescribed : ∀ exchange ∈
      (createProject host.overheard asked project seed before).2.world.exchanges,
        exchange.isUndescribed = false) :
    Alike asked project before (createProject host.overheard asked project seed before)
      (createProject host.overheard plain project seed before) := by
  have hquiet := quiet_examine host plain project seed before
  rw [createProject_eq_examine, examine_congr _ hsame.defines] at hdescribed ⊢
  rw [createProject_eq_examine]
  rcases hexamine : examine host.overheard plain project seed before with ⟨fault | found, middle⟩
  all_goals rw [hexamine] at hquiet
  · rw [bind_of_error hexamine, bind_of_error hexamine]
    exact .of_quiet hquiet
  · obtain ⟨options, folder, diagnostics, analysis⟩ := found
    obtain ⟨said, hsaid, hadds⟩ := hquiet
    rw [bind_of_ok hexamine] at hdescribed ⊢
    rw [bind_of_ok hexamine]
    have hplain : dumpIfAsked host.overheard plain project options diagnostics analysis middle =
        (.ok (), middle) := by
      unfold dumpIfAsked
      rw [hsame.dumpFolder]
      rfl
    have hbooks := (respectsDump_sameBooks host.overheard).dumpIfAsked asked project options
      diagnostics analysis middle
    rcases hdump : dumpIfAsked host.overheard asked project options diagnostics analysis middle
      with ⟨fault | _, dumped⟩
    · obtain ⟨exchange, hmem, hbroken⟩ := dumpIfAsked_broken hdump
      rw [bind_of_error hdump] at hdescribed
      rw [hdescribed exchange hmem] at hbroken
      cases hbroken
    · rw [hdump] at hbooks
      obtain ⟨shown, warnings, hshown, haddsDump⟩ := dumpSaid_of_ok hdump
      rw [bind_of_ok hdump, bind_of_ok hplain]
      have hwritten : ∀ session : Session (Overheard σ α) α,
          Adds session { session with log := diagnostics.foldl Log.diagnostic session.log } []
            (diagnostics.map (Diagnostic.entry .frontEnd)) := fun session =>
        ⟨(List.append_nil _).symm, foldl_diagnostic session.log diagnostics⟩
      refine ⟨rfl, ⟨hbooks.store, hbooks.plugins, hbooks.analyses⟩, said, shown, warnings,
        diagnostics, hsaid, hshown.isDump, hshown.warns, ?_, ?_⟩
      · have haddsAll := (hadds.trans haddsDump).trans (hwritten dumped)
        rw [List.append_nil, List.nil_append] at haddsAll
        exact haddsAll
      · have haddsAll := hadds.trans (hwritten middle)
        rw [List.append_nil, List.nil_append] at haddsAll
        exact haddsAll

/-- Without a project to make there is nothing to dump. -/
theorem alike_unmade {kinds : SourceKinds} (hfile : asked.file = plain.file)
    (hunmade : (before.store.decide kinds plain.file).rebuilds = false) :
    ∃ project,
      Alike asked project before (resolve host.overheard kinds asked before)
        (resolve host.overheard kinds plain before) ∧
      ∀ made, (resolve host.overheard kinds plain before).1 = .ok made →
        made.projectFile = project := by
  have hsame : resolve host.overheard kinds asked before =
      resolve host.overheard kinds plain before := by
    unfold resolve
    simp only [bind_of_ok (get_apply before), hfile]
    cases hdecision : before.store.decide kinds plain.file with
    | rebuild project seed => rw [hdecision] at hunmade; cases hunmade
    | reuse project => rfl
    | refuse error => rfl
  have hquiet : Quiet before (resolve host.overheard kinds plain before).2 := by
    obtain ⟨store, hafter⟩ := resolve_session host.overheard kinds plain before
    rw [hafter]
    cases hdecision : before.store.decide kinds plain.file with
    | rebuild project seed => rw [hdecision] at hunmade; cases hunmade
    | reuse project => exact Quiet.refl before
    | refuse error => exact Quiet.refl before
  rw [hsame]
  cases hrun : (resolve host.overheard kinds plain before).1 with
  | error fault => exact ⟨plain.file, .of_quiet hquiet, fun _ hmade => by cases hmade⟩
  | ok made => exact ⟨made.projectFile, .of_quiet hquiet, by rintro _ ⟨⟩; rfl⟩

/-- Resolving a request with a dump is like resolving it without one. -/
theorem alike_resolve {kinds : SourceKinds} (hsame : asked.SameButDump plain)
    (hdescribed : ∀ exchange ∈ (resolve host.overheard kinds asked before).2.world.exchanges,
      exchange.isUndescribed = false) :
    ∃ project,
      Alike asked project before (resolve host.overheard kinds asked before)
        (resolve host.overheard kinds plain before) ∧
      ∀ made, (resolve host.overheard kinds plain before).1 = .ok made →
        made.projectFile = project := by
  cases hdecision : before.store.decide kinds plain.file with
  | rebuild project seed =>
      have hdecided := hdecision
      rw [← hsame.file] at hdecided
      refine ⟨project, ?_⟩
      have hdescribes : ∀ exchange ∈
          (createProject host.overheard asked project seed before).2.world.exchanges,
            exchange.isUndescribed = false := by
        obtain ⟨store, hafter⟩ := resolve_session host.overheard kinds asked before
        rw [hafter, hdecided] at hdescribed
        exact hdescribed
      have halike := alike_createProject hsame hdescribes
      rcases hasked : createProject host.overheard asked project seed before with
        ⟨askedOutcome, askedAfter⟩
      rcases hplain : createProject host.overheard plain project seed before with
        ⟨plainOutcome, plainAfter⟩
      rw [hasked, hplain] at halike
      obtain rfl : askedOutcome = plainOutcome := halike.outcome
      cases askedOutcome with
      | error fault =>
          rw [resolve_of_fault hdecided hasked, resolve_of_fault hdecision hplain]
          exact ⟨⟨rfl, halike.books, halike.course⟩, fun _ hmade => by cases hmade⟩
      | ok made =>
          rw [resolve_of_rebuild hdecided hasked, resolve_of_rebuild hdecision hplain, hsame.file]
          refine ⟨⟨rfl, ⟨?_, halike.books.plugins, halike.books.analyses⟩, halike.course⟩, ?_⟩
          · have hstore : askedAfter.store = plainAfter.store := halike.books.store
            simp only [hstore]
          · rintro _ ⟨⟩
            rw [Project.markCompiled_projectFile]
            exact (createProject_eq_ok hplain).projectFile
  | reuse project => exact alike_unmade hsame.file (by rw [hdecision]; rfl)
  | refuse error => exact alike_unmade hsame.file (by rw [hdecision]; rfl)

end Runs

/-- Asking for a dump changes nothing but what is said about the dump, and the log by the warning
for one that failed. -/
theorem dumpUnseen_of_described (host : Host σ α) (kinds : SourceKinds)
    {asked plain : CompileTask} (hsame : asked.SameButDump plain) (session : Session σ α)
    (hdescribed : ∀ exchange ∈ heard (resolve host.overheard kinds asked) session,
      exchange.isUndescribed = false) :
    DumpUnseen host kinds asked plain session := by
  have hthrough : ∀ task, resolve host kinds task session =
      ((resolve host.overheard kinds task session.overhear).1,
        (resolve host.overheard kinds task session.overhear).2.unheard) := fun task =>
    through_resolve host.through_overheard kinds task session.overhear
  obtain ⟨project, halike, hproject⟩ := alike_resolve hsame hdescribed
  obtain ⟨said, dumped, warnings, findings, hsaid, hdumped, hwarns, hasked, hplain⟩ :=
    halike.course
  have haskedSaid : heard (resolve host.overheard kinds asked) session = said ++ dumped := hasked.1
  have hplainSaid : heard (resolve host.overheard kinds plain) session = said := hplain.1
  have haskedLog : (resolve host kinds asked session).2.log =
      session.log ++ warnings ++ findings.map (Diagnostic.entry .frontEnd) := by
    rw [hthrough, List.append_assoc]
    exact hasked.2
  have hplainLog : (resolve host kinds plain session).2.log =
      session.log ++ findings.map (Diagnostic.entry .frontEnd) := by
    rw [hthrough]
    exact hplain.2
  have hskipped : ∀ made : Project α,
      (Job.mk made asked (resolve host kinds asked session).2.log).isSkipped =
        (Job.mk made plain (resolve host kinds plain session).2.log).isSkipped := by
    intro made
    rw [haskedLog, hplainLog]
    exact Job.isSkipped_of_warnings hsame.file hwarns.severity made _ _
  refine ⟨?_, ?_, ?_, ?_, ?_, ?_, fun made _ => hskipped made, fun made _ world other =>
    Job.heard_together host (hskipped made) world other⟩
  · rw [hthrough, hthrough]
    exact halike.outcome
  · rw [hthrough, hthrough]
    exact halike.books.store
  · rw [hthrough, hthrough]
    exact halike.books.plugins
  · rw [hthrough, hthrough]
    exact halike.books.analyses
  · rw [haskedSaid, hplainSaid]
    exact Exchange.filter_isDump hsaid hdumped
  · refine ⟨project, warnings, findings, ?_, ?_, haskedLog, hplainLog⟩
    · rw [haskedSaid]
      exact hwarns.append_left hsaid
    · rw [hthrough]
      exact hproject

end Work

namespace Sample

/-- A check that finds something in every project. -/
def untidyCheck (options : ProjectOptions) :
    Except Panic (Except Causes (List Diagnostic × Nat)) :=
  .ok (.ok ([.warning "unused"], options.sourceFiles.length))

/-- The small host with untidy projects and a disk that takes nothing. -/
def lockedHost : Host Unit Nat :=
  { answers with check := untidyCheck }.host fun _ _ _ => pure (.error .accessDenied)

/-- A task for a manifest with some extra options. -/
def taskWith (extraOptions : Json.Members) : CompileTask :=
  ⟨manifest, [], extraOptions, [], []⟩

end Sample

/-- A dump that cannot be saved costs one warning, before what the check found. -/
theorem Work.dumpUnseen_lockedDisk :
    let asked := Sample.taskWith [(CompileTask.dumpOption, .str "/o"), ("strict", .bool true)]
    let plain := Sample.taskWith [("strict", .bool true)]
    let session : Session Unit Nat := .start ()
    (resolve Sample.lockedHost .standard asked session).2.log.map LogEntry.origin =
        [.service, .frontEnd] ∧
      (resolve Sample.lockedHost .standard plain session).2.log.map LogEntry.origin =
        [.frontEnd] ∧
      DumpUnseen Sample.lockedHost .standard asked plain session := by
  intro asked plain session
  have hsame : asked.SameButDump plain := {
    file := rfl
    compilerOptions := rfl
    defines := rfl
    plugins := rfl
    extraOptions := by
      intro name hother
      have hmiss : (name == CompileTask.dumpOption) = false := beq_false_of_ne hother
      simp only [asked, plain, Sample.taskWith, Json.Members.find?, List.lookup_cons, hmiss]
    silent := by decide }
  refine ⟨by decide +kernel, by decide +kernel, ?_⟩
  exact dumpUnseen_of_described _ _ hsame session (by decide +kernel)

end CompileServer
