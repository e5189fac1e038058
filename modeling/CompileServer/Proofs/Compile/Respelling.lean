import CompileServer.Proofs.Compile.Ledger
import CompileServer.Proofs.Compile.Sample
import CompileServer.Proofs.Project.Respelling

/-!
# Requests under other spellings

Two runs whose requests name the same files under different spellings stay in step if the
collaborators do not care about spelling either: every request is decided alike, raises the
same questions and comes to the same, and the stores agree up to spelling afterwards.  Each
step of the work on a request keeps the two runs in step, hence so does the whole.
-/

namespace CompileServer

variable {σ α β γ ε : Type}

/-! ## Runs in step -/

/-- Both ends are faults that agree, or both are values that agree. -/
inductive BothEnd (fails : ε → ε → Prop) (gives : β → β → Prop) :
    Except ε β → Except ε β → Prop where
  | error {fault other : ε} (hfault : fails fault other) :
      BothEnd fails gives (.error fault) (.error other)
  | ok {value other : β} (hvalue : gives value other) :
      BothEnd fails gives (.ok value) (.ok other)

/-- From states that agree, two computations come to results and states that agree. -/
def InStep (state : σ → σ → Prop) (result : β → β → Prop) (left right : StateM σ β) : Prop :=
  ∀ first second, state first second →
    result (left first).1 (right second).1 ∧ state (left first).2 (right second).2

namespace InStep

variable {state : σ → σ → Prop} {fails : ε → ε → Prop} {gives : β → β → Prop}
  {yields : γ → γ → Prop}

theorem pure {value other : β} (hvalue : gives value other) :
    InStep state (BothEnd fails gives) (pure value : ExceptT ε (StateM σ) β)
      (pure other : ExceptT ε (StateM σ) β) :=
  fun _ _ hstate => ⟨.ok hvalue, hstate⟩

/-- Steps that stay in step make up computations that do. -/
theorem bind {left right : ExceptT ε (StateM σ) β} {next otherNext : β → ExceptT ε (StateM σ) γ}
    (hfirst : InStep state (BothEnd fails gives) left right)
    (hnext : ∀ value other, gives value other →
      InStep state (BothEnd fails yields) (next value) (otherNext other)) :
    InStep state (BothEnd fails yields) (left >>= next : ExceptT ε (StateM σ) γ)
      (right >>= otherNext : ExceptT ε (StateM σ) γ) := by
  intro first second hstate
  obtain ⟨hresult, hafter⟩ := hfirst first second hstate
  rcases hleft : left first with ⟨outcome, middle⟩
  rcases hright : right second with ⟨otherOutcome, otherMiddle⟩
  rw [hleft, hright] at hresult hafter
  cases hresult with
  | error hfault =>
      rw [Work.bind_of_error hleft, Work.bind_of_error hright]
      exact ⟨.error hfault, hafter⟩
  | ok hvalue =>
      rw [Work.bind_of_ok hleft, Work.bind_of_ok hright]
      exact hnext _ _ hvalue middle otherMiddle hafter

end InStep

/-! ## What agrees up to spelling -/

/-- The diagnostics agree up to the spelling of their file. -/
structure Diagnostic.Respelled (left right : Diagnostic) : Prop where
  message : left.message = right.message
  severity : left.severity = right.severity
  range : left.range = right.range
  file : Option.Rel (fun path other : Path => path ≈ other) left.file right.file

/-- The entries agree up to the spelling of their file. -/
structure LogEntry.Respelled (left right : LogEntry) : Prop where
  message : left.message = right.message
  severity : left.severity = right.severity
  range : left.range = right.range
  file : Option.Rel (fun path other : Path => path ≈ other) left.file right.file
  origin : left.origin = right.origin

/-- The logs agree up to the spelling of files. -/
def Log.Respelled (left right : Log) : Prop :=
  List.Forall₂ LogEntry.Respelled left right

/-- The tasks agree up to the spelling of their file. -/
structure CompileTask.Respelled (left right : CompileTask) : Prop where
  file : left.file ≈ right.file
  compilerOptions : left.compilerOptions = right.compilerOptions
  extraOptions : left.extraOptions = right.extraOptions
  defines : left.defines = right.defines
  plugins : left.plugins = right.plugins

/-- The faults agree up to the spelling of paths. -/
inductive Fault.Respelled : Fault → Fault → Prop where
  | rejected {error other : CompileError} (herror : error.Respelled other) :
      Respelled (.rejected error) (.rejected other)
  | panicked (panic : Panic) : Respelled (.panicked panic) (.panicked panic)

/-- The books of the server agree up to the spelling of paths. -/
structure Session.BooksRespelled (left right : Session σ α) : Prop where
  store : left.store.Respelled right.store
  plugins : left.plugins = right.plugins
  analyses : left.analyses = right.analyses

/-- The sessions agree up to the spelling of paths. -/
structure Session.Respelled (same : σ → σ → Prop) (left right : Session σ α) : Prop
    extends left.BooksRespelled right where
  log : left.log.Respelled right.log
  world : same left.world right.world

theorem Log.Respelled.push {left right : Log} (hlog : left.Respelled right)
    {entry other : LogEntry} (hentry : entry.Respelled other) :
    (left.push entry).Respelled (right.push other) :=
  List.rel_append hlog (.cons hentry .nil)

theorem Log.Respelled.diagnostics {left right : Log} (hlog : left.Respelled right)
    {found others : List Diagnostic} (hfound : List.Forall₂ Diagnostic.Respelled found others) :
    Log.Respelled (found.foldl Log.diagnostic left) (others.foldl Log.diagnostic right) := by
  induction hfound generalizing left right with
  | nil => exact hlog
  | cons hhead _ ih =>
      exact ih (hlog.push ⟨hhead.message, hhead.severity, hhead.range, hhead.file, rfl⟩)

theorem Log.Respelled.hasErrors {left right : Log} (hlog : left.Respelled right) :
    left.hasErrors = right.hasErrors := by
  unfold Log.hasErrors
  induction hlog with
  | nil => rfl
  | cons hhead _ ih => rw [List.any_cons, List.any_cons, ih, hhead.severity]

/-- Jobs that agree up to spelling are skipped alike. -/
theorem Job.isSkipped_respelled {left right : Job α} (htask : left.task.Respelled right.task)
    (hproject : left.project.Respelled right.project) (hlog : left.log.Respelled right.log) :
    left.isSkipped = right.isSkipped := by
  unfold isSkipped
  rw [hlog.hasErrors]
  simp only [Path.equiv_iff, Path.equiv_iff.1 htask.file, Path.equiv_iff.1 hproject.projectFile]

/-- The answers of a host do not depend on how a path is spelled.  The relation says which
worlds count as the same. -/
structure Host.IgnoresSpelling (host : Host σ α) (same : σ → σ → Prop) : Prop where
  normalize : ∀ {world other}, same world other → ∀ {path otherPath}, path ≈ otherPath →
    host.normalize world path ≈ host.normalize other otherPath
  deriveOptions : ∀ defines {project other}, project ≈ other →
    InStep same (BothEnd Eq (BothEnd Eq ProjectOptions.Respelled))
      (host.deriveOptions defines project) (host.deriveOptions defines other)
  findRuntime : ∀ {project other}, project ≈ other →
    InStep same (BothEnd Eq (BothEnd Eq Eq)) (host.findRuntime project) (host.findRuntime other)
  check : ∀ {options others : ProjectOptions}, options.Respelled others →
    InStep same (BothEnd Eq (BothEnd Eq fun found other =>
        List.Forall₂ Diagnostic.Respelled found.1 other.1 ∧ found.2 = other.2))
      (host.check options) (host.check others)
  describe : ∀ analysis,
    InStep same (BothEnd Eq Eq) (host.describe analysis) (host.describe analysis)
  save : ∀ folder file generation shown {options others : ProjectOptions}
    {found otherFound : List Diagnostic}, options.Respelled others →
    List.Forall₂ Diagnostic.Respelled found otherFound →
    InStep same Eq (host.save folder file (AnalysisFile.text options generation found shown))
      (host.save folder file (AnalysisFile.text others generation otherFound shown))

/-! ## Work on a request -/

namespace Work

variable {same : σ → σ → Prop} {host : Host σ α}

/-- Two pieces of work stay in step. -/
abbrev Agrees (same : σ → σ → Prop) (gives : β → β → Prop) (left right : Work σ α β) : Prop :=
  InStep (Session.Respelled same) (BothEnd Fault.Respelled gives) left right

theorem agrees_reject {gives : β → β → Prop} {error other : CompileError}
    (herror : error.Respelled other) :
    Agrees same gives (reject error : Work σ α β) (reject other) :=
  fun _ _ hsession => ⟨.error (.rejected herror), hsession⟩

theorem agrees_call {gives : β → β → Prop} {left right : CompileServer.Call σ β}
    (hcall : InStep same (BothEnd Eq gives) left right) :
    Agrees same gives (call left : Work σ α β) (call right) := by
  intro first second hsession
  obtain ⟨hresult, hworld⟩ := hcall first.world second.world hsession.world
  rcases hleft : left first.world with ⟨outcome, world⟩
  rcases hright : right second.world with ⟨otherOutcome, otherWorld⟩
  rw [hleft, hright] at hresult hworld
  unfold call
  rw [hleft, hright]
  cases hresult with
  | error hpanic =>
      cases hpanic
      exact ⟨.error (.panicked _), { hsession with world := hworld }⟩
  | ok hvalue => exact ⟨.ok hvalue, { hsession with world := hworld }⟩

theorem agrees_attempt {gives : β → β → Prop} {refuse otherRefuse : ε → CompileError}
    (hrefuse : ∀ reason, (refuse reason).Respelled (otherRefuse reason))
    {left right : CompileServer.Call σ (Except ε β)}
    (hcall : InStep same (BothEnd Eq (BothEnd Eq gives)) left right) :
    Agrees same gives (attempt refuse left : Work σ α β) (attempt otherRefuse right) := by
  refine InStep.bind (agrees_call hcall) fun value other hvalue => ?_
  cases hvalue with
  | error hreason =>
      cases hreason
      exact agrees_reject (hrefuse _)
  | ok hvalue => exact InStep.pure hvalue

theorem agrees_writeLog {change otherChange : Log → Log}
    (hchange : ∀ {left right : Log}, left.Respelled right →
      (change left).Respelled (otherChange right)) :
    Agrees same Eq (writeLog change : Work σ α Unit) (writeLog otherChange) :=
  fun _ _ hsession => ⟨.ok rfl, { hsession with log := hchange hsession.log }⟩

section Making

variable {task otherTask : CompileTask} {project other : Path}

theorem agrees_seededOptions (hhost : host.IgnoresSpelling same)
    (htask : task.Respelled otherTask) (hproject : project ≈ other) {seed otherSeed : Seed}
    (hseed : seed.Respelled otherSeed) :
    Agrees same ProjectOptions.Respelled (seededOptions host task project seed : Work σ α _)
      (seededOptions host otherTask other otherSeed) := by
  have hoptions := hseed.options
  unfold seededOptions
  generalize seed.options = known, otherSeed.options = otherKnown at hoptions
  cases hoptions with
  | some hsame => exact InStep.pure hsame
  | none =>
      unfold Work.deriveOptions
      rw [htask.defines]
      refine InStep.bind (agrees_attempt (fun causes => .buildOptions hproject causes)
        (hhost.deriveOptions otherTask.defines hproject)) fun options others hsame => ?_
      intro first second hsession
      refine ⟨.ok { hsame with sourceFiles := ?_ }, hsession⟩
      change List.Forall₂ _ (options.sourceFiles.map (host.normalize first.world))
        (others.sourceFiles.map (host.normalize second.world))
      rw [List.forall₂_map_left_iff, List.forall₂_map_right_iff]
      exact hsame.sourceFiles.imp fun _ _ hpath => hhost.normalize hsession.world hpath

theorem agrees_seededFolder (hhost : host.IgnoresSpelling same) (hproject : project ≈ other)
    {seed otherSeed : Seed} (hseed : seed.Respelled otherSeed) :
    Agrees same Eq (seededFolder host project seed : Work σ α _)
      (seededFolder host other otherSeed) := by
  unfold seededFolder
  rw [hseed.runtimeFolder]
  cases otherSeed.runtimeFolder with
  | some folder => exact InStep.pure rfl
  | none =>
      refine InStep.bind (agrees_attempt (fun causes => .buildOptions hproject causes)
        (hhost.findRuntime hproject)) fun found _ hfound => ?_
      cases hfound
      cases found with
      | some folder => exact InStep.pure rfl
      | none => exact agrees_reject (.runtimeFolderNotFound hproject)

theorem agrees_check (hhost : host.IgnoresSpelling same) (hproject : project ≈ other)
    {options others : ProjectOptions} (hoptions : options.Respelled others) :
    Agrees same (fun found otherFound : List Diagnostic × Analysis α =>
        List.Forall₂ Diagnostic.Respelled found.1 otherFound.1 ∧ found.2 = otherFound.2)
      (check host project options) (check host other others) := by
  refine InStep.bind (agrees_attempt (fun causes => .frontEnd hproject causes)
    (hhost.check hoptions)) fun found otherFound hfound => ?_
  intro first second hsession
  refine ⟨.ok ⟨hfound.1, ?_⟩,
    { hsession with analyses := congrArg (· + 1) hsession.analyses }⟩
  exact congrArg₂ Analysis.mk (congrArg (· + 1) hsession.analyses) hfound.2

theorem agrees_dumpIfAsked (hhost : host.IgnoresSpelling same)
    (htask : task.Respelled otherTask) (hproject : project ≈ other)
    {options others : ProjectOptions} (hoptions : options.Respelled others)
    {found otherFound : List Diagnostic}
    (hfound : List.Forall₂ Diagnostic.Respelled found otherFound) (analysis : Analysis α) :
    Agrees same Eq (dumpIfAsked host task project options found analysis)
      (dumpIfAsked host otherTask other others otherFound analysis) := by
  have hfolder : task.dumpFolder = otherTask.dumpFolder := by
    simp only [CompileTask.dumpFolder, htask.extraOptions]
  unfold dumpIfAsked
  rw [hfolder]
  cases otherTask.dumpFolder with
  | none => exact InStep.pure rfl
  | some folder =>
      unfold dump
      refine InStep.bind (agrees_call (hhost.describe analysis)) fun shown _ hshown => ?_
      cases hshown
      have hsave : Agrees same Eq
          (save host folder (AnalysisFile.path folder options.projectFile)
            (AnalysisFile.text options analysis.generation found shown) : Work σ α _)
          (save host folder (AnalysisFile.path folder others.projectFile)
            (AnalysisFile.text others analysis.generation otherFound shown)) := by
        rw [AnalysisFile.path_congr folder hoptions.projectFile]
        intro first second hsession
        obtain ⟨hresult, hworld⟩ := hhost.save folder
          (AnalysisFile.path folder others.projectFile) analysis.generation shown hoptions hfound
          first.world second.world hsession.world
        exact ⟨.ok hresult, { hsession with world := hworld }⟩
      refine InStep.bind hsave fun saved _ hsaved => ?_
      cases hsaved
      cases saved with
      | ok written => exact InStep.pure rfl
      | error fault =>
          exact agrees_writeLog fun hlog => hlog.push ⟨rfl, rfl, rfl, .some hproject, rfl⟩

theorem agrees_createProject (hhost : host.IgnoresSpelling same)
    (htask : task.Respelled otherTask) (hproject : project ≈ other) {seed otherSeed : Seed}
    (hseed : seed.Respelled otherSeed) :
    Agrees same Project.Respelled (createProject host task project seed)
      (createProject host otherTask other otherSeed) := by
  rw [createProject_eq, createProject_eq]
  refine InStep.bind (agrees_seededOptions hhost htask hproject hseed)
    fun options others hoptions => ?_
  refine InStep.bind (agrees_seededFolder hhost hproject hseed) fun folder _ hfolder => ?_
  cases hfolder
  refine InStep.bind (agrees_check hhost hproject hoptions) fun found otherFound hfound => ?_
  obtain ⟨diagnostics, analysis⟩ := found
  obtain ⟨otherDiagnostics, otherAnalysis⟩ := otherFound
  obtain ⟨hdiagnostics, rfl⟩ := hfound
  refine InStep.bind (agrees_dumpIfAsked hhost htask hproject hoptions hdiagnostics analysis)
    fun _ _ _ => ?_
  refine InStep.bind (agrees_writeLog fun hlog => hlog.diagnostics hdiagnostics) fun _ _ _ => ?_
  exact InStep.pure (.fresh hproject hoptions folder analysis)

end Making

theorem agrees_markCompiled (same : σ → σ → Prop) {project other file otherFile : Path}
    (hproject : project ≈ other) (hfile : file ≈ otherFile) :
    Agrees same Project.Respelled (markCompiled project file : Work σ α _)
      (markCompiled other otherFile) := by
  intro first second hsession
  have hknown := hsession.store.get? hproject
  unfold markCompiled
  rw [bind_of_ok (get_apply first), bind_of_ok (get_apply second)]
  unfold Store.markCompiled
  generalize first.store.get? project = known, second.store.get? other = otherKnown at hknown
  cases hknown with
  | none => exact ⟨.error (.rejected (.vanished hproject)), hsession⟩
  | some hsame =>
      exact ⟨.ok (hsame.markCompiled hfile), { hsession with
        store := hsession.store.modify hproject fun hfound => hfound.markCompiled hfile }⟩

/-- Resolving requests that agree up to spelling stays in step. -/
theorem agrees_resolve (hhost : host.IgnoresSpelling same) (kinds : SourceKinds)
    {task otherTask : CompileTask} (htask : task.Respelled otherTask) :
    Agrees same Project.Respelled (resolve host kinds task) (resolve host kinds otherTask) := by
  intro first second hsession
  have hdecision := hsession.store.decide kinds htask.file
  unfold resolve
  rw [bind_of_ok (get_apply first), bind_of_ok (get_apply second)]
  generalize first.store.decide kinds task.file = decision,
    second.store.decide kinds otherTask.file = otherDecision at hdecision
  cases hdecision with
  | rebuild hproject hseed =>
      refine InStep.bind (agrees_createProject hhost htask hproject hseed)
        (fun made otherMade hmade => ?_) first second hsession
      have hstored : Agrees same Eq
          (modify fun session => { session with store := session.store.insert made })
          (modify fun session => { session with store := session.store.insert otherMade } :
            Work σ α PUnit) :=
        fun _ _ hbefore => ⟨.ok rfl, { hbefore with store := hbefore.store.insert hmade }⟩
      exact InStep.bind hstored fun _ _ _ => agrees_markCompiled same hproject htask.file
  | reuse hproject => exact agrees_markCompiled same hproject htask.file first second hsession
  | refuse herror => exact agrees_reject herror first second hsession

end Work

/-! ## Recorded questions -/

/-- The questions agree up to the spelling of paths. -/
inductive HostCall.Respelled : HostCall α → HostCall α → Prop where
  | deriveOptions (defines : List String) {project other : Path} (hproject : project ≈ other) :
      Respelled (.deriveOptions defines project) (.deriveOptions defines other)
  | findRuntime {project other : Path} (hproject : project ≈ other) :
      Respelled (.findRuntime project) (.findRuntime other)
  | check {options others : ProjectOptions} (hoptions : options.Respelled others) :
      Respelled (.check options) (.check others)
  | describe (analysis : Analysis α) : Respelled (.describe analysis) (.describe analysis)
  | save (folder file : Path) (generation : Nat) (shown : Json) {options others : ProjectOptions}
      {found otherFound : List Diagnostic} (hoptions : options.Respelled others)
      (hfound : List.Forall₂ Diagnostic.Respelled found otherFound) :
      Respelled (.save folder file (AnalysisFile.text options generation found shown))
        (.save folder file (AnalysisFile.text others generation otherFound shown))

/-- The worlds are the same, and the questions so far agree up to spelling. -/
structure Recorded.Respelled (same : σ → σ → Prop) (left right : Recorded σ α) : Prop where
  world : same left.world right.world
  calls : List.Forall₂ HostCall.Respelled left.calls right.calls

theorem Recorded.inStep_note {same : σ → σ → Prop} {result : β → β → Prop}
    {left right : StateM σ β} (hanswer : InStep same result left right)
    {call other : HostCall α} (hcall : call.Respelled other) :
    InStep (Recorded.Respelled same) result (note call left) (note other right) := by
  intro first second hstate
  obtain ⟨hresult, hworld⟩ := hanswer first.world second.world hstate.world
  exact ⟨hresult, hworld, List.rel_append hstate.calls (.cons hcall .nil)⟩

/-- Writing the questions down adds no care about spelling. -/
theorem Host.IgnoresSpelling.recorded {host : Host σ α} {same : σ → σ → Prop}
    (hhost : host.IgnoresSpelling same) :
    host.recorded.IgnoresSpelling (Recorded.Respelled same) where
  normalize hstate := hhost.normalize hstate.world
  deriveOptions defines _ _ hproject :=
    Recorded.inStep_note (hhost.deriveOptions defines hproject) (.deriveOptions defines hproject)
  findRuntime hproject := Recorded.inStep_note (hhost.findRuntime hproject) (.findRuntime hproject)
  check hoptions := Recorded.inStep_note (hhost.check hoptions) (.check hoptions)
  describe analysis := Recorded.inStep_note (hhost.describe analysis) (.describe analysis)
  save folder file generation shown _ _ _ _ hoptions hfound :=
    Recorded.inStep_note (hhost.save folder file generation shown hoptions hfound)
      (.save folder file generation shown hoptions hfound)

/-! ## Whole runs -/

/-- The requests agree up to the spelling of their file, in worlds that are the same. -/
structure Arrival.Respelled (same : σ → σ → Prop) (left right : Arrival σ) : Prop where
  task : left.task.Respelled right.task
  world : same left.world right.world

/-- The requests were handled alike up to spelling: their files are of one kind, the same was
decided, asked and logged, they came to the same with the same left to generate, and the
sessions agree before and after. -/
structure Handled.Respelled (kinds : SourceKinds) (same : σ → σ → Prop)
    (left right : Handled σ α) : Prop where
  task : left.task.Respelled right.task
  kind : kinds.classify left.task.file = kinds.classify right.task.file
  decision : (left.before.store.decide kinds left.task.file).Respelled
    (right.before.store.decide kinds right.task.file)
  outcome : BothEnd Fault.Respelled Project.Respelled left.outcome right.outcome
  skipped : ∀ project other, left.outcome = .ok project → right.outcome = .ok other →
    (Job.mk project left.task left.after.log).isSkipped =
      (Job.mk other right.task right.after.log).isSkipped
  before : left.before.Respelled (Recorded.Respelled same) right.before
  after : left.after.Respelled (Recorded.Respelled same) right.after

/-- The runs handled their requests alike up to spelling, and so far their books agree. -/
structure Ledger.Respelled (kinds : SourceKinds) (same : σ → σ → Prop)
    (left right : Ledger σ α) : Prop where
  past : List.Forall₂ (Handled.Respelled kinds same) left.past right.past
  books : left.session.BooksRespelled right.session

namespace Ledger

variable {host : Host σ α} {same : σ → σ → Prop}

/-- From books that agree, requests that agree are handled alike. -/
theorem respelled_next (hhost : host.IgnoresSpelling same) (kinds : SourceKinds)
    {left right : Ledger σ α} (hbooks : left.session.BooksRespelled right.session)
    {arrival other : Arrival σ} (harrival : arrival.Respelled same other) :
    (left.next host kinds arrival).Respelled kinds same (right.next host kinds other) := by
  have hbefore : (left.opened arrival).Respelled (Recorded.Respelled same)
      (right.opened other) :=
    { store := hbooks.store
      plugins := hbooks.plugins
      analyses := hbooks.analyses
      log := .nil
      world := ⟨harrival.world, .nil⟩ }
  obtain ⟨houtcome, hafter⟩ :=
    Work.agrees_resolve hhost.recorded kinds harrival.task _ _ hbefore
  exact {
    task := harrival.task
    kind := kinds.classify_congr harrival.task.file
    decision := hbooks.store.decide kinds harrival.task.file
    outcome := houtcome
    skipped := by
      intro project otherProject hleft hright
      change (Work.resolve _ _ _ _).1 = _ at hleft hright
      rw [hleft, hright] at houtcome
      cases houtcome with
      | ok hproject => exact Job.isSkipped_respelled harrival.task hproject hafter.log
    before := hbefore
    after := hafter }

theorem Respelled.serve {kinds : SourceKinds} {left right : Ledger σ α}
    (hledger : left.Respelled kinds same right) (hhost : host.IgnoresSpelling same)
    {arrival other : Arrival σ} (harrival : arrival.Respelled same other) :
    (left.serve host kinds arrival).Respelled kinds same (right.serve host kinds other) :=
  have hnext := respelled_next hhost kinds hledger.books harrival
  ⟨List.rel_append hledger.past (.cons hnext .nil), hnext.after.toBooksRespelled⟩

theorem Respelled.foldl {kinds : SourceKinds} {left right : Ledger σ α}
    (hledger : left.Respelled kinds same right) (hhost : host.IgnoresSpelling same)
    {arrivals others : List (Arrival σ)}
    (harrivals : List.Forall₂ (Arrival.Respelled same) arrivals others) :
    (arrivals.foldl (Ledger.serve host kinds) left).Respelled kinds same
      (others.foldl (Ledger.serve host kinds) right) := by
  induction harrivals generalizing left right with
  | nil => exact hledger
  | cons hhead _ ih => exact ih (hledger.serve hhost hhead)

/-- If the collaborators do not care about spelling, then requests that agree up to spelling are
handled alike from any books that agree, and whole runs of them stay in step. -/
theorem inStep_run (hhost : host.IgnoresSpelling same) (kinds : SourceKinds) :
    (∀ left right : Ledger σ α, left.session.BooksRespelled right.session →
      ∀ arrival other : Arrival σ, arrival.Respelled same other →
      (left.next host kinds arrival).Respelled kinds same (right.next host kinds other)) ∧
    ∀ world other arrivals others, List.Forall₂ (Arrival.Respelled same) arrivals others →
      (run host kinds world arrivals).Respelled kinds same (run host kinds other others) := by
  refine ⟨fun left right hbooks arrival other harrival =>
    respelled_next hhost kinds hbooks harrival, ?_⟩
  intro world other arrivals others harrivals
  have hstart : (start world : Ledger σ α).Respelled kinds same (start other) :=
    ⟨.nil, .empty, rfl, rfl⟩
  exact hstart.foldl hhost harrivals

end Ledger

namespace Sample

/-- The small host echoes spellings but does not mind them. -/
theorem ignoresSpelling : host.IgnoresSpelling Eq where
  normalize _ _ _ hpath := hpath
  deriveOptions _ _ _ hproject _ _ hworld :=
    ⟨.ok (.ok ⟨hproject, List.forall₂_same.2 fun _ _ => Setoid.refl _, rfl, rfl⟩), hworld⟩
  findRuntime _ _ _ hworld := ⟨.ok (.ok rfl), hworld⟩
  check hoptions _ _ hworld := ⟨.ok (.ok ⟨.nil, hoptions.sourceFiles.length_eq⟩), hworld⟩
  describe _ _ _ hworld := ⟨.ok rfl, hworld⟩
  save _ _ _ _ _ _ _ _ _ _ _ _ hworld := ⟨rfl, hworld⟩

/-- Requests for some files, one after the other. -/
def requestsFor (files : List Path) : List (Arrival Unit) :=
  files.map fun file => ⟨⟨file, [], [], [], []⟩, ()⟩

end Sample

/-- Slashes and dots that do not count change nothing: the file is taken for compiled when it
is asked for again, and for foreign before. -/
theorem Ledger.inStep_slashes :
    let plain := [Sample.firstFile, Sample.manifest, Sample.firstFile, Sample.firstFile]
    let odd := [⟨"/p/./A.fs"⟩, ⟨"/p//App.fsproj/"⟩, ⟨"//p/A.fs"⟩, ⟨"/p/A.fs/."⟩]
    plain ≠ odd ∧ (run Sample.host .standard () (Sample.requestsFor odd)).session.analyses = 2 ∧
      (run Sample.host .standard () (Sample.requestsFor plain)).Respelled .standard Eq
        (run Sample.host .standard () (Sample.requestsFor odd)) := by
  intro plain odd
  have hspelled : List.Forall₂ (fun path other : Path => path ≈ other) plain odd :=
    .cons (by decide +kernel) (.cons (by decide +kernel) (.cons (by decide +kernel)
      (.cons (by decide +kernel) .nil)))
  refine ⟨by decide +kernel, by decide +kernel,
    (inStep_run Sample.ignoresSpelling .standard).2 _ _ _ _ ?_⟩
  unfold Sample.requestsFor
  rw [List.forall₂_map_left_iff, List.forall₂_map_right_iff]
  exact hspelled.imp fun _ _ hfile => ⟨⟨hfile, rfl, rfl, rfl, rfl⟩, rfl⟩

end CompileServer
