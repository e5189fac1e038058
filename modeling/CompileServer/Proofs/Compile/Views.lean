import CompileServer.Proofs.Compile.Preparation

/-!
# Hosts behind a view

A host may give the answers of another one and know more than it, for instance what was
said so far.  A view of its world leaves out what it knows on top.  Work with such a host
comes to what the same work comes to with the plain one, step by step, so whatever its
knowledge shows is true of the plain work.
-/

namespace CompileServer

variable {τ σ α β γ ε : Type}

/-- Behind the view, a computation is the plain one. -/
def Through (view : τ → σ) (fine : StateM τ β) (plain : StateM σ β) : Prop :=
  ∀ state, plain (view state) = ((fine state).1, view (fine state).2)

/-- Behind the view, every answer of a host is that of the plain one. -/
structure Host.Through (view : τ → σ) (fine : Host τ α) (plain : Host σ α) : Prop where
  deriveOptions : ∀ defines project, CompileServer.Through view
    (fine.deriveOptions defines project) (plain.deriveOptions defines project)
  findRuntime : ∀ project,
    CompileServer.Through view (fine.findRuntime project) (plain.findRuntime project)
  check : ∀ options, CompileServer.Through view (fine.check options) (plain.check options)
  describe : ∀ analysis,
    CompileServer.Through view (fine.describe analysis) (plain.describe analysis)
  transform : ∀ analysis task log, CompileServer.Through view
    (fine.transform analysis task log) (plain.transform analysis task log)
  generate : ∀ program task log, CompileServer.Through view
    (fine.generate program task log) (plain.generate program task log)
  loadPlugins : ∀ library,
    CompileServer.Through view (fine.loadPlugins library) (plain.loadPlugins library)
  normalize : ∀ state, fine.normalize state = plain.normalize (view state)
  save : ∀ folder file text,
    CompileServer.Through view (fine.save folder file text) (plain.save folder file text)

/-- The session with the view of its world. -/
def Session.view (view : τ → σ) (session : Session τ α) : Session σ α :=
  ⟨session.store, session.plugins, session.analyses, session.log, view session.world⟩

namespace Through

theorem pure (view : τ → σ) (value : β) :
    Through view (pure value : ExceptT ε (StateM τ) β)
      (pure value : ExceptT ε (StateM σ) β) :=
  fun _ => rfl

/-- Steps that are plain behind the view make up a computation that is. -/
theorem bind {view : τ → σ} {fine : ExceptT ε (StateM τ) β} {plain : ExceptT ε (StateM σ) β}
    {next : β → ExceptT ε (StateM τ) γ} {plainNext : β → ExceptT ε (StateM σ) γ}
    (hfirst : Through view fine plain)
    (hnext : ∀ value, Through view (next value) (plainNext value)) :
    Through view (fine >>= next : ExceptT ε (StateM τ) γ)
      (plain >>= plainNext : ExceptT ε (StateM σ) γ) := by
  intro state
  have hplain := hfirst state
  cases hrun : fine state with
  | mk outcome middle =>
      rw [hrun] at hplain
      cases outcome with
      | ok value =>
          rw [Work.bind_of_ok hrun, Work.bind_of_ok hplain]
          exact hnext value middle
      | error fault => rw [Work.bind_of_error hrun, Work.bind_of_error hplain]

end Through

namespace Work

variable {view : τ → σ} {fine : Host τ α} {plain : Host σ α}

theorem through_call {call : CompileServer.Call τ β} {plainCall : CompileServer.Call σ β}
    (hcall : Through view call plainCall) :
    Through (Session.view view) (Work.call call : Work τ α β) (Work.call plainCall) := by
  intro session
  have hanswer : plainCall (session.view view).world = _ := hcall session.world
  simp only [Work.call, hanswer]
  rcases call session.world with ⟨_ | _, _⟩ <;> rfl

theorem through_attempt (refuse : ε → CompileError)
    {call : CompileServer.Call τ (Except ε β)} {plainCall : CompileServer.Call σ (Except ε β)}
    (hcall : Through view call plainCall) :
    Through (Session.view view) (attempt refuse call : Work τ α β)
      (attempt refuse plainCall) := by
  intro session
  have hanswer : plainCall (session.view view).world = _ := hcall session.world
  rw [attempt_apply, attempt_apply, hanswer]
  rfl

theorem through_libraryPlugins (hhost : fine.Through view plain) (library : Path) :
    Through (Session.view view) (libraryPlugins fine library)
      (libraryPlugins plain library) := by
  intro session
  unfold libraryPlugins
  rw [bind_of_ok (get_apply session), bind_of_ok (get_apply (session.view view))]
  have hplugins : (session.view view).plugins = session.plugins := rfl
  rw [hplugins]
  cases session.plugins.find? library with
  | some plugins => rfl
  | none =>
      apply Through.bind (through_attempt .pluginLoad (hhost.loadPlugins library))
      exact fun _ _ => rfl

theorem through_loadPlugins (hhost : fine.Through view plain) (seen paths : List Path) :
    Through (Session.view view) (loadPlugins fine seen paths)
      (loadPlugins plain seen paths) := by
  induction paths generalizing seen with
  | nil => exact Through.pure _ _
  | cons path rest ih =>
      intro session
      rw [loadPlugins, loadPlugins, bind_of_ok (get_apply session),
        bind_of_ok (get_apply (session.view view)), hhost.normalize]
      change (ite ((plain.normalize (view session.world) path).isIn seen = true) _ _ :
        Work σ α (List Plugin)) (session.view view) = _
      by_cases hseen : (plain.normalize (view session.world) path).isIn seen = true
      · rw [if_pos hseen, if_pos hseen]
        exact ih seen session
      · rw [if_neg hseen, if_neg hseen]
        apply Through.bind (through_libraryPlugins hhost _)
        intro plugins
        apply Through.bind (ih _)
        exact fun _ => Through.pure _ _

theorem through_seededOptions (hhost : fine.Through view plain) (task : CompileTask)
    (project : Path) (seed : Seed) :
    Through (Session.view view) (seededOptions fine task project seed)
      (seededOptions plain task project seed) := by
  unfold seededOptions
  cases seed.options with
  | some options => exact Through.pure _ _
  | none =>
      apply Through.bind (through_attempt _ (hhost.deriveOptions task.defines project))
      intro options session
      change (Except.ok { options with
          sourceFiles := options.sourceFiles.map (plain.normalize (view session.world)) },
        session.view view) = _
      rw [← hhost.normalize]
      rfl

theorem through_seededFolder (hhost : fine.Through view plain) (project : Path)
    (seed : Seed) :
    Through (Session.view view) (seededFolder fine project seed)
      (seededFolder plain project seed) := by
  unfold seededFolder
  cases seed.runtimeFolder with
  | some folder => exact Through.pure _ _
  | none =>
      apply Through.bind (through_attempt _ (hhost.findRuntime project))
      intro found
      cases found <;> exact fun _ => rfl

theorem through_check (hhost : fine.Through view plain) (project : Path)
    (options : ProjectOptions) :
    Through (Session.view view) (check fine project options)
      (check plain project options) := by
  apply Through.bind (through_attempt _ (hhost.check options))
  exact fun _ _ => rfl

theorem through_save (hhost : fine.Through view plain) (folder file : Path)
    (text : String) :
    Through (Session.view view) (save fine folder file text : Work τ α _)
      (save plain folder file text) := by
  intro session
  have hanswer : plain.save folder file text (session.view view).world = _ :=
    hhost.save folder file text session.world
  simp only [save, hanswer]
  rfl

theorem through_dumpIfAsked (hhost : fine.Through view plain) (task : CompileTask)
    (project : Path) (options : ProjectOptions) (diagnostics : List Diagnostic)
    (analysis : Analysis α) :
    Through (Session.view view)
      (dumpIfAsked fine task project options diagnostics analysis)
      (dumpIfAsked plain task project options diagnostics analysis) := by
  unfold dumpIfAsked
  cases task.dumpFolder with
  | none => exact Through.pure _ _
  | some folder =>
      apply Through.bind (through_call (hhost.describe analysis))
      intro shown
      apply Through.bind (through_save hhost _ _ _)
      intro saved
      cases saved <;> exact fun _ => rfl

theorem through_createProject (hhost : fine.Through view plain) (task : CompileTask)
    (project : Path) (seed : Seed) :
    Through (Session.view view) (createProject fine task project seed)
      (createProject plain task project seed) := by
  rw [createProject_eq, createProject_eq]
  apply Through.bind (through_seededOptions hhost task project seed)
  intro options
  apply Through.bind (through_seededFolder hhost project seed)
  intro folder
  apply Through.bind (through_check hhost project options)
  intro checked
  apply Through.bind (through_dumpIfAsked hhost task project _ _ _)
  exact fun _ _ => rfl

theorem through_markCompiled (view : τ → σ) (project file : Path) :
    Through (Session.view view) (markCompiled project file : Work τ α (Project α))
      (markCompiled project file) := by
  intro session
  unfold markCompiled
  rw [bind_of_ok (get_apply session), bind_of_ok (get_apply (session.view view))]
  have hstore : (session.view view).store = session.store := rfl
  rw [hstore]
  cases session.store.markCompiled project file <;> rfl

/-- Resolving a request behind the view is resolving it. -/
theorem through_resolve (hhost : fine.Through view plain) (kinds : SourceKinds)
    (task : CompileTask) :
    Through (Session.view view) (resolve fine kinds task) (resolve plain kinds task) := by
  intro session
  unfold resolve
  rw [bind_of_ok (get_apply session), bind_of_ok (get_apply (session.view view))]
  have hstore : (session.view view).store = session.store := rfl
  rw [hstore]
  cases session.store.decide kinds task.file with
  | rebuild project seed =>
      refine Through.bind (through_createProject hhost task project seed) ?_ session
      intro made
      apply Through.bind (fun _ => rfl)
      exact fun _ => through_markCompiled view project task.file
  | reuse project => exact through_markCompiled view project task.file session
  | refuse error => rfl

/-- Receiving a request behind the view is receiving it. -/
theorem through_receive (hhost : fine.Through view plain) (payload : Json) :
    Through (Session.view view) (receive fine payload) (receive plain payload) := by
  unfold receive
  cases Json.decode CompileRequest.decoder payload with
  | error failure => exact fun _ => rfl
  | ok request =>
      intro session
      simp only [bind_of_ok (get_apply session), bind_of_ok (get_apply (session.view view)),
        hhost.normalize]
      refine Through.bind (through_loadPlugins hhost [] request.plugins) ?_ session
      exact fun _ _ => rfl

/-- Preparing a request behind the view is preparing it. -/
theorem through_prepare (hhost : fine.Through view plain) (kinds : SourceKinds)
    (payload : Json) :
    Through (Session.view view) (prepare fine kinds payload) (prepare plain kinds payload) := by
  rw [prepare_eq_receive, prepare_eq_receive]
  apply Through.bind (through_receive hhost payload)
  intro task
  apply Through.bind (through_resolve hhost kinds task)
  exact fun _ _ => rfl

end Work

namespace Job

variable {view : τ → σ} {fine : Host τ α} {plain : Host σ α}

theorem through_emit (hhost : fine.Through view plain) (job : Job α) :
    Through view (job.emit fine) (job.emit plain) := by
  unfold emit
  cases job.isSkipped with
  | true => exact Through.pure _ _
  | false =>
      simp only [Bool.false_eq_true, if_false]
      apply Through.bind (hhost.transform _ _ _)
      intro transformed
      cases transformed with
      | error causes => exact Through.pure _ _
      | ok transformed =>
          apply Through.bind (hhost.generate _ _ _)
          intro generated
          cases generated <;> exact Through.pure _ _

/-- Doing a job behind the view is doing it. -/
theorem through_run (hhost : fine.Through view plain) (job : Job α) :
    Through view (job.run fine) (job.run plain) := by
  intro state
  unfold run
  rw [through_emit hhost job state]
  rcases job.emit fine state with ⟨_ | (_ | _), _⟩ <;> rfl

end Job

end CompileServer
