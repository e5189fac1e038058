import CompileServer.Proofs.Compile.Views

/-!
# Recorded calls

A recorded host answers like the host it stands for and writes down every question
with everything it said.  Work on it comes to the same outcome, so what is written
down is what the server asks.
-/

namespace CompileServer

/-- A question of the server. -/
inductive HostCall (α : Type) where
  | deriveOptions (defines : List String) (project : Path)
  | findRuntime (project : Path)
  | check (options : ProjectOptions)
  | describe (analysis : Analysis α)
  | transform (analysis : Analysis α) (task : CompileTask) (log : Log)
  | generate (program : IntermediateProgram) (task : CompileTask) (log : Log)
  | loadPlugins (library : Path)
  | save (folder file : Path) (text : String)

/-- The options that were checked, if the call was one to check a project. -/
def HostCall.checked? {α : Type} : HostCall α → Option ProjectOptions
  | .check options => some options
  | _ => none

/-- A world with the calls made in it, oldest first. -/
structure Recorded (σ α : Type) where
  world : σ
  calls : List (HostCall α)

namespace Recorded

variable {σ α β : Type}

/-- Writes a call down and passes it on. -/
def note (call : HostCall α) (answer : σ → β × σ) (recorded : Recorded σ α) :
    β × Recorded σ α :=
  ((answer recorded.world).1, ⟨(answer recorded.world).2, recorded.calls ++ [call]⟩)

/-- The options that were checked, oldest first. -/
def checks (recorded : Recorded σ α) : List ProjectOptions :=
  recorded.calls.filterMap HostCall.checked?

@[simp]
theorem checks_note (call : HostCall α) (answer : σ → β × σ) (recorded : Recorded σ α) :
    (note call answer recorded).2.checks = recorded.checks ++ call.checked?.toList := by
  simp only [checks, note, List.filterMap_append, List.filterMap_cons, List.filterMap_nil]
  cases call.checked? <;> rfl

end Recorded

/-- The host that writes every call down. -/
def Host.recorded {σ α : Type} (host : Host σ α) : Host (Recorded σ α) α where
  deriveOptions defines project :=
    Recorded.note (.deriveOptions defines project) (host.deriveOptions defines project)
  findRuntime project := Recorded.note (.findRuntime project) (host.findRuntime project)
  check options := Recorded.note (.check options) (host.check options)
  describe analysis := Recorded.note (.describe analysis) (host.describe analysis)
  transform analysis task log :=
    Recorded.note (.transform analysis task log) (host.transform analysis task log)
  generate program task log :=
    Recorded.note (.generate program task log) (host.generate program task log)
  loadPlugins library := Recorded.note (.loadPlugins library) (host.loadPlugins library)
  normalize recorded := host.normalize recorded.world
  save folder file text := Recorded.note (.save folder file text) (host.save folder file text)

variable {σ α β : Type}

/-- Without the record, the answers are those of the host. -/
theorem Host.through_recorded (host : Host σ α) :
    host.recorded.Through Recorded.world host where
  deriveOptions _ _ _ := rfl
  findRuntime _ _ := rfl
  check _ _ := rfl
  describe _ _ := rfl
  transform _ _ _ _ := rfl
  generate _ _ _ _ := rfl
  loadPlugins _ _ := rfl
  normalize _ := rfl
  save _ _ _ _ := rfl

/-- The session without the record. -/
def Session.forget (session : Session (Recorded σ α) α) : Session σ α :=
  ⟨session.store, session.plugins, session.analyses, session.log, session.world.world⟩

@[simp]
theorem Session.forget_store (session : Session (Recorded σ α) α) :
    session.forget.store = session.store := rfl

namespace Work

/-- Work with a record comes to what the same work comes to without one. -/
def Mirrors (recorded : Work (Recorded σ α) α β) (plain : Work σ α β) : Prop :=
  ∀ session, plain session.forget = ((recorded session).1, (recorded session).2.forget)

variable (host : Host σ α) (task : CompileTask) (project : Path)

/-- Recording changes nothing about how a request is resolved. -/
theorem mirrors_resolve (kinds : SourceKinds) :
    Mirrors (resolve host.recorded kinds task) (resolve host kinds task) :=
  through_resolve host.through_recorded kinds task

/-! ## Checks -/

theorem checks_check (options : ProjectOptions) (session : Session (Recorded σ α) α) :
    (check host.recorded project options session).2.world.checks =
      session.world.checks ++ [options] ∧
    (check host.recorded project options session).2.analyses ≤ session.analyses + 1 := by
  have hnoted := Recorded.checks_note (.check options) (host.check options) session.world
  have hattempt := attempt_apply (.frontEnd project) (host.recorded.check options) session
  unfold check
  cases hverdict : verdict (.frontEnd project) (host.recorded.check options session.world).1 with
  | ok found =>
      rw [hverdict] at hattempt
      rw [bind_of_ok hattempt]
      exact ⟨hnoted, Nat.le_refl _⟩
  | error fault =>
      rw [hverdict] at hattempt
      rw [bind_of_error hattempt]
      exact ⟨hnoted, Nat.le_succ _⟩

theorem respectsDump_checks :
    RespectsDump host.recorded fun before after : Session (Recorded σ α) α =>
      after.world.checks = before.world.checks where
  refl _ := rfl
  trans hab hbc := hbc.trans hab
  describe analysis session := by
    exact (Recorded.checks_note (.describe analysis) _ _).trans (List.append_nil _)
  save folder file text session := by
    exact (Recorded.checks_note (.save folder file text) _ _).trans (List.append_nil _)
  writeLog _ _ := rfl

/-- A project that is made again with the options it had is checked once, whatever comes
of it. -/
theorem checks_createProject_watch (owner : Project α)
    (session : Session (Recorded σ α) α) :
    (createProject host.recorded task project (.watch owner) session).2.world.checks =
      session.world.checks ++ [owner.options] := by
  have hchecks := (checks_check host project owner.options session).1
  rw [createProject_eq]
  change ((check host.recorded project owner.options >>= _) session).2.world.checks = _
  cases hcheck : check host.recorded project owner.options session with
  | mk outcome middle =>
      rw [hcheck] at hchecks
      cases outcome with
      | error fault =>
          rw [bind_of_error hcheck]
          exact hchecks
      | ok checked =>
          rw [bind_of_ok hcheck, ← hchecks]
          have hdumped :
              Keeps (fun before after : Session (Recorded σ α) α =>
                  after.world.checks = before.world.checks)
                (dumpIfAsked host.recorded task project owner.options checked.1 checked.2) :=
            (respectsDump_checks host).dumpIfAsked task project _ _ _
          exact Keeps.bind (fun hab hbc => hbc.trans hab) hdumped (fun _ _ => rfl) middle

/-- There are at most as many new analyses as there are new checks. -/
def CountsChecks (before after : Session (Recorded σ α) α) : Prop :=
  after.analyses + before.world.checks.length ≤ before.analyses + after.world.checks.length

theorem countsChecks_note {β : Type} {call : HostCall α} (hother : call.checked? = none)
    (answer : σ → β × σ) (session : Session (Recorded σ α) α) :
    CountsChecks session
      { session with world := (Recorded.note call answer session.world).2 } := by
  have hchecks : (Recorded.note call answer session.world).2.checks =
      session.world.checks := by
    rw [Recorded.checks_note, hother, Option.toList_none, List.append_nil]
  simp only [CountsChecks, hchecks, Nat.le_refl]

theorem respects_countsChecks (seed : Seed) :
    Respects host.recorded task project seed CountsChecks where
  refl _ := Nat.le_refl _
  trans hab hbc := by
    unfold CountsChecks at hab hbc ⊢
    omega
  deriveOptions _ := countsChecks_note rfl _
  findRuntime _ := countsChecks_note rfl _
  check options session := by
    obtain ⟨hchecks, hanalyses⟩ := checks_check host project options session
    unfold CountsChecks
    rw [hchecks, List.length_append, List.length_singleton]
    omega
  describe _ := countsChecks_note rfl _
  save _ _ _ := countsChecks_note rfl _
  writeLog _ _ := Nat.le_refl _

/-- Without a check there is no new analysis. -/
theorem countsChecks_resolve (kinds : SourceKinds) (session : Session (Recorded σ α) α) :
    CountsChecks session (resolve host.recorded kinds task session).2 := by
  obtain ⟨store, hafter⟩ := resolve_session host.recorded kinds task session
  rw [hafter]
  cases session.store.decide kinds task.file with
  | rebuild project seed =>
      exact (respects_countsChecks host task project seed).createProject session
  | reuse project => exact Nat.le_refl _
  | refuse error => exact Nat.le_refl _

end Work

end CompileServer
