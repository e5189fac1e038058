import CompileServer.Proofs.Compile.Answers

/-!
# Loading plugins from a faithful cache

A cache is faithful if it gives what the loader gives.  With fixed answers and a loader
that counts paths by their components, loading keeps the cache faithful, so the plugins
of a request depend on the request alone, and so does its task.
-/

namespace CompileServer

namespace PluginCache

theorem find?_add (cache : PluginCache) (library other : Path) (plugins : List Plugin) :
    (cache.add library plugins).find? other =
      (cache.find? other).or (if other ≈ library then some plugins else none) := by
  simp only [find?, add, List.find?_append, List.find?_cons, List.find?_nil]
  cases cache.entries.find? fun entry => decide (other ≈ entry.1) with
  | some entry => rfl
  | none =>
      by_cases hsame : other ≈ library
      · rw [decide_eq_true hsame, if_pos hsame]
        rfl
      · rw [decide_eq_false hsame, if_neg hsame]
        rfl

end PluginCache

namespace Answers

variable {α δ : Type}

/-- What the cache gives, the loader gives. -/
def Faithful (answers : Answers α) (cache : PluginCache) : Prop :=
  ∀ library plugins, cache.find? library = some plugins →
    answers.loadPlugins library = .ok (.ok plugins)

/-- The plugins of some libraries apart from those seen, if all of them can be loaded. -/
def plugins? (answers : Answers α) : List Path → List Path → Option (List Plugin)
  | _, [] => some []
  | seen, path :: rest =>
    let library := answers.normalize path
    if library.isIn seen then plugins? answers seen rest
    else
      match answers.loadPlugins library with
      | .ok (.ok plugins) => (plugins? answers (library :: seen) rest).map (plugins ++ ·)
      | _ => none

/-- The task of a request, if it can be decoded and its plugins can be loaded. -/
def task? (answers : Answers α) (payload : Json) : Option CompileTask :=
  match Json.decode CompileRequest.decoder payload with
  | .error _ => none
  | .ok request =>
    (answers.plugins? [] request.plugins).map
      (CompileTask.ofRequest (answers.normalize request.path) request)

theorem faithful_empty (answers : Answers α) : answers.Faithful .empty := by
  intro library plugins hfound
  cases hfound

theorem Faithful.add {answers : Answers α}
    (hloader : ∀ left right, left ≈ right →
      answers.loadPlugins left = answers.loadPlugins right)
    {cache : PluginCache} (hfaithful : answers.Faithful cache) {library : Path}
    {plugins : List Plugin} (hloaded : answers.loadPlugins library = .ok (.ok plugins)) :
    answers.Faithful (cache.add library plugins) := by
  intro other found hfound
  rw [PluginCache.find?_add, Option.or_eq_some_iff] at hfound
  rcases hfound with hfound | ⟨-, hfound⟩
  · exact hfaithful other found hfound
  · split at hfound
    · rename_i hsame
      cases hfound
      rw [hloader other library hsame, hloaded]
    · cases hfound

variable {answers : Answers α}

/-- A library is loaded as the loader loads it, from the cache or not. -/
theorem libraryPlugins_host (saving : Saving δ)
    (hloader : ∀ left right, left ≈ right →
      answers.loadPlugins left = answers.loadPlugins right)
    {session : Session δ α} (hfaithful : answers.Faithful session.plugins) (library : Path) :
    ∃ cache, answers.Faithful cache ∧
      Work.libraryPlugins (answers.host saving) library session =
        (Work.verdict .pluginLoad (answers.loadPlugins library),
          { session with plugins := cache }) := by
  unfold Work.libraryPlugins
  rw [Work.bind_of_ok (Work.get_apply session)]
  cases hfound : session.plugins.find? library with
  | some plugins =>
      refine ⟨session.plugins, hfaithful, ?_⟩
      rw [hfaithful library plugins hfound]
      rfl
  | none =>
      have hattempt : Work.attempt .pluginLoad ((answers.host saving).loadPlugins library)
          session = (Work.verdict .pluginLoad (answers.loadPlugins library), session) :=
        Work.attempt_answer _ _ session
      cases hloaded : Work.verdict .pluginLoad (answers.loadPlugins library) with
      | ok plugins =>
          rw [hloaded] at hattempt
          refine ⟨_, hfaithful.add hloader (Work.verdict_eq_ok hloaded), ?_⟩
          simp only [Work.bind_of_ok hattempt]
          rfl
      | error fault =>
          rw [hloaded] at hattempt
          refine ⟨session.plugins, hfaithful, ?_⟩
          simp only [Work.bind_of_error hattempt]

/-- Loading libraries gives the plugins that the request calls for, or fails if one of them
cannot be loaded, and keeps the cache faithful. -/
theorem loadPlugins_host (saving : Saving δ)
    (hloader : ∀ left right, left ≈ right →
      answers.loadPlugins left = answers.loadPlugins right)
    (seen paths : List Path) {session : Session δ α}
    (hfaithful : answers.Faithful session.plugins) :
    ∃ outcome cache, answers.Faithful cache ∧
      Work.loadPlugins (answers.host saving) seen paths session =
        (outcome, { session with plugins := cache }) ∧
      outcome.toOption = answers.plugins? seen paths := by
  induction paths generalizing seen session with
  | nil => exact ⟨.ok [], session.plugins, hfaithful, rfl, rfl⟩
  | cons path rest ih =>
      rw [Work.loadPlugins, Work.bind_of_ok (Work.get_apply session)]
      simp only [plugins?]
      change ∃ outcome cache, answers.Faithful cache ∧
        (ite ((answers.normalize path).isIn seen = true) _ _ : Work δ α (List Plugin)) session =
          _ ∧ _
      by_cases hseen : (answers.normalize path).isIn seen = true
      · rw [if_pos hseen, if_pos hseen]
        exact ih seen hfaithful
      · rw [if_neg hseen, if_neg hseen]
        obtain ⟨cache, hcache, hlibrary⟩ :=
          libraryPlugins_host saving hloader hfaithful (answers.normalize path)
        rcases hloaded : answers.loadPlugins (answers.normalize path) with
          panic | (reason | plugins)
        all_goals rw [hloaded] at hlibrary
        · exact ⟨_, cache, hcache, Work.bind_of_error hlibrary, rfl⟩
        · exact ⟨_, cache, hcache, Work.bind_of_error hlibrary, rfl⟩
        · obtain ⟨others, later, hlater, hothers, hplugins⟩ :=
            @ih (answers.normalize path :: seen) { session with plugins := cache } hcache
          refine ⟨others.map (plugins ++ ·), later, hlater, ?_, ?_⟩
          · refine (Work.bind_of_ok hlibrary).trans ?_
            cases others with
            | ok others => exact Work.bind_of_ok hothers
            | error fault => exact Work.bind_of_error hothers
          · simp only [← hplugins]
            cases others <;> rfl

/-- A request becomes the task that it calls for, and is resolved with it. -/
theorem prepare_host (saving : Saving δ) (kinds : SourceKinds)
    (hloader : ∀ left right, left ≈ right →
      answers.loadPlugins left = answers.loadPlugins right)
    (payload : Json) {session : Session δ α} (hfaithful : answers.Faithful session.plugins) :
    ∃ cache, answers.Faithful cache ∧
      match answers.task? payload with
      | none => ∃ reply, session.prepare (answers.host saving) kinds payload =
          (.error reply, { session with plugins := cache })
      | some task =>
        session.prepare (answers.host saving) kinds payload =
          match Work.resolve (answers.host saving) kinds task
            { session with plugins := cache, log := [] } with
          | (.ok project, after) => (.ok ⟨project, task, after.log⟩, after)
          | (.error fault, after) => (.error fault.reply, after) := by
  unfold Session.prepare Work.prepare task?
  cases Json.decode CompileRequest.decoder payload with
  | error failure => exact ⟨session.plugins, hfaithful, _, rfl⟩
  | ok request =>
      obtain ⟨outcome, cache, hcache, hloaded, hplugins⟩ :=
        loadPlugins_host saving hloader [] request.plugins hfaithful
      refine ⟨cache, hcache, ?_⟩
      have hfile : (answers.host saving).normalize session.world request.path =
          answers.normalize request.path := rfl
      simp only [Work.bind_of_ok (Work.get_apply session), hfile, ← hplugins]
      cases outcome with
      | error fault =>
          rw [Work.bind_of_error hloaded]
          exact ⟨_, rfl⟩
      | ok plugins =>
          simp only [Work.bind_of_ok hloaded, Work.bind_of_ok (Work.modify_apply _ _),
            Except.toOption, Option.map_some]
          rcases hresolve : Work.resolve (answers.host saving) kinds
              (CompileTask.ofRequest (answers.normalize request.path) request plugins)
              { session with plugins := cache, log := [] } with ⟨fault | project, after⟩
          · rw [Work.bind_of_error hresolve]
          · rw [Work.bind_of_ok hresolve]
            rfl

/-- A request that becomes no job leaves the store as it is; one that becomes a job is
resolved with its task. -/
theorem prepare_cases (saving : Saving δ) (kinds : SourceKinds)
    (hloader : ∀ left right, left ≈ right →
      answers.loadPlugins left = answers.loadPlugins right)
    (payload : Json) {session : Session δ α} (hfaithful : answers.Faithful session.plugins)
    (hkeyed : session.store.Keyed) :
    (∃ reply after,
      session.prepare (answers.host saving) kinds payload = (.error reply, after) ∧
      after.store = session.store ∧ answers.Faithful after.plugins) ∨
    (∃ project task after cache,
      session.prepare (answers.host saving) kinds payload =
        (.ok ⟨project, task, after.log⟩, after) ∧
      answers.task? payload = some task ∧ answers.Faithful after.plugins ∧
      Resolved (answers.host saving) kinds task { session with plugins := cache, log := [] }
        (.ok project) after) := by
  obtain ⟨cache, hcache, hprepare⟩ := prepare_host saving kinds hloader payload hfaithful
  cases htask : answers.task? payload with
  | none =>
      rw [htask] at hprepare
      obtain ⟨reply, hprepare⟩ := hprepare
      exact Or.inl ⟨reply, _, hprepare, rfl, hcache⟩
  | some task =>
      simp only [htask] at hprepare
      have hresolved : Resolved (answers.host saving) kinds task
          { session with plugins := cache, log := [] } _ _ :=
        Work.resolved_resolve (answers.host saving) kinds task hkeyed
      have hplugins := hresolved.plugins
      rcases hresolve : Work.resolve (answers.host saving) kinds task
          { session with plugins := cache, log := [] } with ⟨fault | project, after⟩
      all_goals
        rw [hresolve] at hprepare hresolved hplugins
        have hfaithful : answers.Faithful after.plugins := by
          rw [show after.plugins = cache from hplugins]
          exact hcache
      · cases hresolved with
        | failed hextends => exact Or.inl ⟨_, after, hprepare, hextends.store, hfaithful⟩
      · exact Or.inr ⟨project, task, after, cache, hprepare, rfl, hfaithful, hresolved⟩

/-- A request that becomes no job leaves the store as it is. -/
theorem prepare_eq_error (saving : Saving δ) (kinds : SourceKinds)
    (hloader : ∀ left right, left ≈ right →
      answers.loadPlugins left = answers.loadPlugins right)
    {payload : Json} {session after : Session δ α} {reply : Reply}
    (hfaithful : answers.Faithful session.plugins) (hkeyed : session.store.Keyed)
    (hprepare : session.prepare (answers.host saving) kinds payload = (.error reply, after)) :
    after.store = session.store ∧ answers.Faithful after.plugins := by
  rcases prepare_cases saving kinds hloader payload hfaithful hkeyed with
    ⟨other, later, hother, hstore, hcache⟩ | ⟨project, task, later, cache, hother, -⟩
  · cases hprepare.symm.trans hother
    exact ⟨hstore, hcache⟩
  · cases hprepare.symm.trans hother

/-- A request that becomes a job becomes it by its task and the project it resolves to. -/
theorem prepare_eq_ok (saving : Saving δ) (kinds : SourceKinds)
    (hloader : ∀ left right, left ≈ right →
      answers.loadPlugins left = answers.loadPlugins right)
    {payload : Json} {session after : Session δ α} {job : Job α}
    (hfaithful : answers.Faithful session.plugins) (hkeyed : session.store.Keyed)
    (hprepare : session.prepare (answers.host saving) kinds payload = (.ok job, after)) :
    answers.task? payload = some job.task ∧ answers.Faithful after.plugins ∧
      ∃ cache, Resolved (answers.host saving) kinds job.task
        { session with plugins := cache, log := [] } (.ok job.project) after := by
  rcases prepare_cases saving kinds hloader payload hfaithful hkeyed with
    ⟨reply, later, hother, -⟩ |
    ⟨project, task, later, cache, hother, htask, hcache, hresolved⟩
  · cases hprepare.symm.trans hother
  · cases hprepare.symm.trans hother
    exact ⟨htask, hcache, cache, hresolved⟩

end Answers

end CompileServer
