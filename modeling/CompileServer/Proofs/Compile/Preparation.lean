import CompileServer.Compile.Prepare
import CompileServer.Proofs.Compile.Loading
import CompileServer.Proofs.Compile.Resolution

/-!
# Preparing a request

What can become of a request before there is a job, said once and for any host.  A
request that ends early has loaded libraries at most, and each of them because the
request asked for it, the cache did not have it, and the loader gave its plugins.
Resolving a request never ends in an internal error: the project that a decision names
is there when its file is marked.
-/

namespace CompileServer

variable {σ α β γ ε : Type}

/-! ## Libraries that were loaded -/

/-- The libraries that a request asks for. -/
def CompileRequest.libraries (payload : Json) : List Path :=
  match Json.decode CompileRequest.decoder payload with
  | .ok request => request.plugins
  | .error _ => []

namespace PluginCache

/-- Beginning in a world, some of the libraries asked for were loaded one after the other,
and all that the cache gained are their plugins. -/
inductive Gains (host : Host σ α) (asked : List Path) :
    PluginCache → σ → PluginCache → σ → Prop where
  | nothing (cache : PluginCache) (world : σ) : Gains host asked cache world cache world
  | library {cache later : PluginCache} {world next last : σ} {path : Path}
      {plugins : List Plugin} (hasked : path ∈ asked)
      (hunknown : cache.find? (host.normalize world path) = none)
      (hloaded : host.loadPlugins (host.normalize world path) world = (.ok (.ok plugins), next))
      (hrest : Gains host asked (cache.add (host.normalize world path) plugins) next later last) :
      Gains host asked cache world later last

variable {host : Host σ α}

theorem Gains.mono {asked more : List Path} (hmore : ∀ path ∈ asked, path ∈ more)
    {before after : PluginCache} {world last : σ}
    (hgains : Gains host asked before world after last) :
    Gains host more before world after last := by
  induction hgains with
  | nothing cache world => exact .nothing cache world
  | library hasked hunknown hloaded _ ih => exact .library (hmore _ hasked) hunknown hloaded ih

/-- A cache that gains libraries gives the plugins that it gave. -/
theorem Gains.find? {asked : List Path} {before after : PluginCache} {world last : σ}
    (hgains : Gains host asked before world after last) {library : Path}
    {plugins : List Plugin} (hfound : before.find? library = some plugins) :
    after.find? library = some plugins := by
  induction hgains with
  | nothing => exact hfound
  | library _ _ _ _ ih =>
      apply ih
      rw [find?_add, hfound]
      rfl

end PluginCache

namespace Work

variable {host : Host σ α}

theorem bind_pure (work : Work σ α β) (result : β → γ) (session : Session σ α) :
    (work >>= fun value => pure (result value)) session =
      ((work session).1.map result, (work session).2) := by
  rcases hwork : work session with ⟨fault | value, after⟩
  · rw [bind_of_error hwork]
    rfl
  · rw [bind_of_ok hwork]
    rfl

/-- A library is in the cache, or is loaded into it, or the request ends. -/
theorem libraryPlugins_cases (host : Host σ α) (library : Path) (session : Session σ α) :
    (∃ plugins, libraryPlugins host library session = (.ok plugins, session)) ∨
    (∃ plugins world, session.plugins.find? library = none ∧
      host.loadPlugins library session.world = (.ok (.ok plugins), world) ∧
      libraryPlugins host library session =
        (.ok plugins,
          { session with plugins := session.plugins.add library plugins, world := world })) ∨
    ∃ fault world, libraryPlugins host library session =
      (.error fault, { session with world := world }) := by
  unfold libraryPlugins
  rw [bind_of_ok (get_apply session)]
  cases hfound : session.plugins.find? library with
  | some plugins => exact Or.inl ⟨plugins, rfl⟩
  | none =>
      have hattempt := attempt_apply (α := α) .pluginLoad (host.loadPlugins library) session
      rcases hverdict : verdict .pluginLoad (host.loadPlugins library session.world).1 with
        fault | plugins
      · rw [hverdict] at hattempt
        exact Or.inr (Or.inr ⟨fault, _, bind_of_error hattempt⟩)
      · rw [hverdict] at hattempt
        have hloaded : host.loadPlugins library session.world =
            (.ok (.ok plugins), (host.loadPlugins library session.world).2) :=
          Prod.ext (verdict_eq_ok hverdict) rfl
        exact Or.inr (Or.inl ⟨plugins, _, rfl, hloaded, bind_of_ok hattempt⟩)

/-- However the loading of libraries ends, the store is as it was and the cache has gained
what was loaded. -/
theorem loadPlugins_gains (host : Host σ α) (seen paths : List Path)
    (session : Session σ α) :
    (loadPlugins host seen paths session).2.store = session.store ∧
      ∃ last, session.plugins.Gains host paths session.world
        (loadPlugins host seen paths session).2.plugins last := by
  induction paths generalizing seen session with
  | nil => exact ⟨rfl, session.world, .nothing _ _⟩
  | cons path rest ih =>
      have hlater : ∀ other ∈ rest, other ∈ path :: rest := fun _ => List.mem_cons_of_mem path
      rw [loadPlugins, bind_of_ok (get_apply session)]
      by_cases hseen : (host.normalize session.world path).isIn seen = true
      · simp only [hseen, if_true]
        obtain ⟨hstore, last, hgains⟩ := ih seen session
        exact ⟨hstore, last, hgains.mono hlater⟩
      · simp only [hseen, if_false, Bool.false_eq_true]
        obtain ⟨plugins, hlibrary⟩ | ⟨plugins, world, hunknown, hloaded, hlibrary⟩ |
            ⟨fault, world, hlibrary⟩ :=
          libraryPlugins_cases host (host.normalize session.world path) session
        · rw [bind_of_ok hlibrary, bind_pure]
          obtain ⟨hstore, last, hgains⟩ := ih (host.normalize session.world path :: seen) session
          exact ⟨hstore, last, hgains.mono hlater⟩
        · rw [bind_of_ok hlibrary, bind_pure]
          obtain ⟨hstore, last, hgains⟩ := ih (host.normalize session.world path :: seen) _
          refine ⟨hstore, last, ?_⟩
          exact .library List.mem_cons_self hunknown hloaded (hgains.mono hlater)
        · rw [bind_of_error hlibrary]
          exact ⟨rfl, session.world, .nothing _ _⟩

end Work

/-! ## What becomes of a request -/

/-- Decodes a request and loads its plugins; what it asks for is its task. -/
def Work.receive (host : Host σ α) (payload : Json) : Work σ α CompileTask := do
  match Json.decode CompileRequest.decoder payload with
  | .error failure => reject (.decode failure)
  | .ok request =>
    let file := host.normalize (← get).world request.path
    let plugins ← loadPlugins host [] request.plugins
    modify fun session => { session with log := [] }
    return CompileTask.ofRequest file request plugins

/-- A request is received, and then its file is resolved. -/
theorem Work.prepare_eq_receive (host : Host σ α) (kinds : SourceKinds) (payload : Json) :
    Work.prepare host kinds payload =
      (do
        let task ← receive host payload
        let project ← resolve host kinds task
        return ⟨project, task, (← get).log⟩) := by
  unfold prepare receive
  cases Json.decode CompileRequest.decoder payload with
  | error failure => rfl
  | ok request => simp only [bind_assoc, pure_bind]

/-- A request that is received has left the projects alone, and its log is empty. -/
theorem Work.receive_eq_ok {host : Host σ α} {payload : Json} {before after : Session σ α}
    {task : CompileTask} (hreceive : receive host payload before = (.ok task, after)) :
    after.store = before.store ∧ after.log = [] ∧
      ∃ request, Json.decode CompileRequest.decoder payload = .ok request ∧
        task.file = host.normalize before.world request.path := by
  unfold receive at hreceive
  cases hdecode : Json.decode CompileRequest.decoder payload with
  | error failure =>
      rw [hdecode] at hreceive
      cases hreceive
  | ok request =>
      rw [hdecode] at hreceive
      simp only [bind_of_ok (get_apply before)] at hreceive
      obtain ⟨plugins, loaded, hload, hreceive⟩ := bind_eq_ok hreceive
      have hstore := (loadPlugins_gains host [] request.plugins before).1
      rw [hload] at hstore
      cases hreceive
      exact ⟨hstore, rfl, request, rfl, rfl⟩

/-- What preparing a request comes to: it ends early, having loaded some libraries, or its
file is resolved after they were loaded. -/
inductive Prepared (host : Host σ α) (kinds : SourceKinds) (payload : Json)
    (before : Session σ α) : Except Fault (Job α) → Session σ α → Prop where
  | ended {fault : Fault} {after : Session σ α} {last : σ}
      (hstore : after.store = before.store)
      (hgains : before.plugins.Gains host (CompileRequest.libraries payload) before.world
        after.plugins last) :
      Prepared host kinds payload before (.error fault) after
  | job {request : CompileRequest} {plugins : List Plugin} {loaded after : Session σ α}
      {last : σ} {task : CompileTask} {project : Project α}
      (hdecode : Json.decode CompileRequest.decoder payload = .ok request)
      (htask : task =
        CompileTask.ofRequest (host.normalize before.world request.path) request plugins)
      (hresolved : Resolved host kinds task loaded (.ok project) after)
      (hstore : loaded.store = before.store)
      (hgains : before.plugins.Gains host (CompileRequest.libraries payload) before.world
        loaded.plugins last) :
      Prepared host kinds payload before (.ok ⟨project, task, after.log⟩) after

theorem Work.prepared_prepare (host : Host σ α) (kinds : SourceKinds) (payload : Json)
    {before : Session σ α} (hkeyed : before.store.Keyed) :
    Prepared host kinds payload before (Work.prepare host kinds payload before).1
      (Work.prepare host kinds payload before).2 := by
  unfold Work.prepare
  cases hdecode : Json.decode CompileRequest.decoder payload with
  | error failure => exact .ended rfl (.nothing before.plugins before.world)
  | ok request =>
      obtain ⟨hstore, last, hgains⟩ := loadPlugins_gains host [] request.plugins before
      have hasked : CompileRequest.libraries payload = request.plugins := by
        rw [CompileRequest.libraries, hdecode]
      simp only [bind_of_ok (get_apply before)]
      rcases hload : loadPlugins host [] request.plugins before with ⟨fault | plugins, loaded⟩
      all_goals
        rw [hload] at hstore hgains
        rw [← hasked] at hgains
      · rw [bind_of_error hload]
        exact .ended hstore hgains
      · have hresolved : Resolved host kinds _ { loaded with log := [] } _ _ :=
          resolved_resolve host kinds
            (CompileTask.ofRequest (host.normalize before.world request.path) request plugins)
            (hstore ▸ hkeyed)
        simp only [bind_of_ok hload, bind_of_ok (modify_apply _ _)]
        rcases hresolve : resolve host kinds
            (CompileTask.ofRequest (host.normalize before.world request.path) request plugins)
            { loaded with log := [] } with ⟨fault | project, after⟩
        all_goals rw [hresolve] at hresolved
        · rw [bind_of_error hresolve]
          cases hresolved with
          | failed hextends =>
              rw [← hextends.plugins] at hgains
              exact .ended (hextends.store.trans hstore) hgains
        · rw [bind_of_ok hresolve]
          exact .job hdecode rfl hresolved hstore hgains

theorem Session.prepare_eq (host : Host σ α) (kinds : SourceKinds) (payload : Json)
    (before : Session σ α) :
    before.prepare host kinds payload =
      ((Work.prepare host kinds payload before).1.mapError Fault.reply,
        (Work.prepare host kinds payload before).2) := by
  unfold Session.prepare
  rcases Work.prepare host kinds payload before with ⟨fault | job, after⟩ <;> rfl

namespace Prepared

variable {host : Host σ α} {kinds : SourceKinds} {payload : Json} {before after : Session σ α}
  {outcome : Except Fault (Job α)}

/-- Whatever becomes of a request, the cache gains only libraries that were loaded for it. -/
theorem gains (hprepared : Prepared host kinds payload before outcome after) :
    ∃ last, before.plugins.Gains host (CompileRequest.libraries payload) before.world
      after.plugins last := by
  cases hprepared with
  | ended _ hgains => exact ⟨_, hgains⟩
  | job _ _ hresolved _ hgains =>
      rw [hresolved.plugins]
      exact ⟨_, hgains⟩

/-- A request without a job leaves the store as it was. -/
theorem store_of_error {fault : Fault}
    (hprepared : Prepared host kinds payload before (.error fault) after) :
    after.store = before.store := by
  cases hprepared with
  | ended hstore _ => exact hstore

/-- Projects keep standing under their own project files. -/
theorem keyed (hprepared : Prepared host kinds payload before outcome after)
    (hkeyed : before.store.Keyed) : after.store.Keyed := by
  cases hprepared with
  | ended hstore _ =>
      rw [hstore]
      exact hkeyed
  | job _ _ hresolved hstore _ => exact hresolved.published.keyed (hstore ▸ hkeyed)

end Prepared

/-! ## How work fails -/

/-- A fault that ends a request before its file is looked at. -/
inductive Fault.OfReceiving : Fault → Prop where
  | panicked (panic : Panic) : OfReceiving (.panicked panic)
  | decode (failure : Json.Failure) : OfReceiving (.rejected (.decode failure))
  | pluginLoad (error : PluginError) : OfReceiving (.rejected (.pluginLoad error))

/-- A fault that a collaborator caused while a project was made. -/
inductive Fault.OfMaking : Fault → Prop where
  | panicked (panic : Panic) : OfMaking (.panicked panic)
  | buildOptions (project : Path) (causes : Causes) :
      OfMaking (.rejected (.buildOptions project causes))
  | runtimeFolder (project : Path) : OfMaking (.rejected (.runtimeFolderNotFound project))
  | frontEnd (project : Path) (causes : Causes) :
      OfMaking (.rejected (.frontEnd project causes))

namespace Work

variable {host : Host σ α} {task : CompileTask} {allowed : Fault → Prop}

/-- If the work fails, then in one of the ways that are allowed. -/
def FailsBy (allowed : Fault → Prop) (work : Work σ α β) : Prop :=
  ∀ session fault, (work session).1 = .error fault → allowed fault

theorem FailsBy.pure (value : β) : FailsBy allowed (pure value : Work σ α β) := by
  intro session fault hfault
  cases hfault

theorem FailsBy.writeLog (change : Log → Log) :
    FailsBy allowed (writeLog change : Work σ α Unit) := by
  intro session fault hfault
  cases hfault

theorem FailsBy.get : FailsBy allowed (get : Work σ α (Session σ α)) := by
  intro session fault hfault
  cases hfault

theorem FailsBy.reject {error : CompileError} (hallowed : allowed (.rejected error)) :
    FailsBy allowed (reject error : Work σ α β) := by
  intro session fault hfault
  cases hfault
  exact hallowed

theorem FailsBy.bind {work : Work σ α β} {next : β → Work σ α γ} (hwork : FailsBy allowed work)
    (hnext : ∀ value, FailsBy allowed (next value)) : FailsBy allowed (work >>= next) := by
  intro session fault hfault
  rcases hrun : work session with ⟨first | value, middle⟩
  · rw [bind_of_error hrun] at hfault
    cases hfault
    apply hwork session
    rw [hrun]
  · rw [bind_of_ok hrun] at hfault
    exact hnext value middle fault hfault

theorem FailsBy.call (hpanic : ∀ panic, allowed (.panicked panic))
    (call : CompileServer.Call σ β) : FailsBy allowed (Work.call call : Work σ α β) := by
  intro session fault hfault
  unfold Work.call at hfault
  split at hfault
  · cases hfault
  · cases hfault
    exact hpanic _

theorem FailsBy.attempt {refuse : ε → CompileError}
    (hpanic : ∀ panic, allowed (.panicked panic))
    (hrefuse : ∀ reason, allowed (.rejected (refuse reason)))
    (call : CompileServer.Call σ (Except ε β)) :
    FailsBy allowed (attempt refuse call : Work σ α β) := by
  apply FailsBy.bind (.call hpanic call)
  intro answer
  cases answer with
  | ok value => exact .pure value
  | error reason => exact .reject (hrefuse reason)

theorem failsBy_libraryPlugins (host : Host σ α) (library : Path) :
    FailsBy Fault.OfReceiving (libraryPlugins host library) := by
  unfold libraryPlugins
  refine FailsBy.bind .get fun session => ?_
  cases session.plugins.find? library with
  | some plugins => exact .pure plugins
  | none =>
      refine FailsBy.bind (.attempt .panicked .pluginLoad _) fun plugins => ?_
      intro session fault hfault
      cases hfault

theorem failsBy_loadPlugins (host : Host σ α) (seen paths : List Path) :
    FailsBy Fault.OfReceiving (loadPlugins host seen paths) := by
  induction paths generalizing seen with
  | nil => exact .pure []
  | cons path rest ih =>
      unfold loadPlugins
      refine FailsBy.bind .get fun session => ?_
      by_cases hseen : (host.normalize session.world path).isIn seen = true
      · simp only [hseen, if_true]
        exact ih seen
      · simp only [hseen, Bool.false_eq_true, if_false]
        refine FailsBy.bind (failsBy_libraryPlugins host _) fun plugins => ?_
        exact FailsBy.bind (ih _) fun others => .pure _

/-- A request that is not received is no request, or a library of plugins failed. -/
theorem failsBy_receive (host : Host σ α) (payload : Json) :
    FailsBy Fault.OfReceiving (receive host payload) := by
  unfold receive
  split
  · exact .reject (.decode _)
  · refine FailsBy.bind .get fun session => ?_
    refine FailsBy.bind (failsBy_loadPlugins host [] _) fun plugins => ?_
    intro session fault hfault
    cases hfault

theorem failsBy_seededOptions (host : Host σ α) (task : CompileTask) (project : Path)
    (seed : Seed) : FailsBy Fault.OfMaking (seededOptions host task project seed) := by
  unfold seededOptions
  split
  · exact .pure _
  · refine FailsBy.bind (.attempt .panicked (fun _ => .buildOptions _ _) _) fun options => ?_
    intro session fault hfault
    cases hfault

theorem failsBy_seededFolder (host : Host σ α) (project : Path) (seed : Seed) :
    FailsBy Fault.OfMaking (seededFolder host project seed) := by
  unfold seededFolder
  split
  · exact .pure _
  · refine FailsBy.bind (.attempt .panicked (fun _ => .buildOptions _ _) _) fun found => ?_
    cases found with
    | some folder => exact .pure folder
    | none => exact .reject (.runtimeFolder _)

theorem failsBy_check (host : Host σ α) (project : Path) (options : ProjectOptions) :
    FailsBy Fault.OfMaking (check host project options) := by
  refine FailsBy.bind (.attempt .panicked (fun _ => .frontEnd _ _) _) fun answer => ?_
  intro session fault hfault
  cases hfault

theorem failsBy_dumpIfAsked (host : Host σ α) (task : CompileTask) (project : Path)
    (options : ProjectOptions) (diagnostics : List Diagnostic) (analysis : Analysis α) :
    FailsBy Fault.OfMaking (dumpIfAsked host task project options diagnostics analysis) := by
  unfold dumpIfAsked
  split
  · refine FailsBy.bind (.call .panicked _) fun shown => ?_
    apply FailsBy.bind
    · intro session fault hfault
      cases hfault
    · intro written
      cases written with
      | ok => exact .pure _
      | error fault => exact .writeLog _
  · exact .pure _

/-- Making a project fails for reasons of the collaborators only. -/
theorem failsBy_createProject (host : Host σ α) (task : CompileTask) (project : Path)
    (seed : Seed) : FailsBy Fault.OfMaking (createProject host task project seed) := by
  rw [createProject_eq]
  apply FailsBy.bind (failsBy_seededOptions host task project seed)
  intro options
  apply FailsBy.bind (failsBy_seededFolder host project seed)
  intro folder
  apply FailsBy.bind (failsBy_check host project options)
  intro checked
  apply FailsBy.bind (failsBy_dumpIfAsked host task project options _ _)
  intro _
  exact FailsBy.bind (.writeLog _) fun _ => .pure _

/-- A request is refused, or a collaborator fails while its project is made. -/
theorem resolve_eq_error {kinds : SourceKinds} {session : Session σ α}
    (hkeyed : session.store.Keyed) {fault : Fault}
    (hfault : (resolve host kinds task session).1 = .error fault) :
    fault.OfMaking ∨
      ∃ error, session.store.decide kinds task.file = .refuse error ∧ fault = .rejected error := by
  have hdecided := session.store.decides_decide kinds task.file
  cases hdecision : session.store.decide kinds task.file with
  | rebuild project seed =>
      rcases hcreate : createProject host task project seed session with ⟨other | made, middle⟩
      · rw [resolve_of_fault hdecision hcreate] at hfault
        left
        apply failsBy_createProject host task project seed session
        rw [hcreate]
        exact hfault
      · rw [resolve_of_rebuild hdecision hcreate] at hfault
        cases hfault
  | reuse project =>
      rw [hdecision] at hdecided
      cases hdecided with
      | reuse howner _ _ =>
          obtain ⟨-, key, hfound⟩ := Store.findOwner_eq_some howner
          rw [resolve_of_reuse hdecision (hkeyed.get?_projectFile hfound)] at hfault
          cases hfault
  | refuse error =>
      unfold resolve at hfault
      simp only [bind_of_ok (get_apply session), hdecision] at hfault
      cases hfault
      exact Or.inr ⟨error, rfl, rfl⟩

/-- The project that a decision names is there when its file is marked. -/
theorem resolve_ne_internal (host : Host σ α) (kinds : SourceKinds) (task : CompileTask)
    {session : Session σ α} (hkeyed : session.store.Keyed) (text : String) :
    (resolve host kinds task session).1 ≠ .error (.rejected (.internal text)) := by
  intro hfault
  rcases resolve_eq_error hkeyed hfault with hmaking | ⟨error, hdecision, herror⟩
  · cases hmaking
  · have hdecided := session.store.decides_decide kinds task.file
    rw [hdecision] at hdecided
    cases herror
    cases hdecided

end Work

end CompileServer
