import CompileServer.Proofs.Actor.History
import CompileServer.Proofs.Compile.Preparation
import CompileServer.Proofs.Compile.Sample

/-!
# All or nothing

A request that the actor answers itself, with an error or because a collaborator broke
off, has changed nothing but the cache of plugins, which keeps the libraries that were
loaded for it.  A file that is resolved changes the project under one key, which is that of
its own project, and no project is lost.  This holds whatever is stored and whichever libraries
are loaded, as long as every project stands under its own file, and a run of the actor never
leads to any other state, whatever the collaborators do.
-/

namespace CompileServer

variable {σ α : Type} {host : Host σ α} {kinds : SourceKinds}

/-- The later store serves a file by a project that has compiled it, has every other project
as it was, and has lost none. -/
structure Store.Serves (before after : Store α) (file : Path) (project : Project α) :
    Prop where
  stored : after.get? project.projectFile = some project
  compiled : project.isCompiled file = true
  others : ∀ key, ¬ key ≈ project.projectFile → after.get? key = before.get? key
  kept : ∀ key, (before.get? key).isSome = true → (after.get? key).isSome = true

theorem Resolved.serves {task : CompileTask} {before after : Session σ α}
    {project : Project α} (hresolved : Resolved host kinds task before (.ok project) after) :
    before.store.Serves after.store task.file project where
  stored := by
    rw [hresolved.published, if_pos (Setoid.refl _)]
  compiled := by
    cases hresolved with
    | rebuilt =>
        rw [Project.isCompiled_markCompiled]
        exact Or.inl (Setoid.refl _)
    | reused =>
        rw [Project.isCompiled_markCompiled]
        exact Or.inl (Setoid.refl _)
  others key hother := by
    rw [hresolved.published, if_neg hother]
  kept key hstored := by
    rw [hresolved.published]
    by_cases hkey : key ≈ project.projectFile
    · rw [if_pos hkey]
      rfl
    · rw [if_neg hkey]
      exact hstored

namespace Actor

/-- In this state of the actor, requests are worked on wholly or not at all. -/
structure Atomic (host : Host σ α) (kinds : SourceKinds) (actor : Actor σ α) : Prop where
  /-- A request that the actor replies to itself leaves the store as it was. -/
  untouched : ∀ ticket payload reply,
    (actor.compile host kinds ticket payload).replies = actor.replies ++ [(ticket, reply)] →
    (actor.compile host kinds ticket payload).session.store = actor.session.store
  /-- All that the cache of plugins gains are libraries that were loaded for the request. -/
  cached : ∀ ticket payload, ∃ last,
    actor.session.plugins.Gains host (CompileRequest.libraries payload) actor.session.world
      (actor.compile host kinds ticket payload).session.plugins last
  /-- The cache of plugins gives what it gave before. -/
  remembered : ∀ ticket payload library plugins,
    actor.session.plugins.find? library = some plugins →
    (actor.compile host kinds ticket payload).session.plugins.find? library = some plugins
  /-- A file that is resolved is served by the project that is stored now. -/
  served : ∀ (task : CompileTask) (session : Session σ α),
    session.store = actor.session.store →
    ∀ project after, Work.resolve host kinds task session = (.ok project, after) →
    session.store.Serves after.store task.file project
  /-- A project never vanishes while it is worked on. -/
  present : ∀ (task : CompileTask) (session : Session σ α),
    session.store = actor.session.store →
    ∀ text after, Work.resolve host kinds task session ≠
      (.error (.rejected (.internal text)), after)

/-- What working on a request does to the actor. -/
theorem compile_eq (host : Host σ α) (kinds : SourceKinds) (ticket : Ticket) (payload : Json)
    (actor : Actor σ α) :
    actor.compile host kinds ticket payload =
      match Work.prepare host kinds payload actor.session with
      | (.ok job, session) =>
        { actor with session := session, inFlight := actor.inFlight ++ [(ticket, job)] }
      | (.error fault, session) =>
        { actor with session := session, replies := actor.replies ++ [(ticket, fault.reply)] } := by
  unfold compile Session.prepare
  rcases Work.prepare host kinds payload actor.session with ⟨fault | job, session⟩ <;> rfl

theorem compile_session (host : Host σ α) (kinds : SourceKinds) (ticket : Ticket)
    (payload : Json) (actor : Actor σ α) :
    (actor.compile host kinds ticket payload).session =
      (Work.prepare host kinds payload actor.session).2 := by
  rw [compile_eq]
  rcases Work.prepare host kinds payload actor.session with ⟨fault | job, session⟩ <;> rfl

/-- Requests are worked on wholly or not at all as long as every project stands under its own
project file. -/
theorem atomic_of_keyed {actor : Actor σ α} (hkeyed : actor.session.store.Keyed) :
    actor.Atomic host kinds where
  untouched := by
    intro ticket payload reply hreplies
    have hprepared := Work.prepared_prepare host kinds payload hkeyed
    rw [compile_session]
    rw [compile_eq] at hreplies
    rcases hprepare : Work.prepare host kinds payload actor.session with ⟨fault | job, after⟩
    all_goals rw [hprepare] at hprepared hreplies
    · exact hprepared.store_of_error
    -- a request that became a job has no reply yet
    · have hlength := congrArg List.length hreplies
      simp at hlength
  cached := by
    intro ticket payload
    rw [compile_session]
    exact (Work.prepared_prepare host kinds payload hkeyed).gains
  remembered := by
    intro ticket payload library plugins hfound
    rw [compile_session]
    obtain ⟨last, hgains⟩ := (Work.prepared_prepare host kinds payload hkeyed).gains
    exact hgains.find? hfound
  served := by
    intro task session hstore project after hresolve
    have hresolved : Resolved host kinds task session _ _ :=
      Work.resolved_resolve host kinds task (hstore ▸ hkeyed)
    rw [hresolve] at hresolved
    exact hresolved.serves
  present := by
    intro task session hstore text after hresolve
    apply Work.resolve_ne_internal host kinds task (hstore ▸ hkeyed) text
    rw [hresolve]

end Actor

namespace History

theorem keyed_step {before after : History σ α} {event : Event}
    (hkeyed : before.actor.session.store.Keyed) (hstep : Step host kinds before event after) :
    after.actor.session.store.Keyed := by
  have hprepare : ∀ {payload outcome session},
      before.actor.session.prepare host kinds payload = (outcome, session) →
      session.store.Keyed := by
    intro payload outcome session hprepared
    rw [Session.prepare_eq] at hprepared
    obtain ⟨-, rfl⟩ := Prod.mk.inj hprepared
    exact (Work.prepared_prepare host kinds payload hkeyed).keyed hkeyed
  cases hstep with
  | rejected _ hprepared => exact hprepare hprepared
  | started _ hprepared => exact hprepare hprepared
  | _ => exact hkeyed

theorem keyed_of_run {world : σ} {events : List Event} {history : History σ α}
    (hrun : (start world).run? host kinds events = some history) :
    history.actor.session.store.Keyed := by
  apply run?_preserves (motive := fun history => history.actor.session.store.Keyed) _ _ hrun
  · exact keyed_step
  · exact Store.Keyed.empty

/-- Requests are worked on wholly or not at all in every state in which projects stand under
their own project files, and a run of the actor only leads to such states. -/
theorem atomic_throughout (host : Host σ α) (kinds : SourceKinds) :
    (∀ actor : Actor σ α, actor.session.store.Keyed → actor.Atomic host kinds) ∧
      ∀ (world : σ) (events : List Event) (history : History σ α),
        (start world).run? host kinds events = some history →
        history.actor.session.store.Keyed ∧ history.actor.Atomic host kinds := by
  constructor
  · intro actor hkeyed
    exact Actor.atomic_of_keyed hkeyed
  · intro world events history hrun
    have hkeyed := keyed_of_run hrun
    exact ⟨hkeyed, Actor.atomic_of_keyed hkeyed⟩

/-- A project is made, and a request for a file of no project is refused. -/
def makeAndRefuse : List Event :=
  [.ask (.compile (Sample.request Sample.manifest)),
    .ask (.compile (Sample.request ⟨"/q/C.fs"⟩)), .move .take, .move .take]

/-- After a refused request, the one project is stored and requests are still worked on wholly
or not at all. -/
theorem atomic_makeAndRefuse :
    ∃ history, (start ()).run? Sample.host .standard makeAndRefuse = some history ∧
      history.actor.replies.map Prod.fst = [1] ∧ history.actor.session.store.size = 1 ∧
      history.actor.Atomic Sample.host .standard := by
  have hpossible : ((start ()).run? Sample.host .standard makeAndRefuse).isSome = true := by
    decide +kernel
  obtain ⟨history, hrun⟩ := Option.isSome_iff_exists.1 hpossible
  have hseen : ((start ()).run? Sample.host .standard makeAndRefuse).all (fun history =>
      history.actor.replies.map Prod.fst == [1] &&
      history.actor.session.store.size == 1) = true := by
    decide +kernel
  rw [hrun, Option.all_some] at hseen
  simp only [Bool.and_eq_true, beq_iff_eq] at hseen
  have hatomic := (atomic_throughout Sample.host .standard).2 () makeAndRefuse history hrun
  exact ⟨history, hrun, hseen.1, hseen.2, hatomic.2⟩

end History

end CompileServer
