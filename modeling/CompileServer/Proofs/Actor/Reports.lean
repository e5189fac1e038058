import CompileServer.Proofs.Actor.Schedule
import CompileServer.Proofs.Compile.Diagnostics

/-!
# Outputs and where they come from

Every output that the actor sends in a run goes back to two moments of this run: one in which the
request that arrived under the ticket was taken and became a job, and a later one in which the
job was done and the reply was given.  What was said at these two moments is all that the output
reports, whatever other requests did before, between and after.
-/

namespace CompileServer

variable {σ α : Type} {host : Host σ α} {kinds : SourceKinds}

theorem Session.prepare_eq_ok {payload : Json} {before after : Session σ α} {job : Job α}
    (hprepare : before.prepare host kinds payload = (.ok job, after)) :
    Work.prepare host kinds payload before = (.ok job, after) := by
  rw [prepare_eq] at hprepare
  rcases hwork : Work.prepare host kinds payload before with ⟨fault | prepared, last⟩
  all_goals
    rw [hwork] at hprepare
    cases hprepare
  rfl

theorem Session.prepare_eq_error {payload : Json} {before after : Session σ α} {reply : Reply}
    (hprepare : before.prepare host kinds payload = (.error reply, after)) :
    ∃ fault, Work.prepare host kinds payload before = (.error fault, after) ∧
      reply = fault.reply := by
  rw [prepare_eq] at hprepare
  rcases hwork : Work.prepare host kinds payload before with ⟨fault | prepared, last⟩
  all_goals
    rw [hwork] at hprepare
    cases hprepare
  exact ⟨fault, rfl, rfl⟩

/-- Whatever the session and whenever the job is done, the output reports what was said. -/
theorem Session.reports {payload : Json} {session : Session σ α} {job : Job α} {world : σ}
    {output : CompileOutput} (hprepare : (session.prepare host kinds payload).1 = .ok job)
    (hrun : (job.run host world).1 = .done output) :
    job.Reports (session.store.decide kinds job.task.file).rebuilds
      (Work.heard (Work.prepare host.overheard kinds payload) session) (job.heard host world)
      output := by
  have hwork := prepare_eq_ok (Prod.ext hprepare rfl)
  obtain ⟨loads, said, hsaid, hheard⟩ := Work.preparingSaid_of_ok (congrArg Prod.fst hwork)
  have hprepares := hsaid.prepares.after_setup (Load.isSetup loads)
  rw [← hheard] at hprepares
  exact hprepares.reports (Job.emittingSaid_of_done hrun)

theorem Fault.reply_ne_done (fault : Fault) (output : CompileOutput) :
    fault.reply ≠ .done output := by
  cases fault <;> intro hreply <;> cases hreply

/-- A request without a job has no output. -/
theorem Session.prepare_ne_done (payload : Json) (session : Session σ α)
    (output : CompileOutput) :
    (session.prepare host kinds payload).1 ≠ .error (.done output) := by
  rw [prepare_eq]
  rcases (Work.prepare host kinds payload session).1 with fault | job
  · intro hreply
    exact fault.reply_ne_done output (Except.error.inj hreply)
  · intro hreply
    cases hreply

/-- The job that a request starts is the one that it is prepared to. -/
theorem Actor.prepare_of_compile (actor : Actor σ α) {ticket : Ticket} {payload : Json}
    {job : Job α} (hstarted : (actor.compile host kinds ticket payload).inFlight =
      actor.inFlight ++ [(ticket, job)]) :
    (actor.session.prepare host kinds payload).1 = .ok job := by
  unfold compile at hstarted
  split at hstarted
  · rename_i made session hprepare
    obtain ⟨-, hentry⟩ := List.append_inj' hstarted rfl
    cases hentry
    rw [hprepare]
  · exact absurd (congrArg List.length hstarted) (by simp)

/-- The reply that is given when a job is finished is what the job comes to. -/
theorem Actor.run_of_finish (actor : Actor σ α) {ticket : Ticket} {job : Job α} {reply : Reply}
    (hfinished : (actor.finish host ticket job).replies = actor.replies ++ [(ticket, reply)]) :
    (job.run host actor.session.world).1 = reply := by
  obtain ⟨-, hentry⟩ := List.append_inj' hfinished rfl
  cases hentry
  rfl

namespace History

/-- After these events of a run the actor takes a request, and it becomes a job. -/
structure Starts (host : Host σ α) (kinds : SourceKinds) (world : σ) (earlier : List Event)
    (moment : History σ α) (ticket : Ticket) (payload : Json) (job : Job α) : Prop where
  reached : (start world).run? host kinds earlier = some moment
  takes : ∃ rest, moment.actor.Takes (.compile ticket payload) rest
  prepared : (moment.actor.session.prepare host kinds payload).1 = .ok job

/-- After these events of a run the job at a position is done, and there is an output. -/
structure Finishes (host : Host σ α) (kinds : SourceKinds) (world : σ) (earlier : List Event)
    (moment : History σ α) (position : Nat) (ticket : Ticket) (job : Job α)
    (output : CompileOutput) : Prop where
  reached : (start world).run? host kinds earlier = some moment
  working : moment.actor.inFlight[position]? = some (ticket, job)
  done : (job.run host moment.actor.session.world).1 = .done output

/-- Among these events of a run the actor takes a request that becomes a job. -/
def Begins (host : Host σ α) (kinds : SourceKinds) (world : σ) (events : List Event)
    (ticket : Ticket) (payload : Json) (job : Job α) (taking : History σ α) : Prop :=
  ∃ earlier later, events = earlier ++ .move .take :: later ∧
    Starts host kinds world earlier taking ticket payload job

/-- Among these events of a run the actor takes a request, and later it does the job that the
request became. -/
def Passes (host : Host σ α) (kinds : SourceKinds) (world : σ) (events : List Event)
    (ticket : Ticket) (payload : Json) (job : Job α) (output : CompileOutput)
    (taking doing : History σ α) : Prop :=
  ∃ earlier between position rest,
    events = earlier ++ .move .take :: between ++ .move (.finish position) :: rest ∧
    Starts host kinds world earlier taking ticket payload job ∧
    Finishes host kinds world (earlier ++ .move .take :: between) doing position ticket job
      output

/-- Every job and every output of a run goes back to the events that brought it about. -/
structure Traced (host : Host σ α) (kinds : SourceKinds) (world : σ) (events : List Event)
    (history : History σ α) : Prop where
  reached : (start world).run? host kinds events = some history
  working : ∀ ticket job, (ticket, job) ∈ history.actor.inFlight →
    ∃ payload taking, Begins host kinds world events ticket payload job taking
  done : ∀ ticket output, (ticket, .done output) ∈ history.actor.replies →
    ∃ payload job taking doing,
      Passes host kinds world events ticket payload job output taking doing

variable {world : σ} {events : List Event} {before after history : History σ α} {event : Event}

theorem traced_start (host : Host σ α) (kinds : SourceKinds) (world : σ) :
    Traced host kinds world [] (start world) where
  reached := rfl
  working _ _ hjob := by cases hjob
  done _ _ hreply := by cases hreply

/-- What came about before an event came about before the next one, too. -/
theorem Begins.concat {ticket : Ticket} {payload : Json} {job : Job α} {taking : History σ α}
    (hbegins : Begins host kinds world events ticket payload job taking) (event : Event) :
    Begins host kinds world (events ++ [event]) ticket payload job taking := by
  obtain ⟨earlier, later, rfl, hstarts⟩ := hbegins
  exact ⟨earlier, later ++ [event], by simp, hstarts⟩

theorem Passes.concat {ticket : Ticket} {payload : Json} {job : Job α} {output : CompileOutput}
    {taking doing : History σ α}
    (hpasses : Passes host kinds world events ticket payload job output taking doing)
    (event : Event) :
    Passes host kinds world (events ++ [event]) ticket payload job output taking doing := by
  obtain ⟨earlier, between, position, rest, rfl, hstarts, hfinishes⟩ := hpasses
  exact ⟨earlier, between, position, rest ++ [event], by simp, hstarts, hfinishes⟩

theorem Traced.working_concat (htraced : Traced host kinds world events before) {ticket : Ticket}
    {job : Job α} (hjob : (ticket, job) ∈ before.actor.inFlight) (event : Event) :
    ∃ payload taking, Begins host kinds world (events ++ [event]) ticket payload job taking := by
  obtain ⟨payload, taking, hbegins⟩ := htraced.working ticket job hjob
  exact ⟨payload, taking, hbegins.concat event⟩

theorem Traced.working_step (htraced : Traced host kinds world events before)
    (hstep : Step host kinds before event after) (ticket : Ticket) (job : Job α)
    (hjob : (ticket, job) ∈ after.actor.inFlight) :
    ∃ payload taking, Begins host kinds world (events ++ [event]) ticket payload job taking := by
  cases hstep with
  | @started _ payload rest _ _ htakes hprepared =>
      rcases List.mem_append.1 hjob with hjob | hjob
      · exact htraced.working_concat hjob _
      · cases List.mem_singleton.1 hjob
        exact ⟨payload, before, events, [], rfl, htraced.reached, ⟨rest, htakes⟩,
          by rw [hprepared]⟩
  | finished => exact htraced.working_concat (List.mem_of_mem_eraseIdx hjob) _
  | refused | asked | cancelled | abandoned | rejected | shown | told | drained | stopped =>
      exact htraced.working_concat hjob _

theorem Traced.done_concat (htraced : Traced host kinds world events before) {ticket : Ticket}
    {output : CompileOutput} (hreply : (ticket, .done output) ∈ before.actor.replies)
    (event : Event) :
    ∃ payload job taking doing,
      Passes host kinds world (events ++ [event]) ticket payload job output taking doing := by
  obtain ⟨payload, job, taking, doing, hpasses⟩ := htraced.done ticket output hreply
  exact ⟨payload, job, taking, doing, hpasses.concat event⟩

theorem Traced.done_step (htraced : Traced host kinds world events before)
    (hstep : Step host kinds before event after) (ticket : Ticket) (output : CompileOutput)
    (hreply : (ticket, .done output) ∈ after.actor.replies) :
    ∃ payload job taking doing,
      Passes host kinds world (events ++ [event]) ticket payload job output taking doing := by
  cases hstep with
  | rejected _ hprepared =>
      rcases List.mem_append.1 hreply with hreply | hreply
      · exact htraced.done_concat hreply _
      · -- The actor itself never replies with an output.
        cases List.mem_singleton.1 hreply
        apply absurd (congrArg Prod.fst hprepared)
        exact Session.prepare_ne_done _ _ output
  | @finished position _ job _ _ hjob hrun =>
      rcases List.mem_append.1 hreply with hreply | hreply
      · exact htraced.done_concat hreply _
      · cases List.mem_singleton.1 hreply
        obtain ⟨payload, taking, earlier, between, rfl, hstarts⟩ :=
          htraced.working ticket job (List.mem_of_getElem? hjob)
        exact ⟨payload, job, taking, before, earlier, between, position, [], rfl, hstarts,
          htraced.reached, hjob, by rw [hrun]⟩
  | refused | asked | cancelled | abandoned | started | shown | told | drained | stopped =>
      exact htraced.done_concat hreply _

theorem Traced.step (htraced : Traced host kinds world events before)
    (hstep : Step host kinds before event after) :
    Traced host kinds world (events ++ [event]) after where
  reached := run?_concat htraced.reached hstep
  working := htraced.working_step hstep
  done := htraced.done_step hstep

theorem Traced.run (htraced : Traced host kinds world events before) {rest : List Event}
    (hrun : before.run? host kinds rest = some after) :
    Traced host kinds world (events ++ rest) after := by
  induction rest generalizing events before with
  | nil =>
      cases hrun
      rw [List.append_nil]
      exact htraced
  | cons event rest ih =>
      obtain ⟨next, hstep, hrest⟩ := run?_cons.1 hrun
      rw [List.append_cons]
      exact ih (htraced.step hstep) hrest

theorem traced_of_run (hrun : (start world).run? host kinds events = some history) :
    Traced host kinds world events history :=
  (traced_start host kinds world).run hrun

/-- A request that is taken in a run is the message that arrived under its ticket. -/
theorem Starts.arrived {earlier rest : List Event} {moment : History σ α} {ticket : Ticket}
    {payload : Json} {job : Job α}
    (hstarts : Starts host kinds world earlier moment ticket payload job)
    (hrun : (start world).run? host kinds (earlier ++ rest) = some history) :
    history.arrived[ticket]? = some (.compile ticket payload) := by
  have haccounted := accounted_of_run hstarts.reached
  obtain ⟨waiting, htakes⟩ := hstarts.takes
  obtain ⟨errand, herrand⟩ := haccounted.next_message htakes
  cases errand <;> cases herrand
  have hnext : moment.arrived[moment.taken.length]? =
      some (.compile moment.taken.length payload) := by
    rw [haccounted.split, htakes.waiting, List.getElem?_append_right (Nat.le_refl _), Nat.sub_self]
    rfl
  rw [run?_append hstarts.reached] at hrun
  obtain ⟨more, hmore⟩ := (run?_grows hrun).1
  rw [← hmore]
  exact (Session.getElem?_later hnext more).1

/-- The reply that doing the job gives is at its place among the replies of the whole run. -/
theorem Finishes.replied {earlier rest : List Event} {moment : History σ α} {position : Nat}
    {ticket : Ticket} {job : Job α} {output : CompileOutput}
    (hfinishes : Finishes host kinds world earlier moment position ticket job output)
    (hrun : (start world).run? host kinds (earlier ++ .move (.finish position) :: rest) =
      some history) :
    history.actor.replies[moment.actor.replies.length]? = some (ticket, .done output) := by
  rw [run?_append hfinishes.reached] at hrun
  obtain ⟨next, hstep, hrest⟩ := run?_cons.1 hrun
  obtain ⟨more, hmore⟩ := (run?_grows hrest).2
  rw [← hmore]
  cases hstep with
  | finished hjob hdone =>
      cases hjob.symm.trans hfinishes.working
      cases (congrArg Prod.fst hdone).symm.trans hfinishes.done
      rw [List.append_assoc, List.getElem?_append_right (Nat.le_refl _), Nat.sub_self]
      rfl

/-- An output that was sent in a run, from the arrival of its request to its reply. -/
structure Produces (host : Host σ α) (kinds : SourceKinds) (world : σ) (events : List Event)
    (history : History σ α) (ticket : Ticket) (payload : Json) (job : Job α)
    (output : CompileOutput) (taking doing : History σ α) : Prop where
  /-- The request arrived under the ticket of the reply. -/
  arrived : history.arrived[ticket]? = some (.compile ticket payload)
  /-- In this run the request is taken first, and its job is done later. -/
  passes : Passes host kinds world events ticket payload job output taking doing
  /-- The reply is the next one after those that were given before the job was done. -/
  replied : history.actor.replies[doing.actor.replies.length]? = some (ticket, .done output)
  /-- There is no other reply to the request. -/
  once : history.replyCount ticket = 1

/-- Every output of a run was produced in the run. -/
theorem exists_produces (hrun : (start world).run? host kinds events = some history)
    {ticket : Ticket} {output : CompileOutput}
    (hreply : (ticket, .done output) ∈ history.actor.replies) :
    ∃ payload job taking doing,
      Produces host kinds world events history ticket payload job output taking doing := by
  obtain ⟨payload, job, taking, doing, hpasses⟩ := (traced_of_run hrun).done ticket output hreply
  refine ⟨payload, job, taking, doing, ?_, hpasses, ?_, ?_⟩
  · obtain ⟨earlier, between, position, rest, rfl, hstarts, -⟩ := hpasses
    rw [List.append_assoc] at hrun
    exact hstarts.arrived hrun
  · obtain ⟨earlier, between, position, rest, rfl, -, hfinishes⟩ := hpasses
    exact hfinishes.replied hrun
  · exact (accounted_of_run hrun).replyCount_eq_one hreply

/-- Whatever state the actor is in, the output of a request reports what was said about this
request, and every output of a run was produced in the run and reports what was said at the two
moments of the run in which its request was taken and its job was done. -/
theorem reports_throughout (host : Host σ α) (kinds : SourceKinds) :
    (∀ (actor later : Actor σ α) (ticket : Ticket) (payload : Json) (job : Job α)
      (output : CompileOutput),
      (actor.compile host kinds ticket payload).inFlight = actor.inFlight ++ [(ticket, job)] →
      (later.finish host ticket job).replies = later.replies ++ [(ticket, .done output)] →
      job.Reports (actor.session.store.decide kinds job.task.file).rebuilds
        (Work.heard (Work.prepare host.overheard kinds payload) actor.session)
        (job.heard host later.session.world) output) ∧
      ∀ (world : σ) (events : List Event) (history : History σ α),
        (start world).run? host kinds events = some history →
        ∀ ticket output, (ticket, .done output) ∈ history.actor.replies →
        ∃ payload job taking doing,
          Produces host kinds world events history ticket payload job output taking doing ∧
          job.Reports (taking.actor.session.store.decide kinds job.task.file).rebuilds
            (Work.heard (Work.prepare host.overheard kinds payload) taking.actor.session)
            (job.heard host doing.actor.session.world) output := by
  constructor
  · intro actor later ticket payload job output hstarted hfinished
    exact Session.reports (actor.prepare_of_compile hstarted) (later.run_of_finish hfinished)
  · intro world events history hrun ticket output hreply
    obtain ⟨payload, job, taking, doing, hproduces⟩ := exists_produces hrun hreply
    obtain ⟨_, _, _, _, -, hstarts, hfinishes⟩ := hproduces.passes
    exact ⟨payload, job, taking, doing, hproduces,
      Session.reports hstarts.prepared hfinishes.done⟩

end History

namespace Sample

/-- A check that finds an error in every project. -/
def faultyCheck (options : ProjectOptions) :
    Except Panic (Except Causes (List Diagnostic × Nat)) :=
  .ok (.ok ([.warning "unused", .error "mismatch"], options.sourceFiles.length))

/-- The small host with faulty projects and a disk on which nothing can be saved. -/
def faultyHost : Host Unit Nat :=
  { answers with check := faultyCheck }.host fun _ _ _ => pure (.error (.system 28))

/-- A request for a file and for a dump. -/
def dumpRequest (path : Path) : Json :=
  .obj [("path", .str path.text),
    ("extraOptions", .obj [(CompileTask.dumpOption, .str "/o")])]

/-- The origins of the diagnostics of an output, and whether its program is empty. -/
def summary : Reply → Option (List LogOrigin × Bool)
  | .done output => some (output.diagnostics.map LogEntry.origin, output.program.isEmpty)
  | .failed _ => none

end Sample

/-- A faulty project is made with a dump that fails, and one of its files is translated. -/
def History.faultyProject : List Event :=
  [.ask (.compile (Sample.dumpRequest Sample.manifest)),
    .ask (.compile (Sample.request Sample.firstFile)), .move .take, .move .take,
    .move (.finish 1), .move (.finish 0)]

/-- The manifest gets the warning, the findings and no program, the file of the project gets a
program and none of the diagnostics. -/
theorem History.reports_faultyProject :
    ∃ history output, (start ()).run? Sample.faultyHost .standard faultyProject = some history ∧
      history.actor.replies.map (fun reply => (reply.1, Sample.summary reply.2)) =
        [(1, some ([], false)), (0, some ([.service, .frontEnd, .frontEnd], true))] ∧
      (0, .done output) ∈ history.actor.replies ∧
      ∃ payload job taking doing,
        Produces Sample.faultyHost .standard () faultyProject history 0 payload job output taking
          doing ∧
        job.Reports (taking.actor.session.store.decide .standard job.task.file).rebuilds
          (Work.heard (Work.prepare Sample.faultyHost.overheard .standard payload)
            taking.actor.session)
          (job.heard Sample.faultyHost doing.actor.session.world) output := by
  have hpossible :
      ((start ()).run? Sample.faultyHost .standard faultyProject).isSome = true := by
    decide +kernel
  obtain ⟨history, hrun⟩ := Option.isSome_iff_exists.1 hpossible
  have hseen : ((start ()).run? Sample.faultyHost .standard faultyProject).all (fun history =>
      history.actor.replies.map (fun reply => (reply.1, Sample.summary reply.2)) ==
        [(1, some ([], false)), (0, some ([.service, .frontEnd, .frontEnd], true))]) = true := by
    decide +kernel
  rw [hrun, Option.all_some, beq_iff_eq] at hseen
  have hsecond : (0, some ([LogOrigin.service, .frontEnd, .frontEnd], true)) ∈
      history.actor.replies.map fun reply => (reply.1, Sample.summary reply.2) := by
    rw [hseen]
    exact List.mem_cons_of_mem _ List.mem_cons_self
  obtain ⟨⟨ticket, reply⟩, hreply, hsummary⟩ := List.mem_map.1 hsecond
  cases reply with
  | failed error => cases hsummary
  | done output =>
      obtain ⟨rfl, -⟩ := Prod.mk.inj hsummary
      exact ⟨history, output, hrun, hseen, hreply,
        (reports_throughout Sample.faultyHost .standard).2 () faultyProject history hrun 0
          output hreply⟩

end CompileServer
