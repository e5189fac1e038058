import CompileServer.Proofs.Actor.Delivery
import CompileServer.Proofs.Actor.Reports
import CompileServer.Proofs.Compile.Membership

/-!
# Filing the requests of the actor

The requests that the actor takes are a docket: translations and messages of other kinds only
change the world between them.  What holds of dockets therefore holds of the store and the
replies of every run of the actor.
-/

namespace CompileServer

variable {σ α : Type} {host : Host σ α} {kinds : SourceKinds}

/-- The request of a history is the one that was filed: it was refused with its fault, or its job
is in flight or was done. -/
def Filed.Follows (host : Host σ α) (history : History σ α) (request : Ticket × Json)
    (filed : Filed σ α) : Prop :=
  filed.payload = request.2 ∧
    match filed.outcome with
    | .error fault => (request.1, fault.reply) ∈ history.actor.replies
    | .ok job => (request.1, job) ∈ history.actor.inFlight ∨
      ∃ world, (request.1, (job.run host world).1) ∈ history.actor.replies

/-- The requests that were taken are those of the docket, and the sessions agree but for the
world. -/
structure Docket.Follows (host : Host σ α) (history : History σ α) (docket : Docket σ α) :
    Prop where
  session : { docket.session with world := history.actor.session.world } = history.actor.session
  requests : List.Forall₂ (Filed.Follows host history)
    (history.taken.filterMap Message.request?) docket.past

namespace History

variable {before after : History σ α} {event : Event}

theorem replies_step (hstep : Step host kinds before event after) :
    ∀ reply ∈ before.actor.replies, reply ∈ after.actor.replies := by
  intro reply hreply
  cases hstep with
  | rejected | finished => exact List.mem_append_left _ hreply
  | refused | asked | cancelled | abandoned | started | shown | told | drained | stopped =>
      exact hreply

/-- A job stays in flight until it is done. -/
theorem inFlight_step (hstep : Step host kinds before event after) {ticket : Ticket}
    {job : Job α} (hjob : (ticket, job) ∈ before.actor.inFlight) :
    (ticket, job) ∈ after.actor.inFlight ∨
      ∃ world, (ticket, (job.run host world).1) ∈ after.actor.replies := by
  cases hstep with
  | started => exact Or.inl (List.mem_append_left _ hjob)
  | @finished position other otherJob reply world hother hrun =>
      obtain ⟨index, hindex⟩ := List.mem_iff_getElem?.1 hjob
      by_cases hsame : index = position
      · rw [hsame, hother] at hindex
        cases hindex
        right
        refine ⟨before.actor.session.world, ?_⟩
        rw [hrun]
        exact List.mem_append_right _ List.mem_cons_self
      · left
        exact List.mem_eraseIdx_iff_getElem?.2 ⟨index, hsame, hindex⟩
  | refused | asked | cancelled | abandoned | rejected | shown | told | drained | stopped =>
      exact Or.inl hjob

theorem follows_step {request : Ticket × Json} {filed : Filed σ α}
    (hfollows : filed.Follows host before request)
    (hstep : Step host kinds before event after) : filed.Follows host after request := by
  obtain ⟨hpayload, houtcome⟩ := hfollows
  refine ⟨hpayload, ?_⟩
  cases hresult : filed.outcome with
  | error fault =>
      rw [hresult] at houtcome
      exact replies_step hstep _ houtcome
  | ok job =>
      rw [hresult] at houtcome
      rcases houtcome with hjob | ⟨world, hreply⟩
      · exact inFlight_step hstep hjob
      · exact Or.inr ⟨world, replies_step hstep _ hreply⟩

end History

namespace Docket

open History

variable {before after : History σ α} {event : Event} {docket : Docket σ α}

theorem follows_start (host : Host σ α) (world : σ) :
    (start world : Docket σ α).Follows host (History.start world) :=
  ⟨rfl, .nil⟩

/-- What is no request is not filed. -/
theorem Follows.unfiled (hfollows : docket.Follows host before)
    (hstep : Step host kinds before event after)
    (htaken : after.taken.filterMap Message.request? =
      before.taken.filterMap Message.request?)
    (hsession : after.actor.session =
      { before.actor.session with world := after.actor.session.world }) :
    docket.Follows host after where
  session := by rw [hsession, ← hfollows.session]
  requests := by
    rw [htaken]
    exact hfollows.requests.imp fun _ _ hfiled => follows_step hfiled hstep

/-- A request that is taken is filed next. -/
theorem Follows.file (hfollows : docket.Follows host before)
    (hstep : Step host kinds before event after) {ticket : Ticket} {payload : Json}
    {outcome : Except Fault (Job α)}
    (hprepared : Work.prepare host kinds payload before.actor.session =
      (outcome, after.actor.session))
    (htaken : after.taken.filterMap Message.request? =
      before.taken.filterMap Message.request? ++ [(ticket, payload)])
    (houtcome : match outcome with
      | .error fault => (ticket, fault.reply) ∈ after.actor.replies
      | .ok job => (ticket, job) ∈ after.actor.inFlight) :
    ∃ letter, (docket.serve host kinds letter).Follows host after := by
  -- Jobs that were done in the meantime changed the world, so the letter brings the present one.
  refine ⟨⟨payload, before.actor.session.world⟩, ?_⟩
  have hopened : docket.opened ⟨payload, before.actor.session.world⟩ = before.actor.session :=
    hfollows.session
  constructor
  · simp only [serve, next, add, hopened, hprepared]
  · rw [htaken]
    apply List.rel_append
    · exact hfollows.requests.imp fun _ _ hold => follows_step hold hstep
    · apply List.Forall₂.cons _ .nil
      simp only [Filed.Follows, next, hopened, hprepared, true_and]
      cases outcome with
      | error fault => exact houtcome
      | ok job => exact Or.inl houtcome

/-- Each step of the actor files one request or none. -/
theorem Follows.step (hfollows : docket.Follows host before)
    (hstep : Step host kinds before event after) :
    docket.Follows host after ∨
      ∃ letter, (docket.serve host kinds letter).Follows host after := by
  cases hevent : hstep with
  | rejected _ hprepared =>
      right
      obtain ⟨fault, hprepare, rfl⟩ := Session.prepare_eq_error hprepared
      apply hfollows.file hstep hprepare
      · rw [List.filterMap_append]
        rfl
      · exact List.mem_append_right _ List.mem_cons_self
  | started _ hprepared =>
      right
      apply hfollows.file hstep (Session.prepare_eq_ok hprepared)
      · rw [List.filterMap_append]
        rfl
      · exact List.mem_append_right _ List.mem_cons_self
  | shown =>
      left
      apply hfollows.unfiled hstep _ rfl
      rw [List.filterMap_append]
      exact List.append_nil _
  | told =>
      left
      apply hfollows.unfiled hstep _ rfl
      rw [List.filterMap_append]
      exact List.append_nil _
  | refused | asked | cancelled | abandoned | finished | drained | stopped =>
      left
      exact hfollows.unfiled hstep rfl rfl

end Docket

namespace History

/-- The requests of a run of the actor are a docket. -/
theorem filed_of_run {world : σ} {events : List Event} {history : History σ α}
    (hrun : (start world).run? host kinds events = some history) :
    ∃ letters, (Docket.run host kinds world letters).Follows host history := by
  apply run?_preserves (motive := fun history =>
    ∃ letters, (Docket.run host kinds world letters).Follows host history) _ _ hrun
  · rintro before after event ⟨letters, hfollows⟩ hstep
    rcases hfollows.step hstep with hfollows | ⟨letter, hfollows⟩
    · exact ⟨letters, hfollows⟩
    · exact ⟨letters ++ [letter], by rw [Docket.run_concat]; exact hfollows⟩
  · exact ⟨[], Docket.follows_start host world⟩

/-- Over every run of requests, files belong to the projects that were last said to list them,
and this decides which requests are refused; the runs of the actor are of this kind. -/
theorem membership_throughout (host : Host σ α) (kinds : SourceKinds)
    (normalize : Path → Path) (hnormalize : ∀ world, host.normalize world = normalize) :
    (∀ (world : σ) (letters : List (Letter σ)),
      (Docket.run host kinds world letters).MembershipLaw host kinds normalize) ∧
      ∀ (world : σ) (events : List Event) (history : History σ α),
        (start world).run? host kinds events = some history →
        ∃ letters, (Docket.run host kinds world letters).Follows host history := by
  constructor
  · exact Docket.membershipLaw_run host kinds hnormalize
  · intro world events history hrun
    exact filed_of_run hrun

end History

namespace Sample

/-- The small host with a build tool that lists the second file at first only. -/
def changingHost : Host Nat Nat :=
  { answers.host fun _ _ _ => pure (.ok ()) with
    deriveOptions := fun defines project world =>
      (.ok (.ok ⟨project, if world = 0 then [firstFile, secondFile] else [firstFile], defines,
        .null⟩), world) }

/-- The outcome is that a file belongs to no project. -/
def isForeign : Except Fault (Job Nat) → Bool
  | .error (.rejected (.notInProject _ _)) => true
  | _ => false

theorem exists_of_isForeign {outcome : Except Fault (Job Nat)}
    (hforeign : isForeign outcome = true) :
    ∃ path projects, outcome = .error (.rejected (.notInProject path projects)) := by
  match outcome, hforeign with
  | .error (.rejected (.notInProject path projects)), _ => exact ⟨path, projects, rfl⟩

end Sample

/-- A file that the build tool no longer lists is refused after the project was asked for
again, and the run of the actor that does so is a docket. -/
theorem History.membership_dropped :
    let letters : List (Letter Nat) := [⟨Sample.request Sample.manifest, 0⟩,
      ⟨Sample.request Sample.secondFile, 0⟩, ⟨Sample.request Sample.manifest, 1⟩]
    let docket := Docket.run Sample.changingHost .standard 0 letters
    let letter : Letter Nat := ⟨Sample.request Sample.secondFile, 1⟩
    docket.listed Sample.manifest = [Sample.firstFile] ∧
      (docket.session.store.get? Sample.manifest).isSome = true ∧
      (∃ path projects, (docket.next Sample.changingHost .standard letter).outcome =
        .error (.rejected (.notInProject path projects)) ∧
        docket.session.store.Names projects) ∧
      (∀ key, (docket.session.store.get? key).isSome = true →
        ∀ listed ∈ docket.listed key, ¬ Sample.secondFile ≈ listed) ∧
      ∃ history moreLetters,
        (start 1).run? Sample.changingHost .standard
          [.ask (.compile (Sample.request Sample.secondFile)), .move .take] = some history ∧
        (Docket.run Sample.changingHost .standard 1 moreLetters).Follows Sample.changingHost
          history := by
  intro letters docket letter
  obtain ⟨hlaws, hfiled⟩ :=
    membership_throughout Sample.changingHost .standard id fun _ => rfl
  have hreceived : (Work.receive Sample.changingHost letter.payload
      (docket.opened letter)).1.toOption.map CompileTask.file = some Sample.secondFile := by
    decide +kernel
  have hforeign : Sample.isForeign
      (docket.next Sample.changingHost .standard letter).outcome = true := by
    decide +kernel
  have hpossible : ((start 1).run? Sample.changingHost .standard
      [.ask (.compile (Sample.request Sample.secondFile)), .move .take]).isSome = true := by
    decide +kernel
  obtain ⟨path, projects, hrefused⟩ := Sample.exists_of_isForeign hforeign
  obtain ⟨history, hrun⟩ := Option.isSome_iff_exists.1 hpossible
  obtain ⟨moreLetters, hfollows⟩ := hfiled 1 _ history hrun
  obtain ⟨task, htask, hfile⟩ := Option.map_eq_some_iff.1 hreceived
  rcases hreceive : (Work.receive Sample.changingHost letter.payload (docket.opened letter)).1 with
    fault | received
  all_goals
    rw [hreceive] at htask
    cases htask
  have hjudged := (hlaws 0 letters).judged letter task hreceive
  have hsource : SourceKinds.standard.classify task.file = .source := by
    rw [hfile]
    decide +kernel
  have hunlisted := (hjudged.source hsource).1 ⟨path, projects, hrefused⟩
  rw [hfile] at hunlisted
  exact ⟨by decide +kernel, by decide +kernel,
    ⟨path, projects, hrefused, (hjudged.refused path projects hrefused).2.1⟩, hunlisted,
    history, moreLetters, hrun, hfollows⟩

end CompileServer
