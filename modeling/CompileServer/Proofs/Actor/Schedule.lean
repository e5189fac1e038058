import CompileServer.Proofs.Actor.Replies
import CompileServer.Proofs.Compile.Sample

/-!
# Schedules

When the answers of the host are fixed, the schedule of the actor does not show.  Jobs
leave the session alone and come to the same whenever they are done, so the session is
that of the messages taken one at a time, and every job in flight is the one that its
request became at its own time.
-/

namespace CompileServer

/-- The ticket of a request for a snapshot. -/
def Message.snapshotTicket? : Message → Option Ticket
  | .snapshot ticket => some ticket
  | _ => none

namespace History

variable {α δ : Type}

/-- The state of a run is that of the messages taken one at a time. -/
structure Sequenced (host : Host δ α) (kinds : SourceKinds) (disk : δ)
    (history : History δ α) : Prop where
  session : history.actor.session = Session.after host kinds disk history.taken
  replies : ∀ entry ∈ history.actor.replies,
    Session.Replies host kinds disk history.taken entry.1 entry.2
  jobs : ∀ entry ∈ history.actor.inFlight,
    Session.Prepares host kinds disk history.taken entry.1 entry.2
  shown : ∀ entry ∈ history.actor.shown,
    Session.Shows host kinds disk history.taken entry.1 entry.2
  allShown : history.actor.shown.map Prod.fst =
    history.taken.filterMap Message.snapshotTicket?

theorem sequenced_start (host : Host δ α) (kinds : SourceKinds) (disk : δ) :
    Sequenced host kinds disk (start disk) where
  session := rfl
  replies _ hentry := by cases hentry
  jobs _ hentry := by cases hentry
  shown _ hentry := by cases hentry
  allShown := rfl

/-- The ticket of the next message is the number of the messages before it. -/
theorem Accounted.next_message {σ : Type} {history : History σ α}
    (haccounted : history.Accounted) {message : Message} {rest : List Message}
    (htakes : history.actor.Takes message rest) :
    ∃ errand : Errand, message = errand.message history.taken.length := by
  refine haccounted.numbered _ _ ?_
  rw [haccounted.split, htakes.waiting, List.getElem?_append_right (Nat.le_refl _),
    Nat.sub_self]
  rfl

theorem take_concat (messages : List Message) (message : Message) :
    (messages ++ [message]).take messages.length = messages := by
  rw [List.take_append_of_le_length (Nat.le_refl _), List.take_length]

theorem snapshotTickets_concat {messages : List Message} {message : Message}
    (hnone : message.snapshotTicket? = none) :
    (messages ++ [message]).filterMap Message.snapshotTicket? =
      messages.filterMap Message.snapshotTicket? := by
  rw [List.filterMap_append, List.filterMap_cons_none hnone, List.filterMap_nil,
    List.append_nil]

variable {answers : Answers α} {saving : Saving δ} {kinds : SourceKinds} {disk : δ}
  {before after : History δ α} {event : Event}

/-- A job gives the reply of its request, whenever it is done. -/
theorem replies_of_prepares {messages : List Message} {ticket : Ticket} {job : Job α}
    (hprepares : Session.Prepares (answers.host saving) kinds disk messages ticket job) :
    Session.Replies (answers.host saving) kinds disk messages ticket (answers.reply job) := by
  obtain ⟨payload, hmessage, hjob⟩ := hprepares
  refine ⟨payload, hmessage, ?_⟩
  rw [Session.answer_of_job (Prod.ext hjob rfl)]

/-- What one step preserves. -/
theorem Sequenced.step (haccounted : before.Accounted)
    (hsequenced : Sequenced (answers.host saving) kinds disk before)
    (hstep : Step (answers.host saving) kinds before event after) :
    Sequenced (answers.host saving) kinds disk after := by
  have hsession := hsequenced.session
  have hreplies := fun message entry h => (hsequenced.replies entry h).later [message]
  have hjobs := fun message entry h => (hsequenced.jobs entry h).later [message]
  have hshown := fun message entry h => (hsequenced.shown entry h).later [message]
  cases hstep with
  | refused | asked | cancelled | abandoned | drained | stopped =>
      exact ⟨hsession, hsequenced.replies, hsequenced.jobs, hsequenced.shown,
        hsequenced.allShown⟩
  | @rejected ticket payload rest reply session htakes hprepared =>
      obtain ⟨errand, herrand⟩ := haccounted.next_message htakes
      cases errand <;> cases herrand
      rw [hsession] at hprepared
      refine ⟨?_, ?_, ?_, ?_, ?_⟩
      · rw [Session.after_concat, Session.serve, Session.answer_of_reply hprepared]
      · refine forall_mem_concat (hreplies _) ?_
        refine ⟨payload, List.getElem?_concat_length, ?_⟩
        rw [take_concat, Session.answer_of_reply hprepared]
      · exact hjobs _
      · exact hshown _
      · exact hsequenced.allShown.trans (snapshotTickets_concat rfl).symm
  | @started ticket payload rest job session htakes hprepared =>
      obtain ⟨errand, herrand⟩ := haccounted.next_message htakes
      cases errand <;> cases herrand
      rw [hsession] at hprepared
      refine ⟨?_, ?_, ?_, ?_, ?_⟩
      · rw [Session.after_concat, Session.serve, Session.answer_of_job hprepared]
      · exact hreplies _
      · refine forall_mem_concat (hjobs _) ?_
        refine ⟨payload, List.getElem?_concat_length, ?_⟩
        rw [take_concat, hprepared]
      · exact hshown _
      · exact hsequenced.allShown.trans (snapshotTickets_concat rfl).symm
  | @shown ticket rest htakes =>
      obtain ⟨errand, herrand⟩ := haccounted.next_message htakes
      cases errand <;> cases herrand
      refine ⟨?_, ?_, ?_, ?_, ?_⟩
      · rw [Session.after_concat]
        exact hsession
      · exact hreplies _
      · exact hjobs _
      · refine forall_mem_concat (hshown _) ?_
        refine ⟨List.getElem?_concat_length, ?_⟩
        rw [take_concat, ← hsession]
      · simpa [Message.snapshotTicket?] using hsequenced.allShown
  | @told rest htakes =>
      refine ⟨?_, ?_, ?_, ?_, ?_⟩
      · rw [Session.after_concat]
        exact hsession
      · exact hreplies _
      · exact hjobs _
      · exact hshown _
      · exact hsequenced.allShown.trans (snapshotTickets_concat rfl).symm
  | @finished position ticket job reply world hjob hrun =>
      rw [answers.run_host] at hrun
      cases hrun
      have hprepares := hsequenced.jobs _ (List.mem_of_getElem? hjob)
      refine ⟨hsession, ?_, ?_, hsequenced.shown, hsequenced.allShown⟩
      · exact forall_mem_concat hsequenced.replies (replies_of_prepares hprepares)
      · exact fun entry h => hsequenced.jobs entry (List.mem_of_mem_eraseIdx h)

/-- What a run preserves. -/
theorem sequenced_of_run {events : List Event} {history : History δ α}
    (hrun : (start disk).run? (answers.host saving) kinds events = some history) :
    Sequenced (answers.host saving) kinds disk history := by
  have hboth : history.Accounted ∧ Sequenced (answers.host saving) kinds disk history := by
    refine run?_preserves (motive := fun history =>
      history.Accounted ∧ Sequenced (answers.host saving) kinds disk history) ?_ ?_ hrun
    · rintro before after event ⟨haccounted, hsequenced⟩ hstep
      exact ⟨haccounted.step hstep, hsequenced.step haccounted hstep⟩
    · exact ⟨accounted_start disk, sequenced_start _ kinds disk⟩
  exact hboth.2

/-- What does not depend on the schedule of a run. -/
structure Scheduled (host : Host δ α) (kinds : SourceKinds) (disk : δ)
    (history : History δ α) : Prop where
  /-- A reply is the one that the request gets when the messages are handled one at a time
  and each request is translated at once. -/
  replies : ∀ ticket reply, (ticket, reply) ∈ history.actor.replies →
    Session.Replies host kinds disk history.arrived ticket reply
  /-- A store that is shown is the one after exactly the messages before. -/
  shown : ∀ ticket store, (ticket, store) ∈ history.actor.shown →
    Session.Shows host kinds disk history.arrived ticket store
  /-- A job in flight has the project, with its generation, and the task that its request
  became at its own time, whatever was done to the project since. -/
  jobs : ∀ ticket job, (ticket, job) ∈ history.actor.inFlight →
    Session.Prepares host kinds disk history.arrived ticket job
  /-- The session is that of the messages taken one at a time. -/
  session : history.actor.session = Session.after host kinds disk history.taken
  /-- When nothing waits and nothing is in flight, every request has its reply. -/
  all_replied : history.actor.mailbox = [] → history.actor.inFlight = [] →
    ∀ ticket payload, .compile ticket payload ∈ history.arrived →
      history.replyCount ticket = 1
  /-- When nothing waits, every request for a snapshot has been shown its store. -/
  all_shown : history.actor.mailbox = [] →
    history.actor.shown.map Prod.fst = history.arrived.filterMap Message.snapshotTicket?
  /-- When nothing waits, the store and the plugins are those after all messages. -/
  final : history.actor.mailbox = [] →
    history.actor.session.store = (Session.after host kinds disk history.arrived).store ∧
    history.actor.session.plugins = (Session.after host kinds disk history.arrived).plugins

/-- With fixed answers, no schedule of the actor makes a difference. -/
theorem scheduled_of_run {events : List Event} {history : History δ α}
    (hrun : (start disk).run? (answers.host saving) kinds events = some history) :
    Scheduled (answers.host saving) kinds disk history := by
  have hsequenced := sequenced_of_run hrun
  have haccounted := accounted_of_run hrun
  have hsplit : history.arrived = history.taken ++ history.actor.mailbox := haccounted.split
  have hall : history.actor.mailbox = [] → history.taken = history.arrived := by
    intro hempty
    rw [hsplit, hempty, List.append_nil]
  exact {
    replies := fun _ _ hreply => hsplit ▸ (hsequenced.replies _ hreply).later _
    shown := fun _ _ hshown => hsplit ▸ (hsequenced.shown _ hshown).later _
    jobs := fun _ _ hjob => hsplit ▸ (hsequenced.jobs _ hjob).later _
    session := hsequenced.session
    all_replied := by
      intro hempty hidle ticket payload harrived
      rw [← hall hempty] at harrived
      have hone := haccounted.of_taken harrived
      rwa [jobCount, hidle] at hone
    all_shown := by
      intro hempty
      rw [← hall hempty]
      exact hsequenced.allShown
    final := by
      intro hempty
      rw [← hall hempty, ← hsequenced.session]
      exact ⟨rfl, rfl⟩ }

/-- Two requests for a file of a project, with a snapshot between them.  The second one has
the project checked again, and its job is done first. -/
def laterJobFirst : List Event :=
  [.ask (.compile (Sample.request Sample.manifest)),
    .ask (.compile (Sample.request Sample.firstFile)), .ask .snapshot,
    .ask (.compile (Sample.request Sample.firstFile)), .move .take, .move .take, .move .take,
    .move .take, .move (.finish 2), .move (.finish 0)]

/-- The job that is left has the first analysis of its project, though there is a second. -/
theorem scheduled_laterJobFirst :
    ∃ history, (start ()).run? Sample.host .standard laterJobFirst = some history ∧
      history.actor.replies.map Prod.fst = [3, 0] ∧
      (history.actor.inFlight.map fun entry => (entry.1, entry.2.project.generation)) =
        [(1, 1)] ∧
      history.actor.session.analyses = 2 ∧
      Scheduled Sample.host .standard () history := by
  have hpossible : ((start ()).run? Sample.host .standard laterJobFirst).isSome = true := by
    decide +kernel
  obtain ⟨history, hrun⟩ := Option.isSome_iff_exists.1 hpossible
  have hseen : ((start ()).run? Sample.host .standard laterJobFirst).all (fun history =>
      history.actor.replies.map Prod.fst == [3, 0] &&
      (history.actor.inFlight.map fun entry => (entry.1, entry.2.project.generation)) ==
        [(1, 1)] && history.actor.session.analyses == 2) = true := by
    decide +kernel
  rw [hrun, Option.all_some] at hseen
  simp only [Bool.and_eq_true, beq_iff_eq] at hseen
  exact ⟨history, hrun, hseen.1.1, hseen.1.2, hseen.2, scheduled_of_run hrun⟩

end History

end CompileServer
