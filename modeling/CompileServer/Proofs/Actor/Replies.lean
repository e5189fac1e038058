import CompileServer.Proofs.Actor.Waiting
import CompileServer.Proofs.Compile.Sample
import Mathlib.Data.List.Perm.Basic

/-!
# Replies of the actor

The replies and the jobs in flight together account for the requests that the actor
took, one for each.  The messages in the mailbox account for nothing: a run is the same
without the messages that it never takes.
-/

namespace CompileServer

/-- The ticket of a request to compile a file. -/
def Message.compileTicket? : Message → Option Ticket
  | .compile ticket _ => some ticket
  | _ => none

namespace History

variable {σ α : Type} {host : Host σ α} {kinds : SourceKinds}

/-- The number of replies to a request. -/
def replyCount (history : History σ α) (ticket : Ticket) : Nat :=
  (history.actor.replies.map Prod.fst).count ticket

/-- The number of jobs in flight for a request. -/
def jobCount (history : History σ α) (ticket : Ticket) : Nat :=
  (history.actor.inFlight.map Prod.fst).count ticket

/-- The number of times that a request was taken. -/
def takenCount (history : History σ α) (ticket : Ticket) : Nat :=
  (history.taken.filterMap Message.compileTicket?).count ticket

/-- What is true of every history, whatever the host does. -/
structure Accounted (history : History σ α) : Prop where
  split : history.IsSplit
  numbered : ∀ (position : Nat) message, history.arrived[position]? = some message →
    ∃ errand : Errand, message = errand.message position
  counted : ∀ ticket,
    history.replyCount ticket + history.jobCount ticket = history.takenCount ticket
  sent : history.sent.map Prod.snd = history.actor.replies
  senders : ∀ entry ∈ history.sent,
    entry.1 = .actor ∨ entry.1 = .translation entry.2.1
  idle : history.actor.phase = .stopped → history.actor.inFlight = []
  caused : history.actor.phase = .running ↔ history.cause = none
  deserted : history.cause = some .deserted →
    history.actor.abandoned = true ∧ history.actor.mailbox = []

theorem accounted_start (world : σ) : (start world : History σ α).Accounted where
  split := rfl
  numbered _ _ hmessage := by cases hmessage
  counted _ := rfl
  sent := rfl
  senders _ hentry := by cases hentry
  idle _ := rfl
  caused := ⟨fun _ => rfl, fun _ => rfl⟩
  deserted hcause := by cases hcause

theorem forall_mem_concat {β : Type} {property : β → Prop} {entries : List β} {last : β}
    (hentries : ∀ entry ∈ entries, property entry) (hlast : property last) :
    ∀ entry ∈ entries ++ [last], property entry := by
  intro entry hentry
  rcases List.mem_append.1 hentry with hentry | hentry
  · exact hentries entry hentry
  · cases List.mem_singleton.1 hentry
    exact hlast

theorem count_eraseIdx {entries : List (Ticket × Job α)} {position : Nat} {ticket : Ticket}
    {job : Job α} (hjob : entries[position]? = some (ticket, job)) (other : Ticket) :
    (entries.map Prod.fst).count other =
      ((entries.eraseIdx position).map Prod.fst).count other + [ticket].count other := by
  obtain ⟨hlt, hentry⟩ := List.getElem?_eq_some_iff.1 hjob
  have hperm := (List.getElem_cons_eraseIdx_perm hlt).map Prod.fst
  rw [← hperm.count_eq, hentry, List.map_cons, List.count_cons, List.count_singleton]

variable {before after : History σ α} {event : Event}

theorem Accounted.numbered_step (haccounted : before.Accounted)
    (hstep : Step host kinds before event after) (position : Nat) (message : Message)
    (hmessage : after.arrived[position]? = some message) :
    ∃ errand : Errand, message = errand.message position := by
  have hnumbered := haccounted.numbered position message
  cases hstep with
  | asked errand =>
      rcases Nat.lt_trichotomy position before.arrived.length with hlt | rfl | hgt
      · rw [List.getElem?_append_left hlt] at hmessage
        exact hnumbered hmessage
      · rw [List.getElem?_concat_length] at hmessage
        cases hmessage
        exact ⟨errand, rfl⟩
      · rw [List.getElem?_eq_none (by simp; omega)] at hmessage
        cases hmessage
  | refused | cancelled | abandoned | rejected | started | shown | told | finished
  | drained | stopped => exact hnumbered hmessage

theorem counted_step (hstep : Step host kinds before event after) {ticket : Ticket}
    (hcounted : before.replyCount ticket + before.jobCount ticket = before.takenCount ticket) :
    after.replyCount ticket + after.jobCount ticket = after.takenCount ticket := by
  simp only [replyCount, jobCount, takenCount] at hcounted ⊢
  cases hstep with
  | rejected | started =>
      simp only [List.map_append, List.map_cons, List.map_nil, List.filterMap_append,
        List.filterMap_cons, List.filterMap_nil, Message.compileTicket?, List.count_append]
      omega
  | shown | told =>
      simp only [List.filterMap_append, List.filterMap_cons, List.filterMap_nil,
        Message.compileTicket?, List.append_nil]
      exact hcounted
  | finished hjob =>
      rw [count_eraseIdx hjob ticket] at hcounted
      simp only [List.map_append, List.count_append, List.map_cons, List.map_nil]
      omega
  | refused | asked | cancelled | abandoned | drained | stopped => exact hcounted

theorem Accounted.senders_step (haccounted : before.Accounted)
    (hstep : Step host kinds before event after) :
    after.sent.map Prod.snd = after.actor.replies ∧
      ∀ entry ∈ after.sent, entry.1 = .actor ∨ entry.1 = .translation entry.2.1 := by
  have hsent := haccounted.sent
  have hsenders := haccounted.senders
  cases hstep with
  | rejected =>
      refine ⟨?_, forall_mem_concat hsenders (Or.inl rfl)⟩
      rw [List.map_append, hsent]
      rfl
  | finished =>
      refine ⟨?_, forall_mem_concat hsenders (Or.inr rfl)⟩
      rw [List.map_append, hsent]
      rfl
  | refused | asked | cancelled | abandoned | started | shown | told | drained | stopped =>
      exact ⟨hsent, hsenders⟩

/-- An actor that is gone has no job in flight. -/
theorem idle_step (hstep : Step host kinds before event after)
    (hidle : before.actor.phase = .stopped → before.actor.inFlight = [])
    (hstopped : after.actor.phase = .stopped) : after.actor.inFlight = [] := by
  cases hstep with
  | rejected htakes | started htakes | shown htakes | told htakes =>
      rw [htakes.running] at hstopped
      cases hstopped
  | finished hjob =>
      rw [hidle hstopped] at hjob
      cases hjob
  | drained => cases hstopped
  | stopped _ hidle => exact hidle
  | refused | asked | cancelled | abandoned => exact hidle hstopped

/-- What one step preserves. -/
theorem Accounted.step (haccounted : before.Accounted)
    (hstep : Step host kinds before event after) : after.Accounted where
  split := haccounted.split.step hstep
  numbered := haccounted.numbered_step hstep
  counted ticket := counted_step hstep (haccounted.counted ticket)
  sent := (haccounted.senders_step hstep).1
  senders := (haccounted.senders_step hstep).2
  idle := idle_step hstep haccounted.idle
  caused := by
    have hcaused := haccounted.caused
    cases hstep with
    | drained => exact iff_of_false Phase.noConfusion (Option.some_ne_none _)
    | stopped hdraining =>
        rw [hdraining] at hcaused
        exact iff_of_false Phase.noConfusion fun hnone => Phase.noConfusion (hcaused.2 hnone)
    | refused | asked | cancelled | abandoned | rejected | started | shown | told | finished =>
        exact hcaused
  deserted := by
    intro hcause
    have hdeserted := haccounted.deserted
    have hcaused := haccounted.caused
    cases hstep with
    | asked errand hopen =>
        have habandoned := (hdeserted hcause).1
        simp [Actor.isOpen, habandoned] at hopen
    | rejected htakes | started htakes | shown htakes | told htakes =>
        have hnone := hcaused.1 htakes.running
        exact absurd (hnone.symm.trans hcause) (by simp)
    | drained _ hallowed =>
        rcases hallowed with hcancelled | hempty
        · rw [hcancelled] at hcause
          cases hcause
        · exact hempty
    | abandoned => exact ⟨rfl, (hdeserted hcause).2⟩
    | refused | cancelled | finished | stopped => exact hdeserted hcause

/-- What a run preserves. -/
theorem accounted_of_run {world : σ} {events : List Event} {history : History σ α}
    (hrun : (start world).run? host kinds events = some history) : history.Accounted :=
  run?_preserves Accounted.step (accounted_start world) hrun

theorem compileTicket?_message {errand : Errand} {position ticket : Ticket}
    (hticket : (errand.message position).compileTicket? = some ticket) : position = ticket := by
  cases errand <;> cases hticket
  rfl

/-- No two requests share a ticket. -/
theorem Accounted.count_le_one {history : History σ α} (haccounted : history.Accounted)
    (ticket : Ticket) :
    (history.arrived.filterMap Message.compileTicket?).count ticket ≤ 1 := by
  refine List.nodup_iff_count.1 (List.pairwise_filterMap.2 ?_) ticket
  refine List.pairwise_iff_getElem.2 fun i j hi hj hlt first hfirst second hsecond => ?_
  obtain ⟨left, hleft⟩ := haccounted.numbered i _ (List.getElem?_eq_getElem hi)
  obtain ⟨right, hright⟩ := haccounted.numbered j _ (List.getElem?_eq_getElem hj)
  rw [hleft] at hfirst
  rw [hright] at hsecond
  rw [← compileTicket?_message hfirst, ← compileTicket?_message hsecond]
  exact Nat.ne_of_lt hlt

theorem count_pos_of_compile {messages : List Message} {ticket : Ticket} {payload : Json}
    (hmem : Message.compile ticket payload ∈ messages) :
    0 < (messages.filterMap Message.compileTicket?).count ticket :=
  List.count_pos_iff.2 (List.mem_filterMap.2 ⟨_, hmem, rfl⟩)

theorem Accounted.takenCount_add {history : History σ α} (haccounted : history.Accounted)
    (ticket : Ticket) :
    history.takenCount ticket +
      (history.actor.mailbox.filterMap Message.compileTicket?).count ticket ≤ 1 := by
  have hle := haccounted.count_le_one ticket
  rw [haccounted.split, List.filterMap_append, List.count_append] at hle
  exact hle

/-- A request that was taken has a reply or a job, and not both. -/
theorem Accounted.of_taken {history : History σ α} (haccounted : history.Accounted)
    {ticket : Ticket} {payload : Json} (htaken : .compile ticket payload ∈ history.taken) :
    history.replyCount ticket + history.jobCount ticket = 1 := by
  have hle := haccounted.takenCount_add ticket
  have hpos : 0 < history.takenCount ticket := count_pos_of_compile htaken
  rw [haccounted.counted]
  omega

/-- A request that has a reply has no other one. -/
theorem Accounted.replyCount_eq_one {history : History σ α} (haccounted : history.Accounted)
    {ticket : Ticket} {reply : Reply} (hreply : (ticket, reply) ∈ history.actor.replies) :
    history.replyCount ticket = 1 := by
  have hle := haccounted.takenCount_add ticket
  have hcounted := haccounted.counted ticket
  have hpos : 0 < history.replyCount ticket :=
    List.count_pos_iff.2 (List.mem_map.2 ⟨_, hreply, rfl⟩)
  omega

/-- A request that waits has neither. -/
theorem Accounted.of_waiting {history : History σ α} (haccounted : history.Accounted)
    {ticket : Ticket} {payload : Json}
    (hwaiting : .compile ticket payload ∈ history.actor.mailbox) :
    history.replyCount ticket = 0 ∧ history.jobCount ticket = 0 := by
  have hle := haccounted.takenCount_add ticket
  have hpos := count_pos_of_compile hwaiting
  have hcounted := haccounted.counted ticket
  omega

/-- What is true at every moment of a run. -/
structure Account (host : Host σ α) (kinds : SourceKinds) (world : σ) (events : List Event)
    (history : History σ α) : Prop where
  /-- The messages that were taken are the first that arrived. -/
  taken_first : history.taken ++ history.actor.mailbox = history.arrived
  /-- A request that was taken has one reply or one job in flight, and not both. -/
  one_each : ∀ ticket payload, .compile ticket payload ∈ history.taken →
    history.replyCount ticket + history.jobCount ticket = 1
  /-- What was sent are the replies of the actor. -/
  sent_replies : history.sent.map Prod.snd = history.actor.replies
  /-- A reply is sent by the actor or by the job of the same request. -/
  sent_by : ∀ sender ticket reply, (sender, ticket, reply) ∈ history.sent →
    sender = .actor ∨ sender = .translation ticket
  /-- The actor is not gone while a job is in flight. -/
  stopped_idle : history.actor.phase = .stopped → history.actor.inFlight = []
  /-- When the actor is gone, every request that was taken has exactly one reply. -/
  stopped_replied : history.actor.phase = .stopped →
    ∀ ticket payload, .compile ticket payload ∈ history.taken → history.replyCount ticket = 1
  /-- A request that waits has no reply and no job. -/
  waiting_unanswered : ∀ ticket payload, .compile ticket payload ∈ history.actor.mailbox →
    history.replyCount ticket = 0 ∧ history.jobCount ticket = 0
  /-- Without the messages that wait, the same events lead to the same session, the same
  world and the same replies. -/
  waiting_unseen :
    (start world).run? host kinds (Event.firstAsks history.taken.length events) =
      some { history with
        actor := { history.actor with mailbox := [] }
        arrived := history.taken }
  /-- An actor that stopped because nobody could send any more has taken every message. -/
  deserted_taken : history.cause = some .deserted → history.taken = history.arrived

/-- Every run of the actor can be accounted for, whatever the host does and whenever the
actor is told to stop. -/
theorem account_of_run {world : σ} {events : List Event} {history : History σ α}
    (hrun : (start world).run? host kinds events = some history) :
    Account host kinds world events history := by
  have haccounted := accounted_of_run hrun
  have hsplit : history.arrived = history.taken ++ history.actor.mailbox := haccounted.split
  exact {
    taken_first := hsplit.symm
    one_each := fun _ _ htaken => haccounted.of_taken htaken
    sent_replies := haccounted.sent
    sent_by := fun _ _ _ hsent => haccounted.senders _ hsent
    stopped_idle := haccounted.idle
    stopped_replied := by
      intro hstopped ticket payload htaken
      have hone := haccounted.of_taken htaken
      rwa [jobCount, haccounted.idle hstopped] at hone
    waiting_unanswered := fun _ _ hwaiting => haccounted.of_waiting hwaiting
    waiting_unseen := run?_firstAsks hrun
    deserted_taken := by
      intro hcause
      rw [hsplit, (haccounted.deserted hcause).2, List.append_nil] }

/-- A job that breaks off, a request that is refused, and one that is never taken because
the actor is told to stop. -/
def stopWhileBusy : List Event :=
  [.ask (.compile (Sample.request Sample.manifest)),
    .ask (.compile (Sample.request Sample.secondFile)),
    .ask (.compile (Sample.request ⟨"/q/C.fs"⟩)), .move .take, .move .take, .move .take,
    .ask (.compile (Sample.request Sample.firstFile)), .cancel, .move .drain,
    .move (.finish 1), .move (.finish 0), .move .stop]

/-- All three requests that were taken have their replies when the actor is gone. -/
theorem account_stopWhileBusy :
    ∃ history, (start ()).run? Sample.host .standard stopWhileBusy = some history ∧
      history.actor.phase = .stopped ∧ history.actor.replies.map Prod.fst = [2, 1, 0] ∧
      history.actor.mailbox.length = 1 ∧
      Account Sample.host .standard () stopWhileBusy history := by
  have hpossible : ((start ()).run? Sample.host .standard stopWhileBusy).isSome = true := by
    decide +kernel
  obtain ⟨history, hrun⟩ := Option.isSome_iff_exists.1 hpossible
  have hseen : ((start ()).run? Sample.host .standard stopWhileBusy).all (fun history =>
      history.actor.phase == .stopped && history.actor.replies.map Prod.fst == [2, 1, 0] &&
      history.actor.mailbox.length == 1) = true := by
    decide +kernel
  rw [hrun, Option.all_some] at hseen
  simp only [Bool.and_eq_true, beq_iff_eq] at hseen
  exact ⟨history, hrun, hseen.1.1, hseen.1.2, hseen.2, account_of_run hrun⟩

end History

end CompileServer
