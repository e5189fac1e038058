import CompileServer.Proofs.Actor.Replies

/-!
# Messages with tickets of their senders

Whoever sends a message chooses the ticket that it waits under.  Whatever the tickets are,
the replies and the jobs in flight account for the requests that the actor took, a reply
goes back to a request under its ticket, and an actor that is gone changes no more.
-/

namespace CompileServer

variable {σ α : Type} {host : Host σ α} {kinds : SourceKinds}

/-- A payload becomes a job in some session. -/
def BecomesJob (host : Host σ α) (kinds : SourceKinds) (payload : Json) (job : Job α) : Prop :=
  ∃ before after : Session σ α, before.prepare host kinds payload = (.ok job, after)

/-- A reply that the actor gives to a payload: the request is refused, or it becomes a job
and the job is done later, in whatever world it finds then. -/
inductive RepliesTo (host : Host σ α) (kinds : SourceKinds) (payload : Json) : Reply → Prop where
  | refused {before after : Session σ α} {reply : Reply}
      (hprepared : before.prepare host kinds payload = (.error reply, after)) :
      RepliesTo host kinds payload reply
  | translated {job : Job α} {world later : σ} {reply : Reply}
      (hjob : BecomesJob host kinds payload job)
      (hrun : job.run host world = (reply, later)) : RepliesTo host kinds payload reply

/-- The ticket and the payload of a request. -/
def Message.request? : Message → Option (Ticket × Json)
  | .compile ticket payload => some (ticket, payload)
  | _ => none

theorem Message.mem_filterMap_request? {messages : List Message} {ticket : Ticket}
    {payload : Json} :
    (ticket, payload) ∈ messages.filterMap request? ↔ .compile ticket payload ∈ messages := by
  rw [List.mem_filterMap]
  constructor
  · rintro ⟨message, hmem, hrequest⟩
    cases message <;> cases hrequest
    exact hmem
  · intro hmem
    exact ⟨_, hmem, rfl⟩

/-- A reply that is found under a ticket was given. -/
theorem Actor.mem_replies {actor : Actor σ α} {ticket : Ticket} {reply : Reply}
    (hreply : actor.replyTo? ticket = some reply) : (ticket, reply) ∈ actor.replies := by
  obtain ⟨earlier, later, hreplies, -⟩ := List.lookup_eq_some_iff.1 hreply
  rw [hreplies]
  exact List.mem_append_right _ List.mem_cons_self

namespace History

/-- A message arrives that its sender made. -/
def deliver (history : History σ α) (message : Message) : History σ α :=
  if history.actor.isOpen then
    { history with
      actor := history.actor.send message
      arrived := history.arrived ++ [message] }
  else history

/-- What is true of every history, whatever the tickets are. -/
structure Kept (host : Host σ α) (kinds : SourceKinds) (history : History σ α) : Prop where
  split : history.IsSplit
  counted : ∀ ticket,
    history.replyCount ticket + history.jobCount ticket = history.takenCount ticket
  idle : history.actor.phase = .stopped → history.actor.inFlight = []
  working : ∀ ticket job, (ticket, job) ∈ history.actor.inFlight →
    ∃ payload, .compile ticket payload ∈ history.taken ∧ BecomesJob host kinds payload job
  replied : ∀ ticket reply, (ticket, reply) ∈ history.actor.replies →
    ∃ payload, .compile ticket payload ∈ history.taken ∧ RepliesTo host kinds payload reply

theorem kept_start (world : σ) : (start world : History σ α).Kept host kinds where
  split := rfl
  counted _ := rfl
  idle _ := rfl
  working _ _ hjob := by cases hjob
  replied _ _ hreply := by cases hreply

theorem Kept.deliver {history : History σ α} (hkept : history.Kept host kinds)
    (message : Message) : (history.deliver message).Kept host kinds := by
  simp only [History.deliver]
  split
  · rename_i hopen
    simp only [Actor.send, hopen, if_true]
    exact {
      split := by
        have hsplit := hkept.split
        simp only [IsSplit] at hsplit ⊢
        rw [hsplit, List.append_assoc]
      counted := hkept.counted
      idle := hkept.idle
      working := hkept.working
      replied := hkept.replied }
  · exact hkept

variable {before after : History σ α} {event : Event}

theorem mem_taken_step (hstep : Step host kinds before event after) {message : Message}
    (hmem : message ∈ before.taken) : message ∈ after.taken := by
  cases hstep with
  | rejected | started | shown | told => exact List.mem_append_left _ hmem
  | refused | asked | cancelled | abandoned | finished | drained | stopped => exact hmem

theorem Kept.working_step (hkept : before.Kept host kinds)
    (hstep : Step host kinds before event after) (ticket : Ticket) (job : Job α)
    (hjob : (ticket, job) ∈ after.actor.inFlight) :
    ∃ payload, .compile ticket payload ∈ after.taken ∧ BecomesJob host kinds payload job := by
  have hold : (ticket, job) ∈ before.actor.inFlight → ∃ payload,
      .compile ticket payload ∈ after.taken ∧ BecomesJob host kinds payload job := by
    intro hold
    obtain ⟨payload, htaken, hprepared⟩ := hkept.working ticket job hold
    exact ⟨payload, mem_taken_step hstep htaken, hprepared⟩
  cases hstep with
  | started htakes hprepared =>
      rcases List.mem_append.1 hjob with hjob | hjob
      · exact hold hjob
      · cases List.mem_singleton.1 hjob
        exact ⟨_, List.mem_append_right _ (List.mem_singleton.2 rfl), _, _, hprepared⟩
  | finished => exact hold (List.mem_of_mem_eraseIdx hjob)
  | refused | asked | cancelled | abandoned | rejected | shown | told | drained | stopped =>
      exact hold hjob

theorem Kept.replied_step (hkept : before.Kept host kinds)
    (hstep : Step host kinds before event after) (ticket : Ticket) (reply : Reply)
    (hreply : (ticket, reply) ∈ after.actor.replies) :
    ∃ payload, .compile ticket payload ∈ after.taken ∧ RepliesTo host kinds payload reply := by
  have hold : (ticket, reply) ∈ before.actor.replies → ∃ payload,
      .compile ticket payload ∈ after.taken ∧ RepliesTo host kinds payload reply := by
    intro hold
    obtain ⟨payload, htaken, hreplies⟩ := hkept.replied ticket reply hold
    exact ⟨payload, mem_taken_step hstep htaken, hreplies⟩
  cases hstep with
  | rejected htakes hprepared =>
      rcases List.mem_append.1 hreply with hreply | hreply
      · exact hold hreply
      · cases List.mem_singleton.1 hreply
        exact ⟨_, List.mem_append_right _ (List.mem_singleton.2 rfl), .refused hprepared⟩
  | finished hjob hrun =>
      rcases List.mem_append.1 hreply with hreply | hreply
      · exact hold hreply
      · cases List.mem_singleton.1 hreply
        obtain ⟨payload, htaken, hbecomes⟩ :=
          hkept.working ticket _ (List.mem_of_getElem? hjob)
        exact ⟨payload, htaken, .translated hbecomes hrun⟩
  | refused | asked | cancelled | abandoned | started | shown | told | drained | stopped =>
      exact hold hreply

theorem Kept.step (hkept : before.Kept host kinds)
    (hstep : Step host kinds before event after) : after.Kept host kinds where
  split := hkept.split.step hstep
  counted ticket := counted_step hstep (hkept.counted ticket)
  idle := idle_step hstep hkept.idle
  working := hkept.working_step hstep
  replied := hkept.replied_step hstep

/-- An actor that is gone stays gone. -/
theorem stopped_step (hstep : Step host kinds before event after)
    (hstopped : before.actor.phase = .stopped) : after.actor.phase = .stopped := by
  cases hstep with
  | rejected htakes | started htakes | shown htakes | told htakes => exact hstopped
  | drained hrunning =>
      rw [hrunning] at hstopped
      cases hstopped
  | stopped => rfl
  | refused | asked | cancelled | abandoned | finished => exact hstopped

theorem replyTo?_step (hstep : Step host kinds before event after) {ticket : Ticket}
    {reply : Reply} (hreply : before.actor.replyTo? ticket = some reply) :
    after.actor.replyTo? ticket = some reply := by
  simp only [Actor.replyTo?] at hreply ⊢
  cases hstep with
  | rejected | finished => rw [List.lookup_append, hreply, Option.some_or]
  | refused | asked | cancelled | abandoned | started | shown | told | drained | stopped =>
      exact hreply

/-- Once the actor is gone, no reply is given any more. -/
theorem Kept.isLost_step (hkept : before.Kept host kinds)
    (hstep : Step host kinds before event after) {ticket : Ticket}
    (hlost : before.actor.isLost ticket = true) : after.actor.isLost ticket = true := by
  have hidle := hkept.idle
  simp only [Actor.isLost, Actor.replyTo?, Bool.and_eq_true, decide_eq_true_eq] at hlost ⊢
  cases hstep with
  | rejected htakes | started htakes | shown htakes | told htakes =>
      rw [htakes.running] at hlost
      cases hlost.1
  | finished hjob =>
      rw [hidle hlost.1] at hjob
      cases hjob
  | drained hrunning =>
      rw [hrunning] at hlost
      cases hlost.1
  | stopped => exact ⟨rfl, hlost.2⟩
  | refused | asked | cancelled | abandoned => exact hlost

/-- What the actor took had arrived. -/
theorem Kept.mem_arrived {history : History σ α} (hkept : history.Kept host kinds)
    {message : Message} (htaken : message ∈ history.taken) : message ∈ history.arrived := by
  rw [hkept.split]
  exact List.mem_append_left _ htaken

/-- The reply under a ticket was given to a request under that ticket. -/
theorem Kept.of_replyTo? {history : History σ α} (hkept : history.Kept host kinds)
    {ticket : Ticket} {reply : Reply} (hreply : history.actor.replyTo? ticket = some reply) :
    ∃ payload, .compile ticket payload ∈ history.arrived ∧
      RepliesTo host kinds payload reply := by
  obtain ⟨payload, htaken, hreplies⟩ := hkept.replied ticket reply (Actor.mem_replies hreply)
  exact ⟨payload, hkept.mem_arrived htaken, hreplies⟩

end History

end CompileServer
