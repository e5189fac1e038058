import CompileServer.Actor.Basic

/-!
# Histories of the actor

A history is a run of the actor together with what an observer sees of it: which
messages arrived and which were taken, who sent each reply, and why the actor stopped
taking messages.  The observer only compares the actor before and after a move, so the
history adds nothing to what the actor does.  Messages are asked for, the actor is told
to stop and its handles are dropped at any moment of a run.
-/

namespace CompileServer

/-- What may be asked of the actor. -/
inductive Errand where
  | compile (payload : Json)
  | snapshot
  | shutdown

/-- The message that asks for it. -/
def Errand.message (ticket : Ticket) : Errand → Message
  | .compile payload => .compile ticket payload
  | .snapshot => .snapshot ticket
  | .shutdown => .shutdown

/-- What can happen to an actor. -/
inductive Event where
  /-- Somebody sends a message. -/
  | ask (errand : Errand)
  /-- Somebody tells the actor to stop. -/
  | cancel
  /-- The last handle is dropped. -/
  | abandon
  /-- The actor moves by itself. -/
  | move (move : ActorMove)

/-- Who sends a reply. -/
inductive Sender where
  | actor
  /-- The job of the request with a ticket. -/
  | translation (ticket : Ticket)

/-- Why the actor stopped taking messages. -/
inductive Cause where
  | cancelled
  /-- Nobody could send messages any more, and none was waiting. -/
  | deserted
deriving DecidableEq

/-- An actor, and what was seen of it. -/
structure History (σ α : Type) where
  actor : Actor σ α
  /-- The messages that were accepted, oldest first. -/
  arrived : List Message
  /-- The messages that the actor took, oldest first. -/
  taken : List Message
  /-- The replies with their senders, oldest first. -/
  sent : List (Sender × Ticket × Reply)
  cause : Option Cause

/-- The actor is about to take a message. -/
structure Actor.Takes {σ α : Type} (actor : Actor σ α) (message : Message)
    (rest : List Message) : Prop where
  running : actor.phase = .running
  heeding : actor.cancelled = false
  waiting : actor.mailbox = message :: rest

namespace History

variable {σ α : Type}

/-- The history of an actor that was just started. -/
def start (world : σ) : History σ α :=
  ⟨.start world, [], [], [], none⟩

/-- Sends a message with a ticket of its own. -/
def ask (history : History σ α) (errand : Errand) : History σ α :=
  let message := errand.message history.arrived.length
  if history.actor.isOpen then
    { history with
      actor := history.actor.send message
      arrived := history.arrived ++ [message] }
  else history

/-- Who sends the replies that a move gives. -/
def sender (actor : Actor σ α) : ActorMove → Sender
  | .finish position =>
    match actor.inFlight[position]? with
    | some (ticket, _) => .translation ticket
    | none => .actor
  | _ => .actor

/-- Writes a move down that led to another actor. -/
def record (history : History σ α) (move : ActorMove) (next : Actor σ α) : History σ α where
  actor := next
  arrived := history.arrived
  taken :=
    match move with
    | .take => history.taken ++ history.actor.mailbox.take 1
    | _ => history.taken
  sent := history.sent ++ (next.replies.drop history.actor.replies.length).map fun reply =>
    (sender history.actor move, reply)
  cause :=
    match move with
    | .drain => some (if history.actor.cancelled then .cancelled else .deserted)
    | _ => history.cause

/-- The history after an event, if the event is possible. -/
def next? (host : Host σ α) (kinds : SourceKinds) (history : History σ α) :
    Event → Option (History σ α)
  | .ask errand => some (history.ask errand)
  | .cancel => some { history with actor := history.actor.cancel }
  | .abandon => some { history with actor := history.actor.abandon }
  | .move move => (history.actor.move? host kinds move).map (history.record move)

/-- The history after some events, if they are possible in this order. -/
def run? (host : Host σ α) (kinds : SourceKinds) :
    History σ α → List Event → Option (History σ α)
  | history, [] => some history
  | history, event :: rest =>
    match history.next? host kinds event with
    | some next => run? host kinds next rest
    | none => none

/-- Everything that can happen to a history. -/
inductive Step (host : Host σ α) (kinds : SourceKinds) (before : History σ α) :
    Event → History σ α → Prop where
  | refused (errand : Errand) (hclosed : before.actor.isOpen = false) :
      Step host kinds before (.ask errand) before
  | asked (errand : Errand) (hopen : before.actor.isOpen = true) :
      Step host kinds before (.ask errand)
        { before with
          actor := { before.actor with
            mailbox := before.actor.mailbox ++ [errand.message before.arrived.length] }
          arrived := before.arrived ++ [errand.message before.arrived.length] }
  | cancelled :
      Step host kinds before .cancel { before with actor := before.actor.cancel }
  | abandoned :
      Step host kinds before .abandon { before with actor := before.actor.abandon }
  | rejected {ticket : Ticket} {payload : Json} {rest : List Message} {reply : Reply}
      {session : Session σ α} (htakes : before.actor.Takes (.compile ticket payload) rest)
      (hprepared : before.actor.session.prepare host kinds payload = (.error reply, session)) :
      Step host kinds before (.move .take)
        { before with
          actor := { before.actor with
            session := session
            mailbox := rest
            replies := before.actor.replies ++ [(ticket, reply)] }
          taken := before.taken ++ [.compile ticket payload]
          sent := before.sent ++ [(.actor, ticket, reply)] }
  | started {ticket : Ticket} {payload : Json} {rest : List Message} {job : Job α}
      {session : Session σ α} (htakes : before.actor.Takes (.compile ticket payload) rest)
      (hprepared : before.actor.session.prepare host kinds payload = (.ok job, session)) :
      Step host kinds before (.move .take)
        { before with
          actor := { before.actor with
            session := session
            mailbox := rest
            inFlight := before.actor.inFlight ++ [(ticket, job)] }
          taken := before.taken ++ [.compile ticket payload] }
  | shown {ticket : Ticket} {rest : List Message}
      (htakes : before.actor.Takes (.snapshot ticket) rest) :
      Step host kinds before (.move .take)
        { before with
          actor := { before.actor with
            mailbox := rest
            shown := before.actor.shown ++ [(ticket, before.actor.session.store)] }
          taken := before.taken ++ [.snapshot ticket] }
  | told {rest : List Message} (htakes : before.actor.Takes .shutdown rest) :
      Step host kinds before (.move .take)
        { before with
          actor := { before.actor with mailbox := rest, cancelled := true }
          taken := before.taken ++ [.shutdown] }
  | finished {position : Nat} {ticket : Ticket} {job : Job α} {reply : Reply} {world : σ}
      (hjob : before.actor.inFlight[position]? = some (ticket, job))
      (hrun : job.run host before.actor.session.world = (reply, world)) :
      Step host kinds before (.move (.finish position))
        { before with
          actor := { before.actor with
            session := { before.actor.session with world := world }
            inFlight := before.actor.inFlight.eraseIdx position
            replies := before.actor.replies ++ [(ticket, reply)] }
          sent := before.sent ++ [(.translation ticket, ticket, reply)] }
  | drained (hrunning : before.actor.phase = .running)
      (hallowed : before.actor.cancelled = true ∨
        before.actor.abandoned = true ∧ before.actor.mailbox = []) :
      Step host kinds before (.move .drain)
        { before with
          actor := { before.actor with phase := .draining }
          cause := some (if before.actor.cancelled then .cancelled else .deserted) }
  | stopped (hdraining : before.actor.phase = .draining)
      (hidle : before.actor.inFlight = []) :
      Step host kinds before (.move .stop)
        { before with actor := { before.actor with phase := .stopped } }

variable {host : Host σ α} {kinds : SourceKinds}

theorem take_eq_some {actor next : Actor σ α}
    (hmove : actor.move? host kinds .take = some next) :
    ∃ message rest, actor.Takes message rest ∧
      next = { actor with mailbox := rest }.handle host kinds message := by
  simp only [Actor.move?] at hmove
  split at hmove
  · rename_i message rest hphase hcancelled hwaiting
    exact ⟨message, rest, ⟨hphase, hcancelled, hwaiting⟩, (Option.some.inj hmove).symm⟩
  · cases hmove

theorem step_take {before : History σ α} {next : Actor σ α}
    (hmove : before.actor.move? host kinds .take = some next) :
    Step host kinds before (.move .take) (before.record .take next) := by
  obtain ⟨message, rest, htakes, rfl⟩ := take_eq_some hmove
  cases message with
  | compile ticket payload =>
      cases hprepared : before.actor.session.prepare host kinds payload with
      | mk outcome session =>
          cases outcome with
          | ok job =>
              have hstep := Step.started htakes hprepared
              simpa [record, Actor.handle, Actor.compile, hprepared, htakes.waiting] using hstep
          | error reply =>
              have hstep := Step.rejected htakes hprepared
              simpa [record, sender, Actor.handle, Actor.compile, hprepared, htakes.waiting]
                using hstep
  | snapshot ticket =>
      have hstep : Step host kinds before _ _ := .shown htakes
      simpa [record, Actor.handle, htakes.waiting] using hstep
  | shutdown =>
      have hstep : Step host kinds before _ _ := .told htakes
      simpa [record, Actor.handle, Actor.cancel, htakes.waiting] using hstep

theorem step_finish {before : History σ α} {next : Actor σ α} {position : Nat}
    (hmove : before.actor.move? host kinds (.finish position) = some next) :
    Step host kinds before (.move (.finish position))
      (before.record (.finish position) next) := by
  simp only [Actor.move?] at hmove
  split at hmove
  · rename_i ticket job hjob
    cases hmove
    cases hrun : job.run host before.actor.session.world with
    | mk reply world =>
        have hstep : Step host kinds before _ _ := .finished hjob hrun
        simpa [record, sender, Actor.finish, hjob, hrun] using hstep
  · cases hmove

theorem step_drain {before : History σ α} {next : Actor σ α}
    (hmove : before.actor.move? host kinds .drain = some next) :
    Step host kinds before (.move .drain) (before.record .drain next) := by
  simp only [Actor.move?] at hmove
  split at hmove
  · rename_i hallowed
    cases hmove
    simp only [Bool.and_eq_true, Bool.or_eq_true, decide_eq_true_eq, List.isEmpty_iff]
      at hallowed
    have hstep : Step host kinds before _ _ := .drained hallowed.1 hallowed.2
    simpa [record] using hstep
  · cases hmove

theorem step_stop {before : History σ α} {next : Actor σ α}
    (hmove : before.actor.move? host kinds .stop = some next) :
    Step host kinds before (.move .stop) (before.record .stop next) := by
  simp only [Actor.move?] at hmove
  split at hmove
  · rename_i hallowed
    cases hmove
    simp only [Bool.and_eq_true, decide_eq_true_eq, List.isEmpty_iff] at hallowed
    have hstep : Step host kinds before _ _ := .stopped hallowed.1 hallowed.2
    simpa [record] using hstep
  · cases hmove

/-- Whatever happens is one of the steps. -/
theorem step_of_next? {before after : History σ α} {event : Event}
    (hnext : before.next? host kinds event = some after) :
    Step host kinds before event after := by
  cases event with
  | ask errand =>
      cases hnext
      unfold ask
      cases hopen : before.actor.isOpen with
      | false => exact .refused errand hopen
      | true =>
          simp only [if_true, Actor.send, hopen]
          exact .asked errand hopen
  | cancel =>
      cases hnext
      exact .cancelled
  | abandon =>
      cases hnext
      exact .abandoned
  | move move =>
      obtain ⟨next, hmove, rfl⟩ := Option.map_eq_some_iff.1 hnext
      cases move with
      | take => exact step_take hmove
      | finish position => exact step_finish hmove
      | drain => exact step_drain hmove
      | stop => exact step_stop hmove

theorem take_of_takes {actor : Actor σ α} {message : Message} {rest : List Message}
    (htakes : actor.Takes message rest) :
    actor.move? host kinds .take =
      some ({ actor with mailbox := rest }.handle host kinds message) := by
  simp only [Actor.move?, htakes.running, htakes.heeding, htakes.waiting]

/-- Every step can happen. -/
theorem next?_of_step {before after : History σ α} {event : Event}
    (hstep : Step host kinds before event after) :
    before.next? host kinds event = some after := by
  cases hstep with
  | refused errand hclosed => simp [next?, ask, hclosed]
  | asked errand hopen => simp [next?, ask, Actor.send, hopen]
  | cancelled => rfl
  | abandoned => rfl
  | rejected htakes hprepared =>
      simp [next?, take_of_takes htakes, record, sender, Actor.handle, Actor.compile,
        hprepared, htakes.waiting]
  | started htakes hprepared =>
      simp [next?, take_of_takes htakes, record, Actor.handle, Actor.compile, hprepared,
        htakes.waiting]
  | shown htakes =>
      simp [next?, take_of_takes htakes, record, Actor.handle, htakes.waiting]
  | told htakes =>
      simp [next?, take_of_takes htakes, record, Actor.handle, Actor.cancel, htakes.waiting]
  | finished hjob hrun => simp [next?, Actor.move?, record, sender, Actor.finish, hjob, hrun]
  | drained hrunning hallowed =>
      simp [next?, Actor.move?, record, hrunning, List.isEmpty_iff, hallowed]
  | stopped hdraining hidle => simp [next?, Actor.move?, record, hdraining, hidle]

theorem run?_cons {before after : History σ α} {event : Event} {rest : List Event} :
    before.run? host kinds (event :: rest) = some after ↔
      ∃ next, Step host kinds before event next ∧ next.run? host kinds rest = some after := by
  constructor
  · intro hrun
    simp only [run?] at hrun
    split at hrun
    · rename_i next hnext
      exact ⟨next, step_of_next? hnext, hrun⟩
    · cases hrun
  · rintro ⟨next, hstep, hrun⟩
    simp only [run?, next?_of_step hstep]
    exact hrun

/-- What every step preserves, every run preserves. -/
theorem run?_preserves {motive : History σ α → Prop}
    (hstep : ∀ {before after event}, motive before → Step host kinds before event after →
      motive after)
    {events : List Event} {before after : History σ α} (hbefore : motive before)
    (hrun : before.run? host kinds events = some after) : motive after := by
  induction events generalizing before with
  | nil =>
      cases hrun
      exact hbefore
  | cons event rest ih =>
      obtain ⟨next, hnext, hrest⟩ := run?_cons.1 hrun
      exact ih (hstep hbefore hnext) hrest

/-- A run may be cut anywhere. -/
theorem run?_append {before middle : History σ α} {earlier : List Event}
    (hearlier : before.run? host kinds earlier = some middle) (rest : List Event) :
    before.run? host kinds (earlier ++ rest) = middle.run? host kinds rest := by
  induction earlier generalizing before with
  | nil =>
      cases hearlier
      rfl
  | cons event earlier ih =>
      simp only [run?, List.cons_append] at hearlier ⊢
      split at hearlier
      · exact ih hearlier
      · cases hearlier

theorem run?_concat {before middle after : History σ α} {events : List Event} {event : Event}
    (hrun : before.run? host kinds events = some middle)
    (hstep : Step host kinds middle event after) :
    before.run? host kinds (events ++ [event]) = some after := by
  rw [run?_append hrun]
  exact run?_cons.2 ⟨after, hstep, rfl⟩

/-- Some run of the actor leads here. -/
def Reached (host : Host σ α) (kinds : SourceKinds) (world : σ) (history : History σ α) :
    Prop :=
  ∃ events, (start world).run? host kinds events = some history

theorem Reached.step {world : σ} {before after : History σ α} {event : Event}
    (hreached : before.Reached host kinds world) (hstep : Step host kinds before event after) :
    after.Reached host kinds world := by
  obtain ⟨events, hrun⟩ := hreached
  exact ⟨events ++ [event], run?_concat hrun hstep⟩

/-- Messages that arrived stay, and so do the replies that were given. -/
theorem Step.grows {before after : History σ α} {event : Event}
    (hstep : Step host kinds before event after) :
    before.arrived <+: after.arrived ∧ before.actor.replies <+: after.actor.replies := by
  cases hstep with
  | asked => exact ⟨List.prefix_append _ _, List.prefix_rfl⟩
  | rejected | finished => exact ⟨List.prefix_rfl, List.prefix_append _ _⟩
  | refused | cancelled | abandoned | started | shown | told | drained | stopped =>
      exact ⟨List.prefix_rfl, List.prefix_rfl⟩

theorem run?_grows {before after : History σ α} {events : List Event}
    (hrun : before.run? host kinds events = some after) :
    before.arrived <+: after.arrived ∧ before.actor.replies <+: after.actor.replies := by
  apply run?_preserves (motive := fun history =>
    before.arrived <+: history.arrived ∧ before.actor.replies <+: history.actor.replies) _ _ hrun
  · rintro middle after event ⟨harrived, hreplies⟩ hstep
    exact ⟨harrived.trans hstep.grows.1, hreplies.trans hstep.grows.2⟩
  · exact ⟨List.prefix_rfl, List.prefix_rfl⟩

end History

end CompileServer
