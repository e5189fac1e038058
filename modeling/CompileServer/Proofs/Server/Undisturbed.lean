import CompileServer.Proofs.Actor.Reports
import CompileServer.Proofs.Actor.Schedule
import CompileServer.Proofs.Server.Service

/-!
# Undisturbed runs

Nothing happens to the server but that input arrives.  Then the actor never stops, it is asked
for nothing but the requests of the input in their order, and a server that is done has
written the actor's reply to each of them.  With fixed answers those are the replies to the
requests handled one at a time, so the lines determine the responses up to their order.
-/

namespace CompileServer

variable {σ α : Type}

/-- Nothing but that input arrives or that the server moves. -/
def Happening.isQuiet : Happening → Bool
  | .feed _ | .endInput | .move _ => true
  | .cancel | .close | .cancelActor | .shutdown | .snapshot _ | .abandon => false

/-- The messages that ask for some requests. -/
def Message.asking (requests : List (Ticket × Json)) : List Message :=
  requests.map fun request => .compile request.1 request.2

theorem Message.eq_asking {messages : List Message}
    (hrequests : ∀ message ∈ messages, message.request? ≠ none) :
    messages = asking (messages.filterMap request?) := by
  induction messages with
  | nil => rfl
  | cons message rest ih =>
      have hrest := ih fun other hother => hrequests other (List.mem_cons_of_mem _ hother)
      have hfirst := hrequests message List.mem_cons_self
      cases message with
      | compile ticket payload =>
          have hrequest : (Message.compile ticket payload).request? = some (ticket, payload) := rfl
          rw [List.filterMap_cons_some hrequest, asking, List.map_cons]
          exact congrArg _ hrest
      | snapshot | shutdown => exact absurd rfl hfirst

/-! ## The actor -/

namespace History

variable {host : Host σ α} {kinds : SourceKinds} {world : σ} {before after : History σ α}

/-- An actor that is asked for requests only and that nobody tells to stop. -/
structure Calm (host : Host σ α) (kinds : SourceKinds) (world : σ) (history : History σ α) :
    Prop where
  running : history.actor.phase = .running
  untold : history.actor.cancelled = false
  held : history.actor.abandoned = false
  requests : ∀ message ∈ history.arrived, message.request? ≠ none
  reached : history.Reached host kinds world

theorem calm_start (world : σ) : (start world : History σ α).Calm host kinds world where
  running := rfl
  untold := rfl
  held := rfl
  requests _ hmem := absurd hmem List.not_mem_nil
  reached := ⟨[], rfl⟩

theorem Calm.isOpen (hcalm : before.Calm host kinds world) : before.actor.isOpen = true := by
  simp [Actor.isOpen, hcalm.running, hcalm.held]

/-- What a move of the actor preserves. -/
theorem Calm.move {step : ActorMove} (hcalm : before.Calm host kinds world)
    (hsplit : before.IsSplit) (hstep : Step host kinds before (.move step) after) :
    after.Calm host kinds world := by
  have hreached := hcalm.reached.step hstep
  have hnext : ∀ {message rest}, before.actor.Takes message rest → message.request? ≠ none := by
    intro message rest htakes
    apply hcalm.requests
    rw [hsplit, htakes.waiting]
    exact List.mem_append_right _ List.mem_cons_self
  cases hstep with
  | rejected | started | finished =>
      exact ⟨hcalm.running, hcalm.untold, hcalm.held, hcalm.requests, hreached⟩
  | shown htakes | told htakes => exact absurd rfl (hnext htakes)
  | drained _ hallowed =>
      obtain hcancelled | ⟨habandoned, -⟩ := hallowed
      · rw [hcalm.untold] at hcancelled
        cases hcancelled
      · rw [hcalm.held] at habandoned
        cases habandoned
  | stopped hdraining =>
      rw [hcalm.running] at hdraining
      cases hdraining

/-- A request arrives under the number of the messages before it. -/
theorem Calm.deliver (hcalm : before.Calm host kinds world) (payload : Json) :
    (before.deliver (.compile before.arrived.length payload)).Calm host kinds world := by
  have hreached := hcalm.reached.step (.asked (.compile payload) hcalm.isOpen)
  simp only [History.deliver, if_pos hcalm.isOpen, Actor.send]
  refine ⟨hcalm.running, hcalm.untold, hcalm.held, fun message hmem => ?_, hreached⟩
  rcases List.mem_append.1 hmem with hmem | hmem
  · exact hcalm.requests message hmem
  · cases List.mem_singleton.1 hmem
    exact Option.some_ne_none _

end History

/-! ## The server -/

namespace Transcript

variable {fixed : ServerContext σ α} {world : σ} {before after transcript : Transcript σ α}

/-- What holds at every moment of an undisturbed run. -/
structure Undisturbed (fixed : ServerContext σ α) (world : σ) (transcript : Transcript σ α) :
    Prop extends Accounted fixed transcript where
  heeding : transcript.server.cancelled = false
  unclosed : transcript.server.closed = false
  unbroken : transcript.server.broken = false
  calm : transcript.history.Calm fixed.host fixed.compiler.sources world

/-- The requests that were passed on are the only messages. -/
theorem Undisturbed.arrived_eq (hundisturbed : transcript.Undisturbed fixed world) :
    transcript.history.arrived =
      Message.asking ((Entry.requests transcript.lines).take transcript.server.sent) := by
  rw [← hundisturbed.posted.first]
  exact Message.eq_asking hundisturbed.calm.requests

/-- A request is passed on under the number of the messages before it. -/
theorem Undisturbed.length_arrived (hundisturbed : transcript.Undisturbed fixed world) :
    transcript.history.arrived.length = transcript.server.sent := by
  have hbound := hundisturbed.posted.bound
  rw [hundisturbed.arrived_eq, Message.asking, List.length_map, List.length_take]
  omega

theorem Undisturbed.calm_record (hundisturbed : before.Undisturbed fixed world)
    {move : ServerMove} {next : Server σ α} (hmoves : before.server.Moves fixed move next)
    (hmove : before.server.move? fixed move = some next) :
    (before.record move next).history.Calm fixed.host fixed.compiler.sources world := by
  have hcalm := hundisturbed.calm
  have hsame := hundisturbed.same
  have hof_same : next.actor = before.server.actor → (∀ step, move ≠ .act step) →
      (before.record move next).history.Calm fixed.host fixed.compiler.sources world := by
    intro hactor hother
    rw [history_record_of_same hsame hactor hother]
    exact hcalm
  cases hmoves with
  | skipped | garbled | asked | ended | refused | collected | lost | wrote | broke =>
      exact hof_same rfl fun _ => ServerMove.noConfusion
  | answered | forwarded =>
      rw [Server.put_eq] at hof_same ⊢
      exact hof_same rfl fun _ => ServerMove.noConfusion
  | posted _ hopen =>
      rw [history_record_of_send _ hsame rfl rfl hopen, ← hundisturbed.length_arrived]
      exact hcalm.deliver _
  | @acted step actor hactor =>
      have hstep : History.Step fixed.host fixed.compiler.sources before.history (.move step)
          (before.history.record step actor) := by
        apply History.step_of_next?
        simp only [History.next?, hsame, hactor, Option.map_some]
      exact hcalm.move hundisturbed.kept.split hstep

/-- What a quiet step preserves. -/
theorem Undisturbed.next {happening : Happening}
    (hundisturbed : before.Undisturbed fixed world) (hquiet : happening.isQuiet = true)
    (hnext : before.next? fixed happening = some after) : after.Undisturbed fixed world := by
  have haccounted := hundisturbed.toAccounted.step (step_of_next? hnext)
  have hcalm := hundisturbed.calm
  cases happening with
  | feed frames =>
      simp only [next?] at hnext
      split at hnext <;> cases hnext
      exact ⟨haccounted, hundisturbed.heeding, hundisturbed.unclosed, hundisturbed.unbroken, hcalm⟩
  | endInput =>
      cases hnext
      exact ⟨haccounted, hundisturbed.heeding, hundisturbed.unclosed, hundisturbed.unbroken, hcalm⟩
  | move move =>
      obtain ⟨next, hmove, rfl⟩ := Option.map_eq_some_iff.1 hnext
      have hmoves := Server.moves_of_move? hmove
      have hsteady := hmoves.steady
      exact {
        toAccounted := haccounted
        heeding := hsteady.cancelled.trans hundisturbed.heeding
        unclosed := hsteady.closed.trans hundisturbed.unclosed
        unbroken := (hsteady.broken hundisturbed.unclosed).trans hundisturbed.unbroken
        calm := hundisturbed.calm_record hmoves hmove }
  | cancel | close | cancelActor | shutdown | snapshot | abandon => cases hquiet

/-- What a quiet run preserves. -/
theorem Undisturbed.run {happenings : List Happening} (hbefore : before.Undisturbed fixed world)
    (hquiet : ∀ happening ∈ happenings, happening.isQuiet = true)
    (hrun : before.run? fixed happenings = some after) : after.Undisturbed fixed world := by
  induction happenings generalizing before with
  | nil =>
      cases hrun
      exact hbefore
  | cons happening rest ih =>
      simp only [run?] at hrun
      split at hrun
      · rename_i next hnext
        have hfirst := hbefore.next (hquiet happening List.mem_cons_self) hnext
        exact ih hfirst (fun other hother => hquiet other (List.mem_cons_of_mem _ hother)) hrun
      · cases hrun

theorem undisturbed_start (fixed : ServerContext σ α) (world : σ) :
    (start world).Undisturbed fixed world :=
  ⟨accounted_start fixed world, rfl, rfl, rfl, History.calm_start world⟩

/-- An undisturbed server with some input that has come to its end. -/
structure Completes (fixed : ServerContext σ α) (world : σ) (input : List Frame)
    (transcript : Transcript σ α) : Prop where
  undisturbed : ∃ happenings, (∀ happening ∈ happenings, happening.isQuiet = true) ∧
    (start world).run? fixed happenings = some transcript
  input : transcript.input = input
  done : transcript.server.isDone = true

/-! ## The responses -/

end Transcript

/-- The response to a line that asks for something, if replies to requests are known by their
numbers. -/
def Entry.response? (freshId : Nat → String) (replies : Ticket → Option Reply)
    (entry : Entry) : Option Response :=
  match entry.incoming with
  | .blank => none
  | .faulty failure => some (Server.faultyResponse failure)
  | .request request =>
    (replies entry.ticket).map (Response.mk (request.id.getD (freshId entry.position)))

/-- The reply to the request at a position, when requests are handled one at a time. -/
def Session.replyAt? (host : Host σ α) (kinds : SourceKinds) (world : σ)
    (payloads : List Json) (position : Nat) : Option Reply :=
  payloads[position]?.map fun payload =>
    ((afterAll host kinds world (payloads.take position)).answer host kinds payload).1

theorem Session.after_asking (host : Host σ α) (kinds : SourceKinds) (world : σ)
    (requests : List (Ticket × Json)) :
    after host kinds world (Message.asking requests) =
      afterAll host kinds world (requests.map Prod.snd) := by
  simp only [after, afterAll, Message.asking, List.foldl_map]
  rfl

/-- Handling messages that are all requests is handling the requests one at a time. -/
theorem Session.replyAt?_of_replies {host : Host σ α} {kinds : SourceKinds} {world : σ}
    {requests : List (Ticket × Json)} {ticket : Ticket} {reply : Reply}
    (hreplies : Replies host kinds world (Message.asking requests) ticket reply) :
    replyAt? host kinds world (requests.map Prod.snd) ticket = some reply := by
  obtain ⟨payload, hmessage, hreply⟩ := hreplies
  have htake : (Message.asking requests).take ticket = Message.asking (requests.take ticket) :=
    List.map_take.symm
  rw [htake, after_asking, List.map_take] at hreply
  have hmap : (Message.asking requests)[ticket]? = requests[ticket]?.map fun request =>
      .compile request.1 request.2 := List.getElem?_map
  rw [hmap, Option.map_eq_some_iff] at hmessage
  obtain ⟨request, hrequest, hsame⟩ := hmessage
  cases hsame
  rw [replyAt?, List.getElem?_map, hrequest, Option.map_some, Option.map_some, hreply]

namespace Transcript

variable {fixed : ServerContext σ α} {world : σ} {transcript : Transcript σ α}

theorem Undisturbed.running (hundisturbed : transcript.Undisturbed fixed world) :
    transcript.server.actor.phase = .running := by
  rw [← hundisturbed.same]
  exact hundisturbed.calm.running

/-- What an undisturbed server has written when it is done: one response for each line that
asks for something, and to a request the reply that the actor gave. -/
theorem Undisturbed.written_perm (hundisturbed : transcript.Undisturbed fixed world)
    (hdone : transcript.server.isDone = true) {replies : Ticket → Option Reply}
    (hreplies : ∀ ticket reply, transcript.server.actor.replyTo? ticket = some reply →
      replies ticket = some reply) :
    ∃ responses, transcript.server.written.Perm responses ∧
      List.Forall₂
        (fun entry response => Entry.response? fixed.freshId replies entry = some response)
        (Entry.ofLines transcript.lines) responses := by
  obtain ⟨ordered, hsettled, hperm⟩ :=
    hundisturbed.settled_of_isDone hundisturbed.unbroken hdone
  have hrunning := hundisturbed.running
  refine ⟨ordered, hperm.symm, hsettled.imp fun entry response hsettles => ?_⟩
  -- Nobody stops an undisturbed actor, so no request is refused or lost.
  cases hsettles with
  | faulty => rfl
  | replied _ hreply => simp only [Entry.response?, hreplies _ _ hreply, Option.map_some]
  | refused _ hstopped =>
      rw [hrunning] at hstopped
      cases hstopped
  | lost _ hlost => simp [Actor.isLost, hrunning] at hlost

/-- When an undisturbed server is done, the actor was asked for all requests of the lines. -/
theorem Undisturbed.arrived_of_isDone (hundisturbed : transcript.Undisturbed fixed world)
    (hdone : transcript.server.isDone = true) :
    transcript.history.arrived = Message.asking (Entry.requests transcript.lines) := by
  have hfinished := Server.finished_of_isDone hdone
  have hrunning : transcript.server.actor.phase ≠ .stopped := by
    rw [hundisturbed.running]
    exact Phase.noConfusion
  have hsent := hundisturbed.posted.unstopped hrunning
  rw [hfinished] at hsent
  change transcript.server.sent = _ at hsent
  rw [hundisturbed.arrived_eq, List.take_of_length_le (Nat.le_of_eq hsent.symm)]

/-- When an undisturbed server is done, it has looked at the lines up to one that is no text. -/
theorem Undisturbed.lines_of_isDone (hundisturbed : transcript.Undisturbed fixed world)
    (hdone : transcript.server.isDone = true) :
    transcript.lines.map .line = transcript.input.takeWhile fun frame => frame.text?.isSome := by
  have htext : ∀ lines : List String, ∀ frame ∈ lines.map Frame.line,
      frame.text?.isSome = true := by
    intro lines frame hmem
    obtain ⟨text, -, rfl⟩ := List.mem_map.1 hmem
    rfl
  rw [hundisturbed.input, List.takeWhile_append_of_pos (htext transcript.lines)]
  obtain hcancelled | ⟨rest, hframes⟩ | ⟨hframes, -⟩ :=
    hundisturbed.ended (Server.finished_of_isDone hdone)
  · rw [hundisturbed.heeding] at hcancelled
    cases hcancelled
  · rw [hframes]
    exact (List.append_nil _).symm
  · rw [hframes]
    exact (List.append_nil _).symm

variable {answers : Answers α} {saving : Saving σ}

/-- With fixed answers, the actor's replies are those to the requests handled one at a time. -/
theorem Undisturbed.replyAt?_of_replyTo? (hundisturbed : transcript.Undisturbed fixed world)
    (hfixed : fixed.host = answers.host saving) (hdone : transcript.server.isDone = true)
    {ticket : Ticket} {reply : Reply}
    (hreply : transcript.server.actor.replyTo? ticket = some reply) :
    Session.replyAt? fixed.host fixed.compiler.sources world
      ((Entry.requests transcript.lines).map Prod.snd) ticket = some reply := by
  obtain ⟨events, hrun⟩ := hundisturbed.calm.reached
  rw [hfixed] at hrun ⊢
  rw [← hundisturbed.same] at hreply
  have hscheduled := History.sequenced_of_run hrun
  have hreplies := (hscheduled.replies _ (Actor.mem_replies hreply)).later
    transcript.history.actor.mailbox
  rw [← hundisturbed.kept.split, hundisturbed.arrived_of_isDone hdone] at hreplies
  exact Session.replyAt?_of_replies hreplies

end Transcript

end CompileServer
