import CompileServer.Proofs.Compile.Sample
import CompileServer.Proofs.Server.Bookkeeping

/-!
# Every line is answered once

As long as somebody reads the responses, a run of the server that has nothing left to do has
written one response for every line that asks for something, whatever the order in which the
actor finishes its jobs and whenever it is told to stop.  A run always gets there: the moves
that are left are bounded, and where none is possible the server is done.
-/

namespace CompileServer

variable {σ α : Type}

/-- An actor that cannot move has no job, and is gone or has no message. -/
theorem Actor.idle_of_rest {host : Host σ α} {kinds : SourceKinds} {actor : Actor σ α}
    (hrest : ∀ step, actor.move? host kinds step = none) :
    actor.inFlight = [] ∧
      (actor.phase = .stopped ∨ actor.phase = .running ∧ actor.mailbox = []) := by
  have hidle : actor.inFlight = [] := by
    have hfinish := hrest (.finish 0)
    cases hjobs : actor.inFlight with
    | nil => rfl
    | cons job rest => simp [move?, hjobs] at hfinish
  refine ⟨hidle, ?_⟩
  cases hphase : actor.phase with
  | running =>
      refine Or.inr ⟨rfl, ?_⟩
      have htake := hrest .take
      have hdrain := hrest .drain
      cases hcancelled : actor.cancelled with
      | true => simp [move?, hphase, hcancelled] at hdrain
      | false =>
          cases hmailbox : actor.mailbox with
          | nil => rfl
          | cons message rest => simp [move?, hphase, hcancelled, hmailbox] at htake
  | draining =>
      have hstop := hrest .stop
      simp [move?, hphase, hidle] at hstop
  | stopped => exact Or.inl rfl

namespace Server

variable {fixed : ServerContext σ α} {server : Server σ α}

/-- A writer that cannot move has nothing to write. -/
theorem AtRest.outbox (hrest : server.AtRest fixed) : server.outbox = [] := by
  have hwrite := hrest .write
  cases houtbox : server.outbox with
  | nil => rfl
  | cons response rest =>
      simp only [move?, houtbox] at hwrite
      split at hwrite <;> cases hwrite

theorem AtRest.hasRoom (hrest : server.AtRest fixed) : server.hasRoom = true := by
  simp [Server.hasRoom, hrest.outbox, outboxCapacity]

theorem AtRest.actor (hrest : server.AtRest fixed) (step : ActorMove) :
    server.actor.move? fixed.host fixed.compiler.sources step = none := by
  have hact := hrest (.act step)
  simpa only [move?, Option.map_eq_none_iff] using hact

/-- The reader has looked at all the input that came, and more may come. -/
structure Waits (server : Server σ α) : Prop where
  ready : server.reader = .ready
  heeding : server.cancelled = false
  looked : server.frames = []
  awaiting : server.awaiting = true

/-- A reader that cannot move waits for input or is finished. -/
theorem AtRest.finished_or_waits (hrest : server.AtRest fixed) :
    server.reader = .finished ∨ server.Waits := by
  cases hreader : server.reader with
  | ready =>
      refine Or.inr ?_
      have hread := hrest .read
      cases hcancelled : server.cancelled with
      | true => simp [move?, hreader, hcancelled] at hread
      | false =>
          rcases hframes : server.frames with _ | ⟨_ | _, rest⟩
          · simp only [move?, hreader, hcancelled, hframes, ite_eq_left_iff] at hread
            have hawaiting : server.awaiting = true := by
              by_contra hover
              cases hread hover
            exact ⟨hreader, hcancelled, hframes, hawaiting⟩
          all_goals simp [move?, hreader, hcancelled, hframes] at hread
  | posting id params =>
      have hpost := hrest .post
      have hidle := (Actor.idle_of_rest hrest.actor).2
      cases hopen : server.actor.isOpen with
      | false => simp [move?, hreader, hopen] at hpost
      | true =>
          obtain hstopped | ⟨-, hmailbox⟩ := hidle
          · simp [Actor.isOpen, hstopped] at hopen
          · simp [move?, hreader, hopen, hmailbox, fixed.compiler.mailbox_pos] at hpost
  | answering response =>
      have hanswer := hrest .answer
      simp [move?, hreader, hrest.hasRoom] at hanswer
  | finished => exact Or.inl rfl

/-- A reader that cannot move is finished once the input is over. -/
theorem AtRest.reader (hrest : server.AtRest fixed)
    (hover : server.awaiting = false ∨ server.cancelled = true) :
    server.reader = .finished := by
  refine hrest.finished_or_waits.resolve_right fun hwaits => ?_
  simp [hwaits.awaiting, hwaits.heeding] at hover

theorem finished_of_isDone (hdone : server.isDone = true) : server.reader = .finished := by
  simp only [isDone] at hdone
  split at hdone
  · assumption
  · cases hdone

end Server

namespace Transcript

variable {fixed : ServerContext σ α} {transcript : Transcript σ α}

/-- A request that was passed on is replied to or lost, once the actor cannot move. -/
theorem Accounted.replied_or_lost (haccounted : transcript.Accounted fixed)
    (hrest : transcript.server.AtRest fixed) {ticket : Ticket} {payload : Json}
    (harrived : .compile ticket payload ∈ transcript.history.arrived) :
    (∃ reply, transcript.server.actor.replyTo? ticket = some reply) ∨
      transcript.server.actor.isLost ticket = true := by
  have hkept := haccounted.kept
  rw [← haccounted.same]
  have hidle := Actor.idle_of_rest hrest.actor
  rw [← haccounted.same] at hidle
  cases hreply : transcript.history.actor.replyTo? ticket with
  | some reply => exact Or.inl ⟨reply, rfl⟩
  | none =>
      refine Or.inr ?_
      obtain hstopped | ⟨-, hmailbox⟩ := hidle.2
      · simp [Actor.isLost, hstopped, hreply]
      -- the message was taken and is in flight no more, so its reply was given
      · have htaken : .compile ticket payload ∈ transcript.history.taken := by
          rw [hkept.split, hmailbox, List.append_nil] at harrived
          exact harrived
        have hcounted := hkept.counted ticket
        have hpos : 0 < transcript.history.takenCount ticket :=
            History.count_pos_of_compile htaken
        rw [← hcounted, History.jobCount, hidle.1, List.map_nil, List.count_nil, Nat.add_zero,
          History.replyCount, List.count_pos_iff] at hpos
        obtain ⟨⟨_, reply⟩, hmem, rfl⟩ := List.mem_map.1 hpos
        have hother := List.lookup_eq_none_iff.1 hreply _ hmem
        simp at hother

/-- A forwarder that cannot move has handed its response over. -/
theorem Accounted.forwarders_of_atRest (haccounted : transcript.Accounted fixed)
    (hunbroken : transcript.server.broken = false) (hrest : transcript.server.AtRest fixed) :
    transcript.server.forwarders = [] := by
  cases hforwarders : transcript.server.forwarders with
  | nil => rfl
  | cons forwarder rest =>
      cases forwarder with
      | holding response =>
          have hforward := hrest (.forward 0)
          simp [Server.move?, hforwarders, hrest.hasRoom] at hforward
      | waiting ticket id =>
          have hcollect := hrest (.collect 0)
          have hmem : Slip.waiting ticket id ∈ transcript.slips := by
            simp [slips, Server.handedOn, hforwarders, Forwarder.slip]
          obtain ⟨entry, -, hfits⟩ := (haccounted.paired hunbroken).exists_of_mem hmem
          cases hfits with
          | waiting harrived =>
              obtain ⟨reply, hreply⟩ | hlost := haccounted.replied_or_lost hrest harrived
              · simp [Server.move?, hforwarders, hreply] at hcollect
              · have hnone : transcript.server.actor.replyTo? ticket = none := by
                  simp only [Actor.isLost, Bool.and_eq_true, Option.isNone_iff_eq_none] at hlost
                  exact hlost.2
                simp [Server.move?, hforwarders, hnone, hlost] at hcollect

theorem Accounted.isDone_of_atRest (haccounted : transcript.Accounted fixed)
    (hunbroken : transcript.server.broken = false)
    (hover : transcript.server.awaiting = false ∨ transcript.server.cancelled = true)
    (hrest : transcript.server.AtRest fixed) : transcript.server.isDone = true := by
  have hforwarders := haccounted.forwarders_of_atRest hunbroken hrest
  simp [Server.isDone, hrest.reader hover, hforwarders, hrest.outbox]

/-- A server that is done has written one response for every line that asks for something. -/
theorem Accounted.settled_of_isDone (haccounted : transcript.Accounted fixed)
    (hunbroken : transcript.server.broken = false)
    (hdone : transcript.server.isDone = true) :
    Paired (transcript.Settles fixed) (Entry.ofLines transcript.lines)
      transcript.server.written := by
  have hpaired := haccounted.paired hunbroken
  simp only [Server.isDone] at hdone
  split at hdone
  · rename_i hfinished
    simp only [Bool.and_eq_true, List.isEmpty_iff] at hdone
    have hslips : transcript.slips = transcript.server.written.map .ready := by
      simp [slips, Server.handedOn, hdone.1, hdone.2, hfinished, Reader.slips]
    rw [hslips] at hpaired
    apply hpaired.of_map.mono
    intro entry response hfits
    cases hfits with
    | ready hsettles => exact hsettles
  · cases hdone

/-- A server that is done and was not told to stop has looked at all lines of a text. -/
theorem Accounted.lines_of_isDone (haccounted : transcript.Accounted fixed)
    (hdone : transcript.server.isDone = true) (hheeding : transcript.server.cancelled = false)
    {lines : List String} (hinput : transcript.input = lines.map .line) :
    transcript.lines = lines := by
  have hfinished := Server.finished_of_isDone hdone
  have hread := haccounted.input
  obtain hcancelled | ⟨rest, hframes⟩ | ⟨hframes, -⟩ := haccounted.ended hfinished
  · rw [hheeding] at hcancelled
    cases hcancelled
  · have hmem : Frame.notText ∈ lines.map Frame.line := by
      rw [← hinput, hread, hframes]
      exact List.mem_append_right _ List.mem_cons_self
    obtain ⟨_, -, hline⟩ := List.mem_map.1 hmem
    cases hline
  · have hinjective : Function.Injective Frame.line := fun _ _ => Frame.line.inj
    rw [hframes, List.append_nil, hinput] at hread
    exact (List.map_injective_iff.2 hinjective hread).symm

/-- The transcript goes on while the server moves. -/
theorem run?_moves {moves : List ServerMove} {later : Server σ α}
    (hmoves : transcript.server.moves? fixed moves = some later) :
    ∃ after : Transcript σ α, transcript.run? fixed (moves.map .move) = some after ∧
      after.server = later ∧ after.input = transcript.input := by
  induction moves generalizing transcript with
  | nil =>
      cases hmoves
      exact ⟨transcript, rfl, rfl, rfl⟩
  | cons move rest ih =>
      obtain ⟨next, hmove, hrest⟩ := Server.moves?_cons.1 hmoves
      have hrecord : (transcript.record move next).server.moves? fixed rest = some later := hrest
      obtain ⟨after, hrun, hserver, hinput⟩ := ih hrecord
      refine ⟨after, ?_, hserver, hinput⟩
      simp only [List.map_cons, run?, next?, hmove, Option.map_some]
      exact hrun

/-- What is true of every run. -/
structure Serves (fixed : ServerContext σ α) (transcript : Transcript σ α) : Prop where
  /-- The lines that were looked at are the first of the input. -/
  read_first : transcript.input = transcript.lines.map .line ++ transcript.server.frames
  /-- The reader stops because it is told to, before a line that is no text, or at the end. -/
  read_all : transcript.server.reader = .finished → transcript.server.AtEnd
  /-- The requests that the actor took and those that wait in its mailbox are the first that
  were read, in the order of their lines. -/
  in_order : transcript.history.taken.filterMap Message.request? ++
      transcript.server.actor.mailbox.filterMap Message.request? =
    (Entry.requests transcript.lines).take transcript.server.sent
  /-- When the server is done, it has counted the lines that are not blank, and has written
  one response for each of them. -/
  answered : transcript.server.broken = false → transcript.server.isDone = true →
    transcript.server.outcome =
        .ok (transcript.lines.filter fun text => Text.trim text ≠ "").length ∧
      transcript.server.written.length =
        (transcript.lines.filter fun text => Text.trim text ≠ "").length ∧
      Paired (transcript.Settles fixed) (Entry.ofLines transcript.lines)
        transcript.server.written
  /-- The moves that the server can make without anything new to do are bounded. -/
  bounded : ∀ moves later, transcript.server.moves? fixed moves = some later →
    moves.length ≤ transcript.server.weight
  /-- A request has the identifier that its line gives, if that is neither missing nor null. -/
  identified : ∀ text ∈ transcript.lines, ∀ request, Incoming.ofLine text = .request request →
    request.id = Request.writtenId (Json.Document.ofText (Text.trim text)).root
  /-- Once the input is over and no move is possible, the server is done. -/
  returns : transcript.server.broken = false →
    transcript.server.awaiting = false ∨ transcript.server.cancelled = true →
    transcript.server.AtRest fixed → transcript.server.isDone = true

/-- Every run of the server answers every line that asks for something once. -/
theorem serves_of_run {world : σ} {happenings : List Happening}
    (hrun : (start world).run? fixed happenings = some transcript) :
    transcript.Serves fixed := by
  have haccounted := accounted_of_run hrun
  have hcount : transcript.server.count =
      (transcript.lines.filter fun text => Text.trim text ≠ "").length := by
    rw [haccounted.counted, Entry.length_ofLines]
  exact {
    read_first := haccounted.input
    read_all := haccounted.ended
    in_order := by
      rw [← haccounted.posted.first, haccounted.kept.split, ← haccounted.same,
        List.filterMap_append]
    answered := by
      intro hunbroken hdone
      have hsettled := haccounted.settled_of_isDone hunbroken hdone
      refine ⟨?_, ?_, hsettled⟩
      · rw [Server.outcome, hunbroken, ← hcount]
        rfl
      · rw [← hsettled.length_eq, Entry.length_ofLines]
    bounded := by
      intro moves later hmoves
      have hle := Server.length_add_weight_le hmoves
      omega
    identified := fun _ _ _ hline => Incoming.id_of_ofLine hline
    returns := haccounted.isDone_of_atRest }

/-- The small host behind a server; a request without an identifier gets its position. -/
def sampleContext : ServerContext Unit Nat :=
  ⟨Sample.host, .ofConfig .standard, toString⟩

/-- Requests that share an identifier or have none, a blank line and a line that is no
request. -/
def sampleLines : List String :=
  ["\x7b\"id\":\"a\",\"params\":\x7b\"path\":\"/p/App.fsproj\"\x7d\x7d", " ",
    "\x7b\"params\":\x7b\"path\":\"/p/A.fs\"\x7d\x7d", "no request",
    "\x7b\"id\":\"a\",\"params\":\x7b\"path\":\"/p/A.fs\"\x7d\x7d", "\x7b\"id\":null,\"params\":1\x7d"]

/-- The second request is answered first, the third is lost because the actor is told to stop,
and the last one finds it gone. -/
def stopWhileServing : List Happening :=
  [.feed (sampleLines.map .line), .endInput] ++ List.map .move
    [.read, .post, .act .take, .read, .read, .post, .act .take, .act (.finish 1), .collect 1,
      .forward 1, .write, .read, .answer, .write] ++ [.cancelActor] ++ List.map .move
    [.read, .post, .act .drain, .act (.finish 0), .act .stop, .collect 1, .collect 0, .forward 1,
      .forward 0, .read, .post, .write, .answer, .read, .write, .write]

theorem serves_stopWhileServing :
    ∃ transcript, (start ()).run? sampleContext stopWhileServing = some transcript ∧
      transcript.server.isDone = true ∧ transcript.server.broken = false ∧
      transcript.server.count = 5 ∧
      transcript.server.written.map Response.id = ["1", "unknown", "a", "a", "4"] ∧
      transcript.Serves sampleContext := by
  have hseen : ((start ()).run? sampleContext stopWhileServing).any (fun transcript =>
      transcript.server.isDone && !transcript.server.broken && transcript.server.count == 5 &&
      transcript.server.written.map Response.id == ["1", "unknown", "a", "a", "4"]) = true := by
    decide +kernel
  cases hrun : (start ()).run? sampleContext stopWhileServing with
  | none =>
      rw [hrun] at hseen
      cases hseen
  | some transcript =>
      rw [hrun, Option.any_some] at hseen
      simp only [Bool.and_eq_true, Bool.not_eq_true', beq_iff_eq] at hseen
      exact ⟨transcript, rfl, hseen.1.1.1, hseen.1.1.2, hseen.1.2, hseen.2, serves_of_run hrun⟩

/-- Serving some lines from the start to the end of the input answers all of them. -/
theorem isDone_serve (fixed : ServerContext σ α) (world : σ) (lines : List String) :
    let served := ((Server.listen (.start world)).feed (lines.map .line)).endInput.serve fixed
    served.isDone = true ∧
      served.outcome = .ok (lines.filter fun text => Text.trim text ≠ "").length ∧
      served.written.length = (lines.filter fun text => Text.trim text ≠ "").length := by
  intro served
  let transcript : Transcript σ α :=
    ⟨((Server.listen (.start world)).feed (lines.map .line)).endInput, lines.map .line, [],
      .start world⟩
  have hrun : (start world).run? fixed [.feed (lines.map .line), .endInput] = some transcript :=
    rfl
  obtain ⟨hrest, moves, hmoves⟩ := Server.serve_atRest fixed transcript.server
  obtain ⟨after, hafter, hserver, hinput⟩ := run?_moves hmoves
  have haccounted : after.Accounted fixed :=
    run?_preserves Accounted.step (accounted_of_run hrun) hafter
  have hsteady := Server.steady_moves? hmoves
  rw [← hserver] at hrest hsteady
  have hunbroken : after.server.broken = false := hsteady.broken rfl
  have hdone := haccounted.isDone_of_atRest hunbroken (Or.inl hsteady.awaiting) hrest
  have hsettled := haccounted.settled_of_isDone hunbroken hdone
  have hlines := haccounted.lines_of_isDone hdone hsteady.cancelled hinput
  have hcount := Entry.length_ofLines lines
  have hcounted := haccounted.counted
  have hwritten := hsettled.length_eq
  rw [hlines, hcount] at hcounted hwritten
  have houtcome : after.server.outcome = .ok after.server.count := by
    rw [Server.outcome, hunbroken]
    rfl
  rw [hcounted] at houtcome
  have hserved : served = after.server := hserver.symm
  rw [hserved]
  exact ⟨hdone, houtcome, hwritten.symm⟩

end Transcript

end CompileServer
