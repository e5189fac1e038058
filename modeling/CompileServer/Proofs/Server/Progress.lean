import CompileServer.Proofs.Server.Service

/-!
# No deadlock

The mailbox and the outbox are bounded, and whoever finds one full waits.  The waiting never
goes round in a circle: the writer waits for nobody, so the outbox has room again; a job
waits for nobody, so the actor gets through its messages or through the jobs that keep it from
stopping; and the reader and the forwarders wait for those two only.  So a server that cannot
move has nothing left to do but to wait for input.
-/

namespace CompileServer

variable {σ α : Type}

/-- A move of the actor leaves no more messages to wait. -/
theorem Actor.length_mailbox_move? {host : Host σ α} {kinds : SourceKinds}
    {actor next : Actor σ α} {step : ActorMove}
    (hmove : actor.move? host kinds step = some next) :
    next.mailbox.length ≤ actor.mailbox.length := by
  obtain ⟨before, after, hstep, rfl, rfl⟩ := History.step_of_move? hmove
  cases hstep with
  | rejected htakes | started htakes | shown htakes | told htakes =>
      rw [htakes.waiting]
      exact Nat.le_succ _
  | finished | drained | stopped => exact Nat.le_refl _

namespace Server

variable {fixed : ServerContext σ α} {before after : Server σ α}

/-- No channel holds more than it can. -/
structure Bounded (fixed : ServerContext σ α) (server : Server σ α) : Prop where
  outbox : server.outbox.length ≤ outboxCapacity
  mailbox : server.actor.mailbox.length ≤ fixed.compiler.mailboxCapacity

/-- A response is handed to the writer only where there is room for it. -/
theorem length_outbox_put {response : Response} (hroom : before.hasRoom = true)
    (houtbox : before.outbox.length ≤ outboxCapacity) :
    (before.put response).outbox.length ≤ outboxCapacity := by
  simp only [put_eq]
  cases hbroken : before.broken with
  | true => exact houtbox
  | false =>
      simp only [hasRoom, hbroken, Bool.false_or, decide_eq_true_eq] at hroom
      rw [if_neg Bool.false_ne_true, List.length_append]
      exact hroom

theorem Bounded.moves {move : ServerMove} (hbounded : before.Bounded fixed)
    (hmoves : Moves fixed before move after) : after.Bounded fixed := by
  obtain ⟨houtbox, hmailbox⟩ := hbounded
  cases hmoves with
  | skipped | garbled | asked | ended | refused | collected | lost => exact ⟨houtbox, hmailbox⟩
  | posted _ _ hroom =>
      refine ⟨houtbox, ?_⟩
      rw [List.length_append]
      exact hroom
  | @answered response _ hroom =>
      have hput : ({ before with reader := .ready }.put response).outbox.length ≤ outboxCapacity :=
        length_outbox_put hroom houtbox
      refine ⟨hput, ?_⟩
      rw [put_eq]
      exact hmailbox
  | @forwarded position response _ hroom =>
      have hput : ({ before with
          forwarders := before.forwarders.eraseIdx position }.put response).outbox.length ≤
            outboxCapacity :=
        length_outbox_put hroom houtbox
      refine ⟨hput, ?_⟩
      rw [put_eq]
      exact hmailbox
  | wrote hnext =>
      refine ⟨?_, hmailbox⟩
      rw [hnext] at houtbox
      exact Nat.le_of_succ_le houtbox
  | broke => exact ⟨Nat.zero_le _, hmailbox⟩
  | acted hmove => exact ⟨houtbox, Nat.le_trans (Actor.length_mailbox_move? hmove) hmailbox⟩

end Server

namespace Transcript

/-- Whoever sends the actor a message waits until there is room for it in the mailbox. -/
def permits (fixed : ServerContext σ α) (transcript : Transcript σ α) : Happening → Bool
  | .shutdown | .snapshot _ =>
    !transcript.server.actor.isOpen ||
      transcript.server.actor.mailbox.length < fixed.compiler.mailboxCapacity
  | _ => true

/-- The transcript after some happenings, if they are possible in this order and nobody sends
anything through a full channel. -/
def runBounded? (fixed : ServerContext σ α) :
    Transcript σ α → List Happening → Option (Transcript σ α)
  | transcript, [] => some transcript
  | transcript, happening :: rest =>
    if transcript.permits fixed happening then
      match transcript.next? fixed happening with
      | some next => runBounded? fixed next rest
      | none => none
    else none

variable {fixed : ServerContext σ α} {world : σ} {before after transcript : Transcript σ α}
  {happenings : List Happening}

/-- What every permitted step preserves, every run with bounded channels preserves. -/
theorem runBounded?_preserves {motive : Transcript σ α → Prop}
    (hstep : ∀ {before after happening}, motive before →
      before.permits fixed happening = true → before.next? fixed happening = some after →
      motive after)
    (hbefore : motive before) (hrun : before.runBounded? fixed happenings = some after) :
    motive after := by
  induction happenings generalizing before with
  | nil =>
      cases hrun
      exact hbefore
  | cons happening rest ih =>
      simp only [runBounded?] at hrun
      split at hrun
      · rename_i hpermits
        split at hrun
        · rename_i next hnext
          exact ih (hstep hbefore hpermits hnext) hrun
        · cases hrun
      · cases hrun

/-! ## What is kept -/

theorem bounded_tell {message : Message} (hbounded : before.server.Bounded fixed)
    (hroom : before.server.actor.isOpen = true →
      before.server.actor.mailbox.length < fixed.compiler.mailboxCapacity) :
    (before.tell message).server.Bounded fixed := by
  refine ⟨hbounded.outbox, ?_⟩
  simp only [tell, Actor.send]
  split
  · rename_i hopen
    rw [List.length_append]
    exact hroom hopen
  · exact hbounded.mailbox

theorem bounded_next {happening : Happening} (hbounded : before.server.Bounded fixed)
    (hpermits : before.permits fixed happening = true)
    (hnext : before.next? fixed happening = some after) : after.server.Bounded fixed := by
  obtain ⟨houtbox, hmailbox⟩ := hbounded
  cases happening with
  | shutdown | snapshot =>
      cases hnext
      refine bounded_tell ⟨houtbox, hmailbox⟩ fun hopen => ?_
      simpa [permits, hopen] using hpermits
  | move move =>
      obtain ⟨next, hmove, rfl⟩ := Option.map_eq_some_iff.1 hnext
      exact Server.Bounded.moves ⟨houtbox, hmailbox⟩ (Server.moves_of_move? hmove)
  | feed | abandon =>
      simp only [next?] at hnext
      split at hnext <;> cases hnext
      exact ⟨houtbox, hmailbox⟩
  | endInput | cancel | close | cancelActor =>
      cases hnext
      exact ⟨houtbox, hmailbox⟩

/-- The writer gives up only when nobody reads the responses. -/
theorem Step.closed_of_broken (hstep : Step fixed before after)
    (hbefore : before.server.broken = true → before.server.closed = true)
    (hbroken : after.server.broken = true) : after.server.closed = true := by
  cases hstep with
  | fed | inputEnded | cancelled | actorCancelled | abandoned | told => exact hbefore hbroken
  | closed => rfl
  | moved hmoves =>
      have hsteady := hmoves.steady
      cases hclosed : before.server.closed with
      | true => exact hsteady.closed.trans hclosed
      | false =>
          have hold := (hsteady.broken hclosed).symm.trans hbroken
          rw [hbefore hold] at hclosed
          cases hclosed

/-- What holds at every moment of a run with bounded channels. -/
structure Orderly (fixed : ServerContext σ α) (transcript : Transcript σ α) : Prop where
  accounted : transcript.Accounted fixed
  bounded : transcript.server.Bounded fixed
  closed_of_broken : transcript.server.broken = true → transcript.server.closed = true

theorem orderly_of_run (hrun : (start world).runBounded? fixed happenings = some transcript) :
    transcript.Orderly fixed := by
  refine runBounded?_preserves ?_ ?_ hrun
  · intro before after happening horderly hpermits hnext
    have hstep := step_of_next? hnext
    exact {
      accounted := horderly.accounted.step hstep
      bounded := bounded_next horderly.bounded hpermits hnext
      closed_of_broken := hstep.closed_of_broken horderly.closed_of_broken }
  · exact {
      accounted := accounted_start fixed world
      bounded := ⟨Nat.zero_le _, Nat.zero_le _⟩
      closed_of_broken := fun hbroken => by cases hbroken }

/-! ## At rest -/

/-- Every line that asked for something has its response written. -/
structure AllWritten (transcript : Transcript σ α) : Prop where
  forwarders : transcript.server.forwarders = []
  outbox : transcript.server.outbox = []
  written : transcript.server.written.length =
    (transcript.lines.filter fun text => Text.trim text ≠ "").length

/-- A server that cannot move owes nobody a response. -/
theorem Accounted.allWritten_of_atRest (haccounted : transcript.Accounted fixed)
    (hunbroken : transcript.server.broken = false) (hrest : transcript.server.AtRest fixed) :
    transcript.AllWritten := by
  have hforwarders := haccounted.forwarders_of_atRest hunbroken hrest
  have hreader : ∀ requests, transcript.server.reader.slips requests = [] := by
    intro requests
    obtain hfinished | hwaits := hrest.finished_or_waits
    · rw [hfinished]
      rfl
    · rw [hwaits.ready]
      rfl
  have hslips : transcript.slips = transcript.server.written.map .ready := by
    simp [slips, Server.handedOn, hforwarders, hrest.outbox, hreader]
  have hlength := (haccounted.paired hunbroken).length_eq
  rw [hslips, List.length_map, Entry.length_ofLines] at hlength
  exact ⟨hforwarders, hrest.outbox, hlength.symm⟩

/-- What is true of every run with bounded channels. -/
structure NeverStuck (fixed : ServerContext σ α) (transcript : Transcript σ α) : Prop where
  /-- The outbox and the mailbox keep to their capacities. -/
  bounded : transcript.server.Bounded fixed
  /-- As long as the writer takes every line, the reader, a forwarder, the writer, the actor
  or a job can move; or the server has returned the number of lines that asked for something
  and has written all of their responses; or it waits for input and has written all
  responses to the lines so far. -/
  goes_on : transcript.server.closed = false →
    (∃ move next, transcript.server.move? fixed move = some next) ∨
    (transcript.server.isDone = true ∧ transcript.AllWritten ∧
      transcript.server.outcome = .ok transcript.server.written.length) ∨
    (transcript.server.Waits ∧ transcript.AllWritten)

/-- A server is never stuck, whatever its input, whatever the capacity of the mailbox, and
whenever the reader or the actor is told to stop. -/
theorem neverStuck_of_run
    (hrun : (start world).runBounded? fixed happenings = some transcript) :
    transcript.NeverStuck fixed where
  bounded := (orderly_of_run hrun).bounded
  goes_on hopen := by
    have horderly := orderly_of_run hrun
    have haccounted := horderly.accounted
    have hunbroken : transcript.server.broken = false := by
      apply Bool.eq_false_iff.2
      intro hbroken
      rw [horderly.closed_of_broken hbroken] at hopen
      cases hopen
    by_cases hrest : transcript.server.AtRest fixed
    · refine Or.inr ?_
      have hwritten := haccounted.allWritten_of_atRest hunbroken hrest
      obtain hfinished | hwaits := hrest.finished_or_waits
      · refine Or.inl ⟨?_, hwritten, ?_⟩
        · simp [Server.isDone, hfinished, hwritten.forwarders, hwritten.outbox]
        · rw [Server.outcome, hunbroken, hwritten.written, ← Entry.length_ofLines,
            ← haccounted.counted]
          rfl
      · exact Or.inr ⟨hwaits, hwritten⟩
    · refine Or.inl ?_
      simp only [Server.AtRest, not_forall] at hrest
      obtain ⟨move, hmove⟩ := hrest
      exact ⟨move, Option.ne_none_iff_exists'.1 hmove⟩

/-- The small host behind a mailbox for one message. -/
def narrowContext : ServerContext Unit Nat :=
  ⟨Sample.host, ⟨.standard, 1, Nat.one_pos⟩, toString⟩

/-- While a job is in flight, the actor is told to stop and leaves its full mailbox alone, so
the reader waits for room and the actor for the job. -/
def stopWhileFull : List Happening :=
  [.feed ((List.replicate 3 "\x7b\"params\":\x7b\"path\":\"/p/App.fsproj\"\x7d\x7d").map .line),
    .endInput] ++ List.map .move [.read, .post, .act .take, .read, .post, .read] ++
    [.cancelActor, .move (.act .drain)]

theorem neverStuck_stopWhileFull :
    ∃ transcript, (start ()).runBounded? narrowContext stopWhileFull = some transcript ∧
      transcript.server.closed = false ∧
      ([.read, .post, .answer, .collect 0, .forward 0, .write, .act .take, .act .stop].all
        fun move => (transcript.server.move? narrowContext move).isNone) = true ∧
      transcript.NeverStuck narrowContext := by
  have hseen : ((start ()).runBounded? narrowContext stopWhileFull).any (fun transcript =>
      !transcript.server.closed &&
      [.read, .post, .answer, .collect 0, .forward 0, .write, .act .take, .act .stop].all
        fun move => (transcript.server.move? narrowContext move).isNone) = true := by
    decide +kernel
  cases hrun : (start ()).runBounded? narrowContext stopWhileFull with
  | none =>
      rw [hrun] at hseen
      cases hseen
  | some transcript =>
      rw [hrun, Option.any_some] at hseen
      simp only [Bool.and_eq_true, Bool.not_eq_true'] at hseen
      exact ⟨transcript, rfl, hseen.1, hseen.2, neverStuck_of_run hrun⟩

end Transcript

end CompileServer
