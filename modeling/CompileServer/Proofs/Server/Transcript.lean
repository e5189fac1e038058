import CompileServer.Proofs.Actor.Delivery
import CompileServer.Proofs.Server.Lines
import CompileServer.Proofs.Server.Moves

/-!
# Transcripts of the server

A transcript is a run of the server together with what an observer sees of it: the input,
the lines that the reader looked at, and the history of the actor.  Around the server
anything may happen at any moment: input arrives and ends, the reader or the actor is told
to stop, others send messages to the actor, and nobody reads the responses any more.
-/

namespace CompileServer

/-- What can happen to a server. -/
inductive Happening where
  /-- More input arrives. -/
  | feed (frames : List Frame)
  /-- The input ends. -/
  | endInput
  /-- The reader is told to stop. -/
  | cancel
  /-- Nobody reads the responses any more. -/
  | close
  /-- The actor is told to stop. -/
  | cancelActor
  /-- Somebody else sends the actor a message to accept no more requests. -/
  | shutdown
  /-- Somebody else asks the actor for its store. -/
  | snapshot (ticket : Ticket)
  /-- The last handle of the actor is dropped. -/
  | abandon
  /-- The server moves by itself. -/
  | move (move : ServerMove)

/-- A server, and what was seen of it. -/
structure Transcript (σ α : Type) where
  server : Server σ α
  /-- The input so far, oldest first. -/
  input : List Frame
  /-- The lines that the reader looked at, oldest first. -/
  lines : List String
  /-- What was seen of the actor. -/
  history : History σ α

namespace Frame

/-- The text of a line. -/
def text? : Frame → Option String
  | .line text => some text
  | .notText => none

end Frame

namespace Transcript

variable {σ α : Type}

/-- The transcript of a server that was just started. -/
def start (world : σ) : Transcript σ α :=
  ⟨.listen (.start world), [], [], .start world⟩

/-- Sends the actor a message of somebody else. -/
def tell (transcript : Transcript σ α) (message : Message) : Transcript σ α :=
  { transcript with
    server := { transcript.server with actor := transcript.server.actor.send message }
    history := transcript.history.deliver message }

/-- Writes down what became of the actor without a message. -/
def setActor (transcript : Transcript σ α) (actor : Actor σ α) : Transcript σ α :=
  { transcript with
    server := { transcript.server with actor := actor }
    history := { transcript.history with actor := actor } }

/-- Writes a move down that led to another server: the lines that were looked at, the
messages that were posted, and what the actor did. -/
def record (transcript : Transcript σ α) (move : ServerMove) (next : Server σ α) :
    Transcript σ α where
  server := next
  input := transcript.input
  lines := transcript.lines ++
    (transcript.server.frames.take (transcript.server.frames.length - next.frames.length)).filterMap
      Frame.text?
  history :=
    match move with
    | .act step => transcript.history.record step next.actor
    | _ =>
      { transcript.history with
        actor := next.actor
        arrived := transcript.history.arrived ++
          next.actor.mailbox.drop transcript.server.actor.mailbox.length }

/-- The transcript after something happened, if it is possible.  The reader holds a handle
of the actor until it is finished. -/
def next? (fixed : ServerContext σ α) (transcript : Transcript σ α) :
    Happening → Option (Transcript σ α)
  | .feed frames =>
    if transcript.server.awaiting then
      some { transcript with
        server := transcript.server.feed frames
        input := transcript.input ++ frames }
    else none
  | .endInput => some { transcript with server := transcript.server.endInput }
  | .cancel => some { transcript with server := { transcript.server with cancelled := true } }
  | .close => some { transcript with server := { transcript.server with closed := true } }
  | .cancelActor => some (transcript.setActor transcript.server.actor.cancel)
  | .shutdown => some (transcript.tell .shutdown)
  | .snapshot ticket => some (transcript.tell (.snapshot ticket))
  | .abandon =>
    match transcript.server.reader with
    | .finished => some (transcript.setActor transcript.server.actor.abandon)
    | _ => none
  | .move move => (transcript.server.move? fixed move).map (transcript.record move)

/-- The transcript after some happenings, if they are possible in this order. -/
def run? (fixed : ServerContext σ α) :
    Transcript σ α → List Happening → Option (Transcript σ α)
  | transcript, [] => some transcript
  | transcript, happening :: rest =>
    match transcript.next? fixed happening with
    | some next => run? fixed next rest
    | none => none

/-- Everything that can happen to a transcript. -/
inductive Step (fixed : ServerContext σ α) (before : Transcript σ α) :
    Transcript σ α → Prop where
  | fed (frames : List Frame) (hawaiting : before.server.awaiting = true) :
      Step fixed before
        { before with
          server := { before.server with frames := before.server.frames ++ frames }
          input := before.input ++ frames }
  | inputEnded : Step fixed before { before with server := before.server.endInput }
  | cancelled : Step fixed before { before with server := { before.server with cancelled := true } }
  | closed : Step fixed before { before with server := { before.server with closed := true } }
  | actorCancelled : Step fixed before (before.setActor before.server.actor.cancel)
  | abandoned (hfinished : before.server.reader = .finished) :
      Step fixed before (before.setActor before.server.actor.abandon)
  | told {message : Message} (hother : message.request? = none) :
      Step fixed before (before.tell message)
  | moved {move : ServerMove} {next : Server σ α} (hmoves : before.server.Moves fixed move next)
      (hmove : before.server.move? fixed move = some next) :
      Step fixed before (before.record move next)

variable {fixed : ServerContext σ α}

theorem step_of_next? {before after : Transcript σ α} {happening : Happening}
    (hnext : before.next? fixed happening = some after) : Step fixed before after := by
  cases happening with
  | feed frames =>
      simp only [next?] at hnext
      split at hnext
      · rename_i hawaiting
        cases hnext
        exact .fed frames hawaiting
      · cases hnext
  | endInput =>
      cases hnext
      exact .inputEnded
  | cancel =>
      cases hnext
      exact .cancelled
  | close =>
      cases hnext
      exact .closed
  | cancelActor =>
      cases hnext
      exact .actorCancelled
  | shutdown =>
      cases hnext
      exact .told rfl
  | snapshot ticket =>
      cases hnext
      exact .told rfl
  | abandon =>
      simp only [next?] at hnext
      split at hnext
      · rename_i hfinished
        cases hnext
        exact .abandoned hfinished
      · cases hnext
  | move move =>
      obtain ⟨next, hmove, rfl⟩ := Option.map_eq_some_iff.1 hnext
      exact .moved (Server.moves_of_move? hmove) hmove

/-- What every step preserves, every run preserves. -/
theorem run?_preserves {motive : Transcript σ α → Prop}
    (hstep : ∀ {before after}, motive before → Step fixed before after → motive after)
    {happenings : List Happening} {before after : Transcript σ α} (hbefore : motive before)
    (hrun : before.run? fixed happenings = some after) : motive after := by
  induction happenings generalizing before with
  | nil =>
      cases hrun
      exact hbefore
  | cons happening rest ih =>
      simp only [run?] at hrun
      split at hrun
      · rename_i next hnext
        exact ih (hstep hbefore (step_of_next? hnext)) hrun
      · cases hrun

end Transcript

end CompileServer
