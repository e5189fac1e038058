import CompileServer.Compile.Prepare
import CompileServer.Config.Basic

/-!
# The compiler as an actor

The actor owns the session.  It works on one message at a time and in order of
arrival; a request that could be prepared becomes a job, and jobs finish in any
order.  The moves say which steps are possible at all, so a run of the actor is a
sequence of moves.
-/

namespace CompileServer

/-- The number under which the sender of a message waits for its answer. -/
abbrev Ticket := Nat

/-- A message to the actor. -/
inductive Message where
  /-- Compile a file. -/
  | compile (ticket : Ticket) (payload : Json)
  /-- Show the store. -/
  | snapshot (ticket : Ticket)
  /-- Accept no more requests. -/
  | shutdown

/-- The life of the actor. -/
inductive Phase where
  /-- It takes messages. -/
  | running
  /-- It takes no more messages and waits for the jobs in flight. -/
  | draining
  /-- It is gone, and with it the messages it never took. -/
  | stopped
deriving DecidableEq, Repr

/-- The actor with its mailbox and the answers it has given. -/
structure Actor (σ α : Type) where
  session : Session σ α
  /-- The messages that wait, oldest first. -/
  mailbox : List Message
  /-- The jobs that are being done, oldest first. -/
  inFlight : List (Ticket × Job α)
  phase : Phase
  /-- Whether the actor was told to stop. -/
  cancelled : Bool
  /-- Whether nobody can send messages any more. -/
  abandoned : Bool
  /-- The replies given so far, oldest first. -/
  replies : List (Ticket × Reply)
  /-- The stores shown so far, oldest first. -/
  shown : List (Ticket × Store α)

/-- A step of the actor. -/
inductive ActorMove where
  /-- Take the next message. -/
  | take
  /-- Finish the job at a position. -/
  | finish (position : Nat)
  /-- Stop taking messages. -/
  | drain
  /-- Be gone. -/
  | stop
deriving DecidableEq, Repr

namespace Actor

variable {σ α : Type}

/-- The actor before the first message. -/
def start (world : σ) : Actor σ α :=
  ⟨.start world, [], [], .running, false, false, [], []⟩

/-- Whether messages are accepted. -/
def isOpen (actor : Actor σ α) : Bool :=
  actor.phase != .stopped && !actor.abandoned

/-- Queues a message; one that comes too late is lost. -/
def send (actor : Actor σ α) (message : Message) : Actor σ α :=
  if actor.isOpen then { actor with mailbox := actor.mailbox ++ [message] } else actor

/-- Tells the actor to stop. -/
def cancel (actor : Actor σ α) : Actor σ α :=
  { actor with cancelled := true }

/-- Nobody sends messages any more. -/
def abandon (actor : Actor σ α) : Actor σ α :=
  { actor with abandoned := true }

/-- Works on a request until it is a job. -/
def compile (host : Host σ α) (kinds : SourceKinds) (ticket : Ticket) (payload : Json)
    (actor : Actor σ α) : Actor σ α :=
  match actor.session.prepare host kinds payload with
  | (.ok job, session) =>
    { actor with session := session, inFlight := actor.inFlight ++ [(ticket, job)] }
  | (.error reply, session) =>
    { actor with session := session, replies := actor.replies ++ [(ticket, reply)] }

/-- Works on a message. -/
def handle (host : Host σ α) (kinds : SourceKinds) (message : Message) (actor : Actor σ α) :
    Actor σ α :=
  match message with
  | .compile ticket payload => actor.compile host kinds ticket payload
  | .snapshot ticket =>
    { actor with shown := actor.shown ++ [(ticket, actor.session.store)] }
  | .shutdown => actor.cancel

/-- Finishes a job and replies. -/
def finish (host : Host σ α) (ticket : Ticket) (job : Job α) (actor : Actor σ α) : Actor σ α :=
  let (reply, world) := job.run host actor.session.world
  { actor with
    session := { actor.session with world := world }
    replies := actor.replies ++ [(ticket, reply)] }

/-- Makes a move, if it is possible.  An actor that was told to stop takes no message, one
that nobody sends to stops when its mailbox is empty, and it is gone only after its last
job. -/
def move? (host : Host σ α) (kinds : SourceKinds) (actor : Actor σ α) :
    ActorMove → Option (Actor σ α)
  | .take =>
    match actor.phase, actor.cancelled, actor.mailbox with
    | .running, false, message :: rest =>
      some ({ actor with mailbox := rest }.handle host kinds message)
    | _, _, _ => none
  | .finish position =>
    match actor.inFlight[position]? with
    | some (ticket, job) =>
      some ({ actor with inFlight := actor.inFlight.eraseIdx position }.finish host ticket job)
    | none => none
  | .drain =>
    if actor.phase = .running && (actor.cancelled || actor.abandoned && actor.mailbox.isEmpty) then
      some { actor with phase := .draining }
    else none
  | .stop =>
    if actor.phase = .draining && actor.inFlight.isEmpty then
      some { actor with phase := .stopped }
    else none

/-- A step from one actor to another. -/
def Step (host : Host σ α) (kinds : SourceKinds) (before after : Actor σ α) : Prop :=
  ∃ move, before.move? host kinds move = some after

/-- The reply to a message, if it was given. -/
def replyTo? (actor : Actor σ α) (ticket : Ticket) : Option Reply :=
  actor.replies.lookup ticket

/-- Whether a message will never be replied to. -/
def isLost (actor : Actor σ α) (ticket : Ticket) : Bool :=
  actor.phase = .stopped && (actor.replyTo? ticket).isNone

end Actor

end CompileServer
