import CompileServer.Actor.Basic
import CompileServer.Server.Frame

/-!
# The server

A reader takes lines and passes requests to the actor, a forwarder for every request
waits for its reply, and a writer writes the responses.  The mailbox of the actor and
the outbox of the writer are bounded: whoever finds one full waits.  The moves say
which steps are possible at all, so a run of the server is a sequence of moves.
-/

namespace CompileServer

/-- What the reader is about to do. -/
inductive Reader where
  /-- Look at the next frame. -/
  | ready
  /-- Pass a request on to the actor. -/
  | posting (id : String) (params : Json)
  /-- Answer in place of the actor. -/
  | answering (response : Response)
  /-- Nothing any more. -/
  | finished

/-- A request on its way back. -/
inductive Forwarder where
  /-- The reply is still to come. -/
  | waiting (ticket : Ticket) (id : String)
  /-- The response waits for room in the outbox. -/
  | holding (response : Response)

/-- The server with all of its parts. -/
structure Server (σ α : Type) where
  actor : Actor σ α
  reader : Reader
  /-- The frames that were not looked at, oldest first. -/
  frames : List Frame
  /-- Whether more frames may come. -/
  awaiting : Bool
  /-- The number of lines that asked for something. -/
  count : Nat
  /-- The number of messages sent to the actor. -/
  sent : Nat
  forwarders : List Forwarder
  /-- The responses that wait to be written, oldest first. -/
  outbox : List Response
  /-- The responses written so far, oldest first. -/
  written : List Response
  /-- Whether the reader was told to stop. -/
  cancelled : Bool
  /-- Whether nobody reads the responses. -/
  closed : Bool
  /-- Whether the writer gave up. -/
  broken : Bool

/-- A step of the server. -/
inductive ServerMove where
  /-- The reader looks at the next frame, or notices that it has to stop. -/
  | read
  /-- The reader passes its request on. -/
  | post
  /-- The reader puts its answer into the outbox. -/
  | answer
  /-- The forwarder at a position gets its reply. -/
  | collect (position : Nat)
  /-- The forwarder at a position puts its response into the outbox. -/
  | forward (position : Nat)
  /-- The writer writes a response. -/
  | write
  /-- The actor makes a move. -/
  | act (move : ActorMove)
deriving DecidableEq, Repr

/-- What does not change while a server runs. -/
structure ServerContext (σ α : Type) where
  host : Host σ α
  compiler : CompilerSettings
  /-- The identifier for a request without one, by the number of the line. -/
  freshId : Nat → String

namespace Server

variable {σ α : Type}

/-- The responses that the outbox holds at most. -/
def outboxCapacity : Nat := 64

/-- The server before the first line, with all of its input at hand. -/
def start (actor : Actor σ α) (frames : List Frame) : Server σ α :=
  ⟨actor, .ready, frames, false, 0, 0, [], [], [], false, false, false⟩

/-- The server before the first line, whose input is still to come. -/
def listen (actor : Actor σ α) : Server σ α :=
  { start actor [] with awaiting := true }

/-- More input arrives. -/
def feed (server : Server σ α) (frames : List Frame) : Server σ α :=
  { server with frames := server.frames ++ frames }

/-- The input ends. -/
def endInput (server : Server σ α) : Server σ α :=
  { server with awaiting := false }

/-- The response to a line that is no request. -/
def faultyResponse (failure : Json.Failure) : Response :=
  .error "unknown" (-32700) ("Parse error: " ++ failure.message)

/-- The response to a request that the actor could not take. -/
def refusedResponse (id : String) : Response :=
  .error id (-32000) "Failed to send to compiler: Actor has shut down"

/-- The response to a request whose reply never came. -/
def lostResponse (id : String) : Response :=
  .error id (-32000) "Compiler dropped the request"

/-- Whether a response can be handed to the writer; one that gave up takes and loses all. -/
def hasRoom (server : Server σ α) : Bool :=
  server.broken || server.outbox.length < outboxCapacity

/-- Hands a response to the writer. -/
def put (server : Server σ α) (response : Response) : Server σ α :=
  if server.broken then server else { server with outbox := server.outbox ++ [response] }

/-- Looks at a line. -/
def readLine (freshId : Nat → String) (text : String) (server : Server σ α) : Server σ α :=
  match Incoming.ofLine text with
  | .blank => server
  | .faulty failure =>
    { server with count := server.count + 1, reader := .answering (faultyResponse failure) }
  | .request request =>
    { server with
      count := server.count + 1
      reader := .posting (request.id.getD (freshId server.count)) request.params }

/-- Makes a move, if it is possible. -/
def move? (fixed : ServerContext σ α) (server : Server σ α) :
    ServerMove → Option (Server σ α)
  | .read =>
    match server.reader, server.cancelled, server.frames with
    | .ready, false, .line text :: rest =>
      some ({ server with frames := rest }.readLine fixed.freshId text)
    | .ready, false, [] =>
      if server.awaiting then none else some { server with reader := .finished }
    | .ready, _, _ => some { server with reader := .finished }
    | _, _, _ => none
  | .post =>
    match server.reader with
    | .posting id params =>
      if !server.actor.isOpen then some { server with reader := .answering (refusedResponse id) }
      else if server.actor.mailbox.length < fixed.compiler.mailboxCapacity then
        some { server with
          actor := server.actor.send (.compile server.sent params)
          sent := server.sent + 1
          reader := .ready
          forwarders := server.forwarders ++ [.waiting server.sent id] }
      else none
    | _ => none
  | .answer =>
    match server.reader with
    | .answering response =>
      if server.hasRoom then some ({ server with reader := .ready }.put response) else none
    | _ => none
  | .collect position =>
    match server.forwarders[position]? with
    | some (.waiting ticket id) =>
      let hold := fun response =>
        { server with forwarders := server.forwarders.set position (.holding response) }
      match server.actor.replyTo? ticket with
      | some reply => some (hold ⟨id, reply⟩)
      | none => if server.actor.isLost ticket then some (hold (lostResponse id)) else none
    | _ => none
  | .forward position =>
    match server.forwarders[position]? with
    | some (.holding response) =>
      if server.hasRoom then
        some ({ server with forwarders := server.forwarders.eraseIdx position }.put response)
      else none
    | _ => none
  | .write =>
    match server.outbox with
    | [] => none
    | response :: rest =>
      if server.closed then some { server with outbox := [], broken := true }
      else some { server with outbox := rest, written := server.written ++ [response] }
  | .act move =>
    (server.actor.move? fixed.host fixed.compiler.sources move).map fun actor =>
      { server with actor := actor }

/-- A step from one server to another. -/
def Step (fixed : ServerContext σ α) (before after : Server σ α) : Prop :=
  ∃ move, before.move? fixed move = some after

/-- Whether every line was read and every response was written. -/
def isDone (server : Server σ α) : Bool :=
  match server.reader with
  | .finished => server.forwarders.isEmpty && server.outbox.isEmpty
  | _ => false

end Server

end CompileServer
