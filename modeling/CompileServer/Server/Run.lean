import CompileServer.Server.Basic

/-!
# Running the server

One of the many runs: whatever can be written is written first, then replies are
forwarded, then the actor works, and only then the next line is read.  An actor that
takes no more messages lingers until there is nothing else to do.
-/

namespace CompileServer

/-- How serving ended: the number of lines that asked for something, or the reason why no
response could be written. -/
abbrev Served := Except String Nat

namespace Server

variable {σ α : Type}

/-- The moves that are tried, most urgent first. -/
def urgency (server : Server σ α) : List ServerMove :=
  let positions := List.range server.forwarders.length
  .write :: positions.map .forward ++ positions.map .collect
    ++ (List.range server.actor.inFlight.length).map (.act <| .finish ·)
    ++ [.act .take, .act .drain, .answer, .post, .read, .act .stop]

/-- The first possible move is made, at most the given number of times. -/
def run (fixed : ServerContext σ α) : Nat → Server σ α → Server σ α
  | 0, server => server
  | fuel + 1, server =>
    match server.urgency.findSome? fun move => server.move? fixed move with
    | some next => run fixed fuel next
    | none => server

/-- A number of moves that no run exceeds: every frame and every message causes a few. -/
def enough (server : Server σ α) : Nat :=
  8 * (server.frames.length + server.actor.mailbox.length + server.actor.inFlight.length
    + server.forwarders.length + server.outbox.length) + 16

/-- Runs the server until it needs more input, or to its end. -/
def serve (fixed : ServerContext σ α) (server : Server σ α) : Server σ α :=
  server.run fixed server.enough

/-- How serving ended. -/
def outcome (server : Server σ α) : Served :=
  if server.broken then .error "Codec error: broken pipe" else .ok server.count

end Server

end CompileServer
