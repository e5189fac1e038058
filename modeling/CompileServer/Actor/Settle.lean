import CompileServer.Actor.Basic

/-!
# Letting the actor settle

An actor settles when it makes moves until only the jobs that are held back are
left: messages first, in order, and then the jobs, oldest first.
-/

namespace CompileServer.Actor

variable {σ α : Type}

/-- Makes a move if it is possible. -/
def tryMove (host : Host σ α) (kinds : SourceKinds) (move : ActorMove) (actor : Actor σ α) :
    Actor σ α :=
  (actor.move? host kinds move).getD actor

/-- Takes at most the given number of messages; `seen` is told of every job that starts. -/
def takeMessages (host : Host σ α) (kinds : SourceKinds) (seen : Job α → σ → σ) :
    Nat → Actor σ α → Actor σ α
  | 0, actor => actor
  | fuel + 1, actor =>
    match actor.move? host kinds .take with
    | none => actor
    | some next =>
      let started := (next.inFlight.drop actor.inFlight.length).map Prod.snd
      let world := started.foldl (fun world job => seen job world) next.session.world
      takeMessages host kinds seen fuel
        { next with session := { next.session with world := world } }

/-- Finishes the jobs from a position on that are not held back, looking at no more than the
given number of jobs. -/
def finishJobs (host : Host σ α) (kinds : SourceKinds) (held : Job α → σ → Bool) :
    Nat → Nat → Actor σ α → Actor σ α
  | 0, _, actor => actor
  | fuel + 1, position, actor =>
    match actor.inFlight[position]? with
    | none => actor
    | some (_, job) =>
      if held job actor.session.world then finishJobs host kinds held fuel (position + 1) actor
      else finishJobs host kinds held fuel position (actor.tryMove host kinds (.finish position))

/-- Makes moves until nothing can move but the jobs that are held back. -/
def settle (host : Host σ α) (kinds : SourceKinds) (seen : Job α → σ → σ)
    (held : Job α → σ → Bool) (actor : Actor σ α) : Actor σ α :=
  let taken := actor.takeMessages host kinds seen actor.mailbox.length
  let drained := taken.tryMove host kinds .drain
  let finished := drained.finishJobs host kinds held drained.inFlight.length 0
  finished.tryMove host kinds .stop

end CompileServer.Actor
