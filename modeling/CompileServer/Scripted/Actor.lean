import CompileServer.Actor.Settle
import CompileServer.Scripted.Host

/-!
# Actors in scripted worlds

The start of every job is written down, and the job of a file behind a gate is held
back.
-/

namespace CompileServer.Scripted

/-- An actor in a scripted world. -/
abbrev ScriptedActor := CompileServer.Actor World Checked

/-- Writes the start of a job down, unless there is nothing to emit. -/
def noteStart (job : Job Checked) (world : World) : World :=
  if job.isSkipped then world else world.recordEmission (transformCall job)

/-- Whether a job is held back. -/
def isHeld (job : Job Checked) (world : World) : Bool :=
  !job.isSkipped && world.isGated job.task.file

/-- Makes moves until nothing can move but the jobs behind gates. -/
def settle (kinds : SourceKinds) (actor : ScriptedActor) : ScriptedActor :=
  actor.settle host kinds noteStart isHeld

/-- Changes the world of an actor. -/
def changeWorld (change : World → World) (actor : ScriptedActor) : ScriptedActor :=
  { actor with session := { actor.session with world := change actor.session.world } }

end CompileServer.Scripted
