import CompileServer.Compile.Job
import CompileServer.Compile.Loading
import CompileServer.Compile.Serving
import CompileServer.Wire.Decode

/-!
# Preparing requests

Preparing a request decodes it, loads its plugins and resolves its file.  What
comes out is a job, or the reply that says why there is none.
-/

namespace CompileServer

variable {σ α : Type}

/-- Decodes a request, loads its plugins and resolves its file. -/
def Work.prepare (host : Host σ α) (kinds : SourceKinds) (payload : Json) : Work σ α (Job α) := do
  match Json.decode CompileRequest.decoder payload with
  | .error failure => reject (.decode failure)
  | .ok request =>
    let file := host.normalize (← get).world request.path
    let plugins ← loadPlugins host [] request.plugins
    let task := CompileTask.ofRequest file request plugins
    modify fun session => { session with log := [] }
    let project ← resolve host kinds task
    return ⟨project, task, (← get).log⟩

/-- The reply to a request that could not be prepared. -/
def Fault.reply : Fault → Reply
  | .rejected error => error.reply
  | .panicked panic =>
    (CompileError.internal ("request handling panicked: " ++ panic.text)).reply

/-- Prepares a request in a session. -/
def Session.prepare (host : Host σ α) (kinds : SourceKinds) (payload : Json)
    (session : Session σ α) : Except Reply (Job α) × Session σ α :=
  match Work.prepare host kinds payload session with
  | (.ok job, session) => (.ok job, session)
  | (.error fault, session) => (.error fault.reply, session)

end CompileServer
