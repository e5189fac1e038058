import CompileServer.Compile.Host
import CompileServer.Project.Store

/-!
# Sessions

A session is all that the server remembers between requests, the log of the
request at hand, and the host.  Work on a request reads and changes the session;
what it changed stays changed when the work fails.
-/

namespace CompileServer

/-- The plugins of the libraries loaded so far, by normalised path. -/
structure PluginCache where
  entries : List (Path × List Plugin)

namespace PluginCache

/-- The cache without libraries. -/
def empty : PluginCache :=
  ⟨[]⟩

/-- The plugins of a library, if it was loaded. -/
def find? (cache : PluginCache) (library : Path) : Option (List Plugin) :=
  (cache.entries.find? fun entry => decide (library ≈ entry.1)).map Prod.snd

/-- Adds a library that was not loaded before. -/
def add (cache : PluginCache) (library : Path) (plugins : List Plugin) : PluginCache :=
  ⟨cache.entries ++ [(library, plugins)]⟩

/-- The number of libraries. -/
def size (cache : PluginCache) : Nat :=
  cache.entries.length

/-- Whether no library was loaded. -/
def isEmpty (cache : PluginCache) : Bool :=
  cache.entries.isEmpty

end PluginCache

/-- What the server remembers, the log of the request at hand, and the host. -/
structure Session (σ α : Type) where
  store : Store α
  plugins : PluginCache
  /-- The number of analyses made so far; it numbers the next one. -/
  analyses : Nat
  log : Log
  world : σ

/-- The session before the first request. -/
def Session.start {σ α : Type} (world : σ) : Session σ α :=
  ⟨.empty, .empty, 0, [], world⟩

/-- Why work on a request ended early. -/
inductive Fault where
  | rejected (error : CompileError)
  | panicked (panic : Panic)

/-- Work on a request. -/
abbrev Work (σ α β : Type) := ExceptT Fault (StateM (Session σ α)) β

namespace Work

variable {σ α β : Type}

/-- Fails with an error. -/
def reject (error : CompileError) : Work σ α β :=
  throw (.rejected error)

/-- Calls the host and gives back its panics as faults. -/
def call (call : Call σ β) : Work σ α β := fun session =>
  match call session.world with
  | (.ok value, world) => (.ok value, { session with world := world })
  | (.error panic, world) => (.error (.panicked panic), { session with world := world })

/-- Calls the host; what it refuses is an error of the request. -/
def attempt {ε : Type} (refuse : ε → CompileError) (call : Call σ (Except ε β)) :
    Work σ α β := do
  match ← Work.call call with
  | .ok value => return value
  | .error reason => reject (refuse reason)

/-- The number for a new analysis. -/
def nextGeneration : Work σ α Nat :=
  modifyGet fun session => (session.analyses + 1, { session with analyses := session.analyses + 1 })

/-- Changes the log. -/
def writeLog (change : Log → Log) : Work σ α Unit :=
  modify fun session => { session with log := change session.log }

end Work

end CompileServer
