import CompileServer.Compile.Session

/-!
# Loading plugins

A library is loaded once: a later request for it gets the plugins of the first
successful load.  The first library that fails ends the request, and is tried
again by the next request that names it.
-/

namespace CompileServer.Work

variable {σ α : Type}

/-- The plugins of one library, loaded only if it never was. -/
def libraryPlugins (host : Host σ α) (library : Path) : Work σ α (List Plugin) := do
  match (← get).plugins.find? library with
  | some plugins => return plugins
  | none =>
    let plugins ← attempt .pluginLoad (host.loadPlugins library)
    modify fun session => { session with plugins := session.plugins.add library plugins }
    return plugins

/-- The plugins of some libraries in order, apart from those in `seen`; a library counts
where it is named first. -/
def loadPlugins (host : Host σ α) : List Path → List Path → Work σ α (List Plugin)
  | _, [] => return []
  | seen, path :: rest => do
    let library := host.normalize (← get).world path
    if library.isIn seen then loadPlugins host seen rest
    else
      let plugins ← libraryPlugins host library
      let others ← loadPlugins host (library :: seen) rest
      return plugins ++ others

end CompileServer.Work
