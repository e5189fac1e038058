import CompileServer.Config.Document
import CompileServer.FileSystem.Basic

/-!
# Finding the settings

The settings come from the file of the folder, else from the file of the user, else
they are the defaults.  A file that cannot be used is passed over, unless it was
asked for by name.
-/

namespace CompileServer

/-- The variables of the environment, and the home of the user if no variable names it. -/
structure Environment where
  bindings : List (String × String)
  userHome : Path

/-- The value of a variable. -/
def Environment.get? (environment : Environment) (name : String) : Option String :=
  environment.bindings.lookup name

/-- The home of the user. -/
def Environment.home (environment : Environment) : Path :=
  match environment.get? "HOME" with
  | some home => if home = "" then environment.userHome else ⟨home⟩
  | none => environment.userHome

/-- Why settings could not be loaded from a file. -/
inductive ConfigError where
  /-- The file could not be read. -/
  | read (path : Path) (fault : FileFault)
  /-- The file holds no settings. -/
  | parse (path : Path)
deriving DecidableEq, Repr

/-- The message of the error. -/
def ConfigError.message : ConfigError → String
  | .read path fault => "Failed to read config " ++ path.text ++ ": " ++ fault.message
  | .parse path => "Invalid config " ++ path.text

namespace Config

/-- The settings in a file. -/
def load (files : FileSystem) (path : Path) : Except ConfigError Config :=
  match files.readText path with
  | .error fault => .error (.read path fault)
  | .ok text =>
    match parse? text with
    | some config => .ok config
    | none => .error (.parse path)

/-- The file of a folder. -/
def projectPath (folder : Path) : Path :=
  folder.join ⟨".compilerd.toml"⟩

/-- The file of the user. -/
def userPath (environment : Environment) : Path :=
  match environment.get? "COMPILERD_CONFIG_DIR" with
  | some folder => Path.join ⟨folder⟩ ⟨"config.toml"⟩
  | none =>
    let folder : Path := match environment.get? "XDG_CONFIG_HOME" with
      | some folder => ⟨folder⟩
      | none => environment.home.join ⟨".config"⟩
    (folder.join ⟨"compilerd"⟩).join ⟨"config.toml"⟩

/-- The settings in a file, if it is there and can be used. -/
def loadIfUsable (files : FileSystem) (path : Path) : Option Config :=
  if files.has path then (load files path).toOption else none

/-- The settings for a folder. -/
def loadFor (files : FileSystem) (environment : Environment) (folder : Path) : Config :=
  match loadIfUsable files (projectPath folder) with
  | some config => config
  | none => (loadIfUsable files (userPath environment)).getD .standard

end Config

end CompileServer
