import CompileServer.Compile.Error
import CompileServer.Program.Machine
import CompileServer.Text.Quoted

/-!
# Commands about settings

Showing the settings that hold says first where they come from.  A file with settings is
only written where there is none.
-/

namespace CompileServer.Settings

/-- The settings in the file that was named, else those for the current folder. -/
def load (machine : Machine) (file : Option String) : Except Causes Config :=
  match file with
  | some name =>
    (Config.load machine.files ⟨name⟩).mapError fun error =>
      ["Failed to load config " ++ name, error.message]
  | none =>
    .ok (Config.loadFor machine.files machine.environment
      (FileSystem.pathOf machine.files.current))

/-- The words for where the settings come from. -/
def source (machine : Machine) (file : Option String) : String :=
  let project := Config.projectPath (FileSystem.pathOf machine.files.current)
  let user := Config.userPath machine.environment
  match file with
  | some name => "Using config: " ++ Text.quoted name
  | none =>
    if machine.files.has project then "Using project config: " ++ Text.quoted project.text
    else if machine.files.has user then "Using user config: " ++ Text.quoted user.text
    else "Using default configuration (no config file found)"

/-- The settings, after a heading. -/
def describe (machine : Machine) (file : Option String) (config : Config) : String :=
  "Effective configuration for: "
    ++ Text.quoted (FileSystem.pathOf machine.files.current).text ++ "\n\n"
    ++ source machine file ++ "\n\n" ++ config.print ++ "\n"

/-- Writes the settings to start from to the file of the current folder. -/
def createFile (machine : Machine) : Except Causes (String × Machine) :=
  let path := Config.projectPath (FileSystem.pathOf machine.files.current)
  let name := Text.quoted path.text
  if machine.files.has path then
    .error ["Config file already exists: " ++ name ++ " (delete it first to regenerate)"]
  else
    match machine.files.write path Config.template.toUTF8 with
    | .ok files =>
      .ok ("Created project config: " ++ name ++ "\n"
        ++ "Fill in the [toolchain] section before running \x60compilerd serve\x60.\n",
        { machine with files := files })
    | .error fault => .error ["Failed to write " ++ name, fault.message]

end CompileServer.Settings
