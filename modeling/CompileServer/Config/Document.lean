import CompileServer.Config.Record
import CompileServer.Toml.Printer

/-!
# Settings as documents

The settings are kept in a configuration document.  A document overlays the
defaults: what it leaves out has its default, and what it says besides the settings
is passed over.
-/

namespace CompileServer

open Toml (Table Value)

/-- A list of texts. -/
def Toml.Value.strings (texts : List String) : Value :=
  .arr (texts.map .str)

def SourceKinds.toTable (kinds : SourceKinds) : Table :=
  [("project", .strings kinds.project), ("script", .strings kinds.script),
    ("source", .strings kinds.source), ("signature", .strings kinds.signature)]

def ServerSettings.toTable (settings : ServerSettings) : Table :=
  [("log_level", .str settings.logLevel), ("log_rotation", .str settings.logRotation),
    ("mailbox_capacity", .int settings.mailboxCapacity)]

def ToolCommand.toTable (command : ToolCommand) : Table :=
  [("program", .str command.program), ("args", .strings command.arguments)]

/-- The entry of a tool, if it is configured. -/
def ToolCommand.entries (name : String) (command : Option ToolCommand) : Table :=
  (command.map fun command => (name, Value.table command.toTable)).toList

def ToolSettings.toTable (settings : ToolSettings) : Table :=
  ToolCommand.entries "build_options" settings.buildOptions
    ++ ToolCommand.entries "frontend" settings.frontEnd
    ++ ToolCommand.entries "codegen" settings.codeGen

/-- The table of all settings. -/
def Config.toTable (config : Config) : Table :=
  [("sources", .table config.sources.toTable), ("server", .table config.server.toTable),
    ("toolchain", .table config.toolchain.toTable)]

/-- The document of all settings. -/
def Config.print (config : Config) : String :=
  Toml.print config.toTable

/-- The settings that a table describes, if it describes any. -/
def Config.ofTable? (table : Table) : Option Config :=
  match Config.decoder .configuration (Value.table table).toDraft with
  | .ok config => some config
  | .error _ => none

/-- The settings in a document, if it has no faults. -/
def Config.parse? (text : String) : Option Config :=
  (Toml.parse? text).bind Config.ofTable?

/-- The document that a new configuration starts from: the defaults, and how tools would be
added. -/
def Config.template : String :=
  "# compilerd configuration\n\n" ++ Config.standard.print ++ "\n"
    ++ "# External collaborators. The operation name is appended to \x60args\x60.\n"
    ++ "# [toolchain.build_options]\n# program = \"project-cracker\"\n\n"
    ++ "# [toolchain.frontend]\n# program = \"checker\"\n\n"
    ++ "# [toolchain.codegen]\n# program = \"codegen\"\n"

end CompileServer
