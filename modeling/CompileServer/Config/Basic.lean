import CompileServer.SourceKind

/-!
# Configuration

The settings of the server, their defaults, and the form in which the running
server uses them.
-/

namespace CompileServer

/-- How the server runs. -/
structure ServerSettings where
  logLevel : String
  logRotation : String
  /-- How many messages wait for the compiler at most. -/
  mailboxCapacity : Nat
deriving DecidableEq, Repr

/-- The settings that hold unless others are configured. -/
def ServerSettings.standard : ServerSettings :=
  ⟨"info", "daily", 256⟩

/-- A program with its first arguments; the operation follows as the last argument. -/
structure ToolCommand where
  program : String
  arguments : List String
deriving DecidableEq, Repr

/-- The programs that do the work of the collaborators. -/
structure ToolSettings where
  buildOptions : Option ToolCommand
  frontEnd : Option ToolCommand
  codeGen : Option ToolCommand
deriving DecidableEq, Repr

/-- No program is configured. -/
def ToolSettings.standard : ToolSettings :=
  ⟨none, none, none⟩

/-- All settings. -/
structure Config where
  sources : SourceKinds
  server : ServerSettings
  toolchain : ToolSettings
deriving DecidableEq, Repr

/-- The settings that hold unless others are configured. -/
def Config.standard : Config :=
  ⟨.standard, .standard, .standard⟩

instance : Inhabited Config := ⟨.standard⟩

/-- What a compiler has to know of the settings. -/
structure CompilerSettings where
  sources : SourceKinds
  /-- How many messages may wait. -/
  mailboxCapacity : Nat
  mailbox_pos : 0 < mailboxCapacity

/-- A mailbox holds at least one message, whatever is configured. -/
def CompilerSettings.ofConfig (config : Config) : CompilerSettings :=
  ⟨config.sources, max config.server.mailboxCapacity 1,
    Nat.lt_of_lt_of_le Nat.one_pos (Nat.le_max_right _ _)⟩

end CompileServer
