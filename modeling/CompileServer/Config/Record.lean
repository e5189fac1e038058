import CompileServer.Config.Basic
import CompileServer.Json.Record

/-!
# Settings as records

Every setting may be left out and then has its default, except the program of a
tool that is configured.
-/

namespace CompileServer

open Json Decoder Record

/-- A setting that is written only if it has a value. -/
def settingIfSome {α : Type} (name : String) (encode : α → Json) (value : Option α) : Members :=
  (value.map fun found => (name, encode found)).toList

/-- Reads the extensions of one kind. -/
def extensionsDecoder : Decoder (List String) :=
  list string

def SourceKinds.record : Record SourceKinds :=
  SourceKinds.mk <$> defaulted "project" SourceKinds.standard.project extensionsDecoder
    <*> defaulted "script" SourceKinds.standard.script extensionsDecoder
    <*> defaulted "source" SourceKinds.standard.source extensionsDecoder
    <*> defaulted "signature" SourceKinds.standard.signature extensionsDecoder

def SourceKinds.decoder : Decoder SourceKinds :=
  SourceKinds.record.decoder "SourcesConfig"

def SourceKinds.toJson (kinds : SourceKinds) : Json :=
  .obj [("project", .strings kinds.project), ("script", .strings kinds.script),
    ("source", .strings kinds.source), ("signature", .strings kinds.signature)]

def ServerSettings.record : Record ServerSettings :=
  ServerSettings.mk <$> defaulted "log_level" ServerSettings.standard.logLevel string
    <*> defaulted "log_rotation" ServerSettings.standard.logRotation string
    <*> defaulted "mailbox_capacity" ServerSettings.standard.mailboxCapacity
      (natural64 "usize")

def ServerSettings.decoder : Decoder ServerSettings :=
  ServerSettings.record.decoder "ServerConfig"

def ServerSettings.toJson (settings : ServerSettings) : Json :=
  .obj [("log_level", .str settings.logLevel), ("log_rotation", .str settings.logRotation),
    ("mailbox_capacity", .nat settings.mailboxCapacity)]

def ToolCommand.record : Record ToolCommand :=
  ToolCommand.mk <$> required "program" string <*> defaulted "args" [] (list string)

def ToolCommand.decoder : Decoder ToolCommand :=
  ToolCommand.record.decoder "ToolCommand"

def ToolCommand.toJson (command : ToolCommand) : Json :=
  .obj [("program", .str command.program), ("args", .strings command.arguments)]

def ToolSettings.record : Record ToolSettings :=
  ToolSettings.mk <$> defaulted "build_options" none (Decoder.nullable ToolCommand.decoder)
    <*> defaulted "frontend" none (Decoder.nullable ToolCommand.decoder)
    <*> defaulted "codegen" none (Decoder.nullable ToolCommand.decoder)

def ToolSettings.decoder : Decoder ToolSettings :=
  ToolSettings.record.decoder "ToolchainConfig"

def ToolSettings.toJson (settings : ToolSettings) : Json :=
  .obj (settingIfSome "build_options" ToolCommand.toJson settings.buildOptions
    ++ settingIfSome "frontend" ToolCommand.toJson settings.frontEnd
    ++ settingIfSome "codegen" ToolCommand.toJson settings.codeGen)

def Config.record : Record Config :=
  Config.mk <$> defaulted "sources" SourceKinds.standard SourceKinds.decoder
    <*> defaulted "server" ServerSettings.standard ServerSettings.decoder
    <*> defaulted "toolchain" ToolSettings.standard ToolSettings.decoder

def Config.decoder : Decoder Config :=
  Config.record.decoder "Config"

def Config.toJson (config : Config) : Json :=
  .obj [("sources", config.sources.toJson), ("server", config.server.toJson),
    ("toolchain", config.toolchain.toJson)]

end CompileServer
