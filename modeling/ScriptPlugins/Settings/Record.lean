import ScriptPlugins.Json.Record
import ScriptPlugins.Plugins.Compiler
import ScriptPlugins.Settings.Basic

/-!
# Settings as JSON

The sections of the settings may be left out, and so may the compiler's command; every other part
of a section must be there, and of the right kind. A missing section is the default one, but null is
no section.
-/

namespace ScriptPlugins

open Text

namespace Json

def path? (json : Json) : Option Path :=
  json.string?.map Path.ofString

def ofPath (path : Path) : Json :=
  .ofString path.display

/-- What a part that may be missing or null holds. -/
def optional? {α : Type} (read : Json → Option α) : Option Json → Option (Option α)
  | none | some .null => some none
  | some json => (read json).map some

/-- What a part that may be missing holds, or else the default. -/
def withDefault {α : Type} (read : Json → Option α) (default : α) : Option Json → Option α
  | none => some default
  | some json => read json

end Json

namespace LayoutSettings

def names : List String :=
  ["sourceRoot", "scriptPattern", "scriptSuffix", "namespaceKeywords", "generatedSourcesDir",
   "wrapperExtension"]

def ofJson? (exact : Bool) (json : Json) : Option LayoutSettings := do
  match ← json.parts? exact names with
  | [some root, some pattern, some suffix, some keywords, some generated, some extension] =>
    return {
      sourceRoot := ← root.path?
      scriptPattern := ← pattern.string?
      scriptSuffix := ← suffix.string?
      namespaceKeywords := ← keywords.strings?
      generatedDirectory := ← generated.path?
      wrapperExtension := ← extension.string? }
  | _ => none

def toJson (layout : LayoutSettings) : Json :=
  .ofFields (names.zip [.ofPath layout.sourceRoot, .ofString layout.scriptPattern,
    .ofString layout.scriptSuffix, .ofStrings layout.namespaceKeywords,
    .ofPath layout.generatedDirectory, .ofString layout.wrapperExtension])

end LayoutSettings

namespace HostSettings

def names : List String :=
  ["projectContextType", "scriptTemplates", "implicitImports"]

def ofJson? (exact : Bool) (json : Json) : Option HostSettings := do
  match ← json.parts? exact names with
  | [some contextType, some templates, some imports] =>
    return ⟨← contextType.string?, ← templates.strings?, ← imports.strings?⟩
  | _ => none

def toJson (host : HostSettings) : Json :=
  .ofFields (names.zip [.ofString host.contextType, .ofStrings host.scriptTemplates,
    .ofStrings host.implicitImports])

end HostSettings

namespace TaskNames

def names : List String :=
  ["generate", "declare", "compile", "publish"]

def ofJson? (exact : Bool) (json : Json) : Option TaskNames := do
  match ← json.parts? exact names with
  | [some generate, some declare, some compile, some publish] =>
    return ⟨← generate.string?, ← declare.string?, ← compile.string?, ← publish.string?⟩
  | _ => none

def toJson (tasks : TaskNames) : Json :=
  .ofFields (names.zip [.ofString tasks.generate, .ofString tasks.declare,
    .ofString tasks.compile, .ofString tasks.publish])

end TaskNames

namespace CompilerSettings

def names : List String :=
  ["command", "descriptorsDir"]

def ofJson? (exact : Bool) (json : Json) : Option CompilerSettings := do
  match ← json.parts? exact names with
  | [command, some directory] =>
    return ⟨← Json.optional? Json.string? command, ← directory.path?⟩
  | _ => none

def toJson (compiler : CompilerSettings) : Json :=
  .ofFields (names.zip [(compiler.command.map Json.ofString).getD .null,
    .ofPath compiler.descriptorsDirectory])

end CompilerSettings

namespace LogFormat

def name : LogFormat → String
  | .pretty => "pretty"
  | .json => "json"

def ofName? (text : String) : Option LogFormat :=
  [LogFormat.pretty, LogFormat.json].find? (·.name == text)

/-- A format is written as its name, or as an object with nothing under its name. -/
def ofJson? : Json → Option LogFormat
  | .text value => value.bind ofName?
  | .object [(name, .null)] => name.bind ofName?
  | _ => none

end LogFormat

namespace LogSettings

def names : List String :=
  ["level", "format"]

def ofJson? (exact : Bool) (json : Json) : Option LogSettings := do
  match ← json.parts? exact names with
  | [some level, some format] => return ⟨← level.string?, ← LogFormat.ofJson? format⟩
  | _ => none

def toJson (logging : LogSettings) : Json :=
  .ofFields (names.zip [.ofString logging.level, .ofString logging.format.name])

end LogSettings

namespace Settings

def names : List String :=
  ["layout", "host", "tasks", "toolchain", "logging"]

def ofJson? (exact : Bool) (json : Json) : Option Settings := do
  match ← json.parts? exact names with
  | [layout, host, tasks, compiler, logging] =>
    return {
      layout := ← Json.withDefault (LayoutSettings.ofJson? exact) .default layout
      host := ← Json.withDefault (HostSettings.ofJson? exact) .default host
      tasks := ← Json.withDefault (TaskNames.ofJson? exact) .default tasks
      compiler := ← Json.withDefault (CompilerSettings.ofJson? exact) .default compiler
      logging := ← Json.withDefault (LogSettings.ofJson? exact) .default logging }
  | _ => none

def toJson (settings : Settings) : Json :=
  .ofFields (names.zip [settings.layout.toJson, settings.host.toJson, settings.tasks.toJson,
    settings.compiler.toJson, settings.logging.toJson])

end Settings

namespace Plugin

def names : List String :=
  ["id", "implementationClass"]

def ofJson? (json : Json) : Option Plugin := do
  match ← json.parts? true names with
  | [some id, some implementationClass] => return ⟨← id.string?, ← implementationClass.string?⟩
  | _ => none

def toJson (plugin : Plugin) : Json :=
  .ofFields (names.zip [.ofString plugin.id, .ofString plugin.implementationClass])

end Plugin

namespace CompilerArguments

def names : List String :=
  ["scriptTemplates", "implicitImports"]

def ofJson? (json : Json) : Option CompilerArguments := do
  match ← json.parts? true names with
  | [some templates, some imports] => return ⟨← templates.strings?, ← imports.strings?⟩
  | _ => none

def toJson (arguments : CompilerArguments) : Json :=
  .ofFields (names.zip [.ofStrings arguments.scriptTemplates,
    .ofStrings arguments.implicitImports])

end CompilerArguments

end ScriptPlugins
