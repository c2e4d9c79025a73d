import ScriptPlugins.Plugins.Layout

/-!
# Settings of a project

What a project can say about itself, in sections. Directories are relative to the project's. Every
setting has a default, so a project that says nothing is described by `Settings.default`.
-/

namespace ScriptPlugins

open Text

structure LayoutSettings where
  sourceRoot : Path
  scriptPattern : String
  scriptSuffix : String
  namespaceKeywords : List String
  generatedDirectory : Path
  wrapperExtension : String
  deriving Repr, DecidableEq

structure HostSettings where
  contextType : String
  scriptTemplates : List String
  implicitImports : List String
  deriving Repr, DecidableEq

structure CompilerSettings where
  command : Option String
  descriptorsDirectory : Path
  deriving Repr, DecidableEq

inductive LogFormat where
  | pretty
  | json
  deriving Repr, DecidableEq

structure LogSettings where
  level : String
  format : LogFormat
  deriving Repr, DecidableEq

structure Settings where
  layout : LayoutSettings
  host : HostSettings
  tasks : TaskNames
  compiler : CompilerSettings
  logging : LogSettings
  deriving Repr, DecidableEq

namespace LayoutSettings

def default : LayoutSettings :=
  let layout := Layout.default
  { sourceRoot := layout.sourceRoot
    scriptPattern := layout.scriptPattern
    scriptSuffix := layout.scriptSuffix
    namespaceKeywords := layout.namespaceKeywords
    generatedDirectory := layout.generatedDirectory
    wrapperExtension := layout.wrapperExtension }

end LayoutSettings

namespace HostSettings

def default : HostSettings :=
  { contextType := WrapperTemplate.defaultContext
    scriptTemplates := Host.defaultTemplates
    implicitImports := ["org.gradle.api.*", "org.gradle.api.tasks.*", "org.gradle.kotlin.dsl.*"] }

end HostSettings

namespace CompilerSettings

def default : CompilerSettings :=
  ⟨none, .ofString "build/pluginDescriptors"⟩

end CompilerSettings

namespace LogSettings

def default : LogSettings :=
  ⟨"info", .pretty⟩

end LogSettings

namespace Settings

def default : Settings :=
  ⟨.default, .default, .default, .default, .default⟩

/-- The tasks with the words by which messages call them. -/
def roles (tasks : TaskNames) : List (String × String) :=
  [("generate", tasks.generate), ("declare", tasks.declare), ("compile", tasks.compile),
   ("publish", tasks.publish)]

/-- What is wrong with settings, the first fault only. -/
def fault? (settings : Settings) : Option SettingsFault :=
  let layout := settings.layout
  if layout.scriptPattern.isEmpty then some .emptyPattern
  else if layout.scriptSuffix.isEmpty then some .emptySuffix
  else if layout.namespaceKeywords.isEmpty || layout.namespaceKeywords.any String.isEmpty then
    some .badKeywords
  else if layout.wrapperExtension.isEmpty then some .emptyExtension
  else match (roles settings.tasks).find? (·.2.isEmpty) with
    | some (role, _) => some (.emptyTask role)
    | none =>
      if levelNames.contains settings.logging.level then none
      else some (.badLevel settings.logging.level)

def validate (settings : Settings) : Except Failure Unit :=
  match settings.fault? with
  | some fault => .error (.settings fault)
  | none => .ok ()

/-- The layout with its directories as seen from the project's. -/
def layoutAt (settings : Settings) (project : Path) : Layout :=
  let layout := settings.layout
  Layout.relativeTo
    { sourceRoot := layout.sourceRoot
      scriptPattern := layout.scriptPattern
      scriptSuffix := layout.scriptSuffix
      namespaceKeywords := layout.namespaceKeywords
      generatedDirectory := layout.generatedDirectory
      wrapperExtension := layout.wrapperExtension
      tasks := settings.tasks } project

def toHost (settings : Settings) : Host :=
  { contextType := settings.host.contextType
    scriptTemplates := settings.host.scriptTemplates
    imports := fun _ => settings.host.implicitImports }

/-- Where the plugins are published, as seen from the project's directory. -/
def descriptorsAt (settings : Settings) (project : Path) : Path :=
  project.join settings.compiler.descriptorsDirectory

end Settings

end ScriptPlugins
