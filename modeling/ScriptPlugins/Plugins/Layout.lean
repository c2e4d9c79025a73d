import ScriptPlugins.Plugins.Wrapper

/-!
# Layout of a project

Where a project keeps its scripts, where their wrappers go, and the names of the tasks between which
the work is done.
-/

namespace ScriptPlugins

structure TaskNames where
  /-- Writes the wrappers. -/
  generate : String
  /-- Registers the plugins. -/
  declare : String
  /-- Compiles the project, right after the wrappers have been written. -/
  compile : String
  /-- Publishes the plugins, right after they have been registered. -/
  publish : String
  deriving Repr, DecidableEq

namespace TaskNames

def default : TaskNames :=
  ⟨"generateScriptPluginAdapters", "declareScriptPlugins", "compileKotlin", "pluginDescriptors"⟩

end TaskNames

structure Layout where
  sourceRoot : Path
  scriptPattern : String
  scriptSuffix : String
  namespaceKeywords : List String
  /-- The directory that holds the wrappers and nothing else. -/
  generatedDirectory : Path
  wrapperExtension : String
  tasks : TaskNames
  deriving Repr, DecidableEq

namespace Layout

def default : Layout :=
  { sourceRoot := .ofString "src/main/kotlin"
    scriptPattern := "*.gradle.kts"
    scriptSuffix := Naming.defaultSuffix
    namespaceKeywords := Namespace.defaultKeywords
    generatedDirectory := .ofString "build/generated-sources/kotlin-dsl-plugins/kotlin"
    wrapperExtension := WrapperTemplate.defaultExtension
    tasks := .default }

/-- The layout with its directories as seen from a project's. -/
def relativeTo (layout : Layout) (project : Path) : Layout :=
  { layout with
    sourceRoot := project.join layout.sourceRoot
    generatedDirectory := project.join layout.generatedDirectory }

def scriptAt (layout : Layout) (path : Path) : Script :=
  (Script.ofPath path layout.scriptSuffix).withKeywords layout.namespaceKeywords

end Layout

structure Host where
  /-- The type of the value that a plugin is applied to. -/
  contextType : String
  scriptTemplates : List String
  /-- The implicit imports, by how often they have been asked for before: they may change until a
  build has been configured. -/
  imports : Nat → List String

namespace Host

def defaultTemplates : List String :=
  ["org.gradle.kotlin.dsl.KotlinInitScript",
   "org.gradle.kotlin.dsl.KotlinSettingsScript",
   "org.gradle.kotlin.dsl.KotlinBuildScript"]

/-- A build system whose imports never change. -/
def ofImports (imports : List String) : Host :=
  ⟨WrapperTemplate.defaultContext, defaultTemplates, fun _ => imports⟩

end Host

end ScriptPlugins
