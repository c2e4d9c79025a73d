import ScriptPlugins.Proofs.Json.Overlay
import ScriptPlugins.Proofs.Settings.Record

/-!
# Keys of the settings

Every setting has a key, which is the name of a section and a name in it. What is read under the key
depends on nothing else than what stands there: in an object under the name, and in a list in the
place that the name has among the names of the section.
-/

namespace ScriptPlugins.Settings

/-- The keys, by what their settings are. -/
inductive Leaf : Type → Type where
  | sourceRoot : Leaf Path
  | scriptPattern : Leaf String
  | scriptSuffix : Leaf String
  | namespaceKeywords : Leaf (List String)
  | generatedDirectory : Leaf Path
  | wrapperExtension : Leaf String
  | contextType : Leaf String
  | scriptTemplates : Leaf (List String)
  | implicitImports : Leaf (List String)
  | generate : Leaf String
  | declare : Leaf String
  | compile : Leaf String
  | publish : Leaf String
  | command : Leaf (Option String)
  | descriptorsDirectory : Leaf Path
  | level : Leaf String
  | format : Leaf LogFormat

namespace Leaf

variable {α : Type}

def place : Leaf α → Section
  | .sourceRoot | .scriptPattern | .scriptSuffix | .namespaceKeywords | .generatedDirectory
  | .wrapperExtension => .layout
  | .contextType | .scriptTemplates | .implicitImports => .host
  | .generate | .declare | .compile | .publish => .tasks
  | .command | .descriptorsDirectory => .compiler
  | .level | .format => .logging

def name : Leaf α → String
  | .sourceRoot => "sourceRoot"
  | .scriptPattern => "scriptPattern"
  | .scriptSuffix => "scriptSuffix"
  | .namespaceKeywords => "namespaceKeywords"
  | .generatedDirectory => "generatedSourcesDir"
  | .wrapperExtension => "wrapperExtension"
  | .contextType => "projectContextType"
  | .scriptTemplates => "scriptTemplates"
  | .implicitImports => "implicitImports"
  | .generate => "generate"
  | .declare => "declare"
  | .compile => "compile"
  | .publish => "publish"
  | .command => "command"
  | .descriptorsDirectory => "descriptorsDir"
  | .level => "level"
  | .format => "format"

/-- The setting that a value under the key is read as. -/
def read : {α : Type} → Leaf α → Json → Option α
  | _, .sourceRoot | _, .generatedDirectory | _, .descriptorsDirectory => Json.path?
  | _, .namespaceKeywords | _, .scriptTemplates | _, .implicitImports => Json.strings?
  | _, .scriptPattern | _, .scriptSuffix | _, .wrapperExtension | _, .contextType | _, .generate
  | _, .declare | _, .compile | _, .publish | _, .level => Json.string?
  | _, .command => fun json => Json.optional? Json.string? (some json)
  | _, .format => LogFormat.ofJson?

def value : {α : Type} → Leaf α → Settings → α
  | _, .sourceRoot => (·.layout.sourceRoot)
  | _, .scriptPattern => (·.layout.scriptPattern)
  | _, .scriptSuffix => (·.layout.scriptSuffix)
  | _, .namespaceKeywords => (·.layout.namespaceKeywords)
  | _, .generatedDirectory => (·.layout.generatedDirectory)
  | _, .wrapperExtension => (·.layout.wrapperExtension)
  | _, .contextType => (·.host.contextType)
  | _, .scriptTemplates => (·.host.scriptTemplates)
  | _, .implicitImports => (·.host.implicitImports)
  | _, .generate => (·.tasks.generate)
  | _, .declare => (·.tasks.declare)
  | _, .compile => (·.tasks.compile)
  | _, .publish => (·.tasks.publish)
  | _, .command => (·.compiler.command)
  | _, .descriptorsDirectory => (·.compiler.descriptorsDirectory)
  | _, .level => (·.logging.level)
  | _, .format => (·.logging.format)

/-- What stands under the key. -/
def in? (leaf : Leaf α) (json : Json) : Option Json :=
  (json.field? leaf.place.name).bind (Json.partIn? leaf.place.partNames leaf.name)

/-- The value is what is read from what stands under the key, or the default if nothing does. -/
def Holds (leaf : Leaf α) (part : Option Json) (value : α) : Prop :=
  match part with
  | some json => leaf.read json = some value
  | none => value = leaf.value .default

variable {leaf : Leaf α} {part : Option Json} {held : α}

section Sections

variable {exact : Bool} {json : Json} {settings : Settings}

/-- What a section is read from has under each of its keys the setting that is read. -/
def Reads (json : Json) (settings : Settings) (which : Section) : Prop :=
  ∀ {α : Type} (leaf : Leaf α), leaf.place = which →
    leaf.Holds (json.partIn? which.partNames leaf.name) (leaf.value settings)

end Sections

end Leaf

end ScriptPlugins.Settings
