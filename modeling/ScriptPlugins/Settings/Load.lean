import ScriptPlugins.Files.Tree
import ScriptPlugins.Settings.Environment
import ScriptPlugins.Settings.Record
import ScriptPlugins.Toml.Document

/-!
# Loading settings

Settings come in layers, of which later ones win: the defaults, the first settings file that exists,
and the environment. Only what all layers together say is read as settings and judged.
-/

namespace ScriptPlugins.Settings

def fileNames : List Path :=
  ["plugscript.toml", ".plugscript/config.toml"].map Path.ofString

def unreadable : Failure :=
  .settings .unreadable

/-- What a settings file says. Something that is no regular file says nothing. -/
def readFile (tree : Tree) (path : Path) : Except Failure Json :=
  if tree.isFile path then
    match (tree.readText path).toOption.bind Toml.parse with
    | some json => .ok json
    | none => .error unreadable
  else .ok (.object [])

/-- What the settings file of a project says, if it has one. -/
def readProject (tree : Tree) (project : Path) : Except Failure Json :=
  match (fileNames.map project.join).find? tree.exists with
  | some path => readFile tree path
  | none => .ok (.object [])

def load (tree : Tree) (environment : Environment) (project : Path) :
    Except Failure Settings := do
  let written ← readProject tree project
  let layers := (Settings.default.toJson.overlay written).overlay environment.toJson
  match ofJson? false layers with
  | none => .error unreadable
  | some settings =>
    settings.validate
    return settings

end ScriptPlugins.Settings
