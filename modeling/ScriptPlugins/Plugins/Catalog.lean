import ScriptPlugins.Plugins.Script

/-!
# The catalog of plugins

Plugins are registered under their ids, first come, first served: an id that is taken is refused,
with the class that has it. Publishing writes one small file for each plugin. Its name is the id, so
every id must be usable as the name of a file in the directory, and nothing is written unless all
are.
-/

namespace ScriptPlugins

open Text

structure Catalog where
  /-- The registered plugins, in the order of their registration. -/
  plugins : List Plugin
  deriving Repr, DecidableEq

namespace Catalog

def empty : Catalog := ⟨[]⟩

def find? (catalog : Catalog) (id : String) : Option Plugin :=
  catalog.plugins.find? (·.id == id)

def register (catalog : Catalog) (plugin : Plugin) : Outcome Catalog Failure Unit :=
  match catalog.find? plugin.id with
  | some taken => .error (.duplicateId plugin.id taken.implementationClass) catalog []
  | none =>
    .ok () ⟨catalog.plugins ++ [plugin]⟩ [⟨.debug, .catalog, "Registered plugin descriptor"⟩]

/-- Whether an id names a file in whatever directory it is joined to. -/
def isPublishable (id : String) : Bool :=
  id != "" && id != "." && id != ".." && !id.toList.contains '/' && !id.toList.contains '\\'

def pathOf (directory : Path) (plugin : Plugin) : Path :=
  directory.join (.ofString (plugin.id ++ ".properties"))

def properties (plugin : Plugin) : String :=
  "implementation-class=" ++ plugin.implementationClass ++ "\n"

def writeEach (directory : Path) : List Plugin → Tree → Outcome Tree Failure (List Path)
  | [], tree => .ok [] tree []
  | plugin :: rest, tree =>
    let path := pathOf directory plugin
    match tree.write path (Utf8.ofString (properties plugin)) with
    | .error fault => .error (.files path fault) tree []
    | .ok tree =>
      (writeEach directory rest tree).andThen fun paths tree => .ok (path :: paths) tree []

/-- Publishes all plugins into a directory, which is made if need be. -/
def publish (catalog : Catalog) (directory : Path) (tree : Tree) :
    Outcome Tree Failure (List Path) :=
  if catalog.plugins.isEmpty then .ok [] tree []
  else match catalog.plugins.find? (!isPublishable ·.id) with
    | some plugin => .error (.invalidId plugin.id) tree []
    | none =>
      match tree.makeDirectories directory with
      | (.error fault, tree) => .error (.files directory fault) tree []
      | (.ok (), tree) =>
        (writeEach directory catalog.plugins tree).andThen fun paths tree =>
          .ok paths tree [⟨.info, .catalog, "Published plugin descriptors"⟩]

end Catalog

end ScriptPlugins
