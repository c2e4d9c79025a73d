import ScriptPlugins.Json.Writer
import ScriptPlugins.Plugins.Pass
import ScriptPlugins.Text.Columns

/-!
# Listing the plugins of a project

One entry for each script, with all its names, shown as a table or as JSON. The script is shown by
its path as seen from the project, if it lies below it.
-/

namespace ScriptPlugins

open Text

structure Listing.Entry where
  id : String
  implementationClass : String
  compiledType : String
  source : String
  deriving Repr, DecidableEq

namespace Listing

def entryOf (project : Path) (tree : Tree) (script : Script) :
    Except Failure (Entry × Script) := do
  let (id, script) ← script.id tree
  let (compiledType, script) ← script.compiledType tree
  let source := (script.path.below? project).getD script.path
  return (⟨id, script.wrapperClass, compiledType, source.display⟩, script)

def entries (project : Path) (pass : Pass) (tree : Tree) : Outcome Pass Failure (List Entry) :=
  pass.ask (entryOf project tree) tree

def heading : Columns.Row :=
  ["ID", "CLASS", "COMPILED TYPE", "SOURCE"].map String.toList

def row (entry : Entry) : Columns.Row :=
  [entry.id, entry.implementationClass, entry.compiledType, entry.source].map String.toList

/-- The entries as a table, unless there are none. There is no table if a name is too long for it. -/
def table? (entries : List Entry) : Option String :=
  if entries.isEmpty then some "No script plugins found."
  else (Columns.table? heading (entries.map row)).map fun lines => String.ofList (join '\n' lines)

def toJson (entry : Entry) : Json :=
  .ofFields [("id", .ofString entry.id),
    ("implementationClass", .ofString entry.implementationClass),
    ("compiledType", .ofString entry.compiledType),
    ("source", .ofString entry.source)]

def json (entries : List Entry) : String :=
  (Json.list (entries.map toJson)).render

end Listing

end ScriptPlugins
