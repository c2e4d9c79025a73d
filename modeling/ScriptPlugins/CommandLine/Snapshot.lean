import ScriptPlugins.CommandLine.Run
import ScriptPlugins.Files.Change
import ScriptPlugins.Files.Inventory
import ScriptPlugins.Json.Reader
import ScriptPlugins.Json.Record
import ScriptPlugins.Programs.Standard

/-!
# Snapshots

A command works on a file tree and an environment, not on the ones of the machine. A snapshot holds
both as a JSON object: `files` lists paths with their texts, and `env` has the variables by name.
What a command leaves is written the same way, with what it printed.
-/

namespace ScriptPlugins

open Text

structure Snapshot where
  tree : Tree
  environment : Environment
  deriving Repr, DecidableEq

namespace Snapshot

def fileOf? : Json → Option (Path × Entry)
  | .list [.text (some path), .text (some text)] =>
    some (.ofString path, .file (Utf8.ofString text))
  | _ => none

def variableOf? : Option String × Json → Option Variable
  | (some name, .text (some value)) => some ⟨name, value⟩
  | _ => none

def treeOf? (files : Json) : Option Tree :=
  match files with
  | .list items => items.foldlM (fun tree item => do
      let (path, entry) ← fileOf? item
      (tree.create path entry).toOption) Tree.empty
  | _ => none

def environmentOf? : Json → Option Environment
  | .object fields => fields.mapM variableOf?
  | _ => none

def ofJson? (json : Json) : Option Snapshot := do
  match ← json.parts? true ["files", "env"] with
  | [files, assigned] =>
    return ⟨← treeOf? (files.getD (.list [])), ← environmentOf? (assigned.getD (.object []))⟩
  | _ => none

def ofItem (item : Inventory.Item) : Json :=
  .ofStrings (item.name :: item.contents.toList)

def ofEvent (event : Event) : Json :=
  .ofStrings [event.level.label, event.message]

def ofReport (report : Report) (tree : Tree) : Json :=
  .ofFields [("output", .ofString report.output),
    ("error", (report.trouble.map fun trouble => Json.ofString trouble.render).getD .null),
    ("log", .list (report.events.map ofEvent)),
    ("files", .list ((Inventory.ofTree tree tree.home).map ofItem))]

/-- Runs a command on the snapshot that a text holds: the exit code, and what to print. -/
def run (arguments : List String) (text : String) : Nat × String :=
  match (Json.parse text).bind ofJson? with
  | none => (2, "")
  | some snapshot =>
    let (report, tree) :=
      Command.run arguments snapshot.environment Programs.standard snapshot.tree
    (report.exit, (ofReport report tree).render)

end Snapshot

end ScriptPlugins
